import Schematic.Annotation.Value

/-!
# Annotations

An annotation is a class, a literal, a union, a parameterized class, or one of
these behind wrappers: an alias, a new type, a qualifier, or metadata. A union
is written with a name or with bars; both mean the same. A wrapper around the
value `None` wraps nothing, since its content cannot be told from no content.
Any other object may stand where a type is expected: a value, a collection of
objects, a function. It is no type then, but has its own name all the same.
-/

namespace Schematic

/-- A named form that stands for a class of collections. -/
structure TypingForm where
  name : String
  origin : ClassRef
  deriving DecidableEq, Repr

inductive UnionStyle where
  | named
  | barred
  deriving DecidableEq, Repr

inductive Qualifier where
  | required
  | notRequired
  | readOnly
  | classVar
  | final
  | initVar
  deriving DecidableEq, Repr

namespace Qualifier

/-- Whether the qualifier concerns the presence or mutability of a key and nothing else. -/
def isTransparent : Qualifier → Bool
  | required | notRequired | readOnly => true
  | _ => false

def name : Qualifier → String
  | required => "typing.Required"
  | notRequired => "typing.NotRequired"
  | readOnly => "typing_extensions.ReadOnly"
  | classVar => "typing.ClassVar"
  | final => "typing.Final"
  | initVar => "dataclasses.InitVar"

end Qualifier

inductive Metadata where
  /-- A documentation text. -/
  | doc (text : String)
  /-- An object that carries documentation, which may be no text. -/
  | documented (value : Value)
  | plain (value : Value)
  deriving Inhabited

/-- What a parameterized annotation is made from. -/
inductive GenericBase where
  | cls (ref : ClassRef)
  | form (name : TypingForm)
  deriving DecidableEq, Repr

def GenericBase.origin : GenericBase → ClassRef
  | .cls ref => ref
  | .form name => name.origin

/-- A class and a form that stands for it are different bases; two forms of one class are not. -/
def GenericBase.same : GenericBase → GenericBase → Bool
  | .cls a, .cls b => a.same b
  | .form a, .form b => a.origin.same b.origin
  | _, _ => false

/-- The kinds of collections of objects. -/
inductive Shape where
  | tuple
  | list
  | set
  | frozenset
  /-- The bounds of a slice and its step. -/
  | slice
  deriving DecidableEq, Repr

def Shape.name : Shape → String
  | tuple => "tuple"
  | list => "list"
  | set => "set"
  | frozenset => "frozenset"
  | slice => "slice"

inductive Annotation where
  | cls (ref : ClassRef)
  /-- An object that is no type, such as `None`, a text, or a member of an enumeration. -/
  | value (value : Value)
  | ellipsis
  | bare (form : TypingForm)
  /-- A reference by text that has not been followed. -/
  | forward (text : String)
  | literal (values : List Value)
  | union (style : UnionStyle) (members : List Annotation)
  | generic (base : GenericBase) (args : List Annotation)
  | annotated (inner : Annotation) (metadata : List Metadata)
  | qualified (qualifier : Qualifier) (inner : Annotation)
  | synonym (number : Nat) (name : String) (inner : Annotation)
  | newType (number : Nat) (name : String) (inner : Annotation)
  /-- A collection of objects; a tuple or list of plain values is a value. -/
  | collection (shape : Shape) (items : List Annotation)
  /-- A mapping, by its keys and values in turn. -/
  | mapping (entries : List Annotation)
  /-- A built-in function. -/
  | function (name : String)
  /-- An object of which nothing is known but its class, its form, and whether it can be looked up
  in a hash table. -/
  | opaqueObject (kind : ClassRef) (shown : String) (hasHash : Bool)
  deriving Inhabited

namespace Annotation

def noneValue : Annotation := value .none
def noneType : Annotation := cls .noneType

def isNoneValue : Annotation → Bool
  | value .none => true
  | _ => false

/-- An annotation without its wrappers. -/
def strip : Annotation → Annotation
  | synonym n name inner => if inner.isNoneValue then synonym n name inner else strip inner
  | newType n name inner => if inner.isNoneValue then newType n name inner else strip inner
  | annotated inner metadata => if inner.isNoneValue then annotated inner metadata else strip inner
  | qualified qualifier inner =>
    if !qualifier.isTransparent || inner.isNoneValue then qualified qualifier inner else strip inner
  | t => t

/-! ## Equality and hashing -/

end Annotation

namespace Metadata

def same : Metadata → Metadata → Bool
  | doc a, doc b => a = b
  | documented a, documented b => a.equal b
  | plain a, plain b => a.equal b
  | _, _ => false

def sameList : List Metadata → List Metadata → Bool
  | [], [] => true
  | a :: as, b :: bs => a.same b && sameList as bs
  | _, _ => false

def unhashable? : Metadata → Option String
  | plain value => value.unhashable?
  | _ => none

/-- The documentation text that a piece of metadata carries. -/
def documentation? : Metadata → Option String
  | doc text => some text
  | documented (.str text) => some text
  | _ => none

def repr : Metadata → List Char
  | doc text => "Doc(".toList ++ Text.quoted text.toList ++ [')']
  | documented value => "namespace(documentation=".toList ++ value.repr ++ [')']
  | plain value => value.repr

end Metadata

namespace Annotation

/-- Whether a mapping has an entry of a wanted key and value. -/
def hasEntry (isKey isItem : Annotation → Bool) : List Annotation → Bool
  | key :: item :: rest => (isKey key && isItem item) || hasEntry isKey isItem rest
  | _ => false

mutual

/-- Equality of annotations: unions and literals as sets, all else part by part. -/
def same : Annotation → Annotation → Bool
  | cls a, cls b => a.same b
  | value a, value b => a.equal b
  | ellipsis, ellipsis => true
  | bare a, bare b => a = b
  | forward a, forward b => a = b
  | literal a, literal b => Value.sameSet a b
  | union _ a, union _ b => allIn a b && b.all fun y => anySame a y
  | generic a as, generic b bs => a.same b && sameList as bs
  | annotated a m, annotated b n => same a b && Metadata.sameList m n
  | qualified p a, qualified q b => p = q && p ≠ .initVar && same a b
  | synonym n _ _, synonym m _ _ => n = m
  | newType n _ _, newType m _ _ => n = m
  | collection .set a, collection .set b | collection .frozenset a, collection .frozenset b =>
    allIn a b && b.all fun y => anySame a y
  | collection p a, collection q b => p = q && sameList a b
  | mapping a, mapping b => a.length = b.length && entriesIn a b
  | function a, function b => a = b
  | opaqueObject a x _, opaqueObject b y _ => a.same b && x = y
  | _, _ => false

def sameList : List Annotation → List Annotation → Bool
  | [], [] => true
  | a :: as, b :: bs => same a b && sameList as bs
  | _, _ => false

/-- Whether each of some annotations is among others. -/
def allIn : List Annotation → List Annotation → Bool
  | [], _ => true
  | a :: as, bs => bs.any (same a) && allIn as bs

/-- Whether one of some annotations is the given one. -/
def anySame : List Annotation → Annotation → Bool
  | [], _ => false
  | a :: as, b => same a b || anySame as b

/-- Whether each entry of a mapping is among those of another one. -/
def entriesIn : List Annotation → List Annotation → Bool
  | key :: item :: rest, entries =>
    hasEntry (same key) (same item) entries && entriesIn rest entries
  | _, _ => true

end

mutual

/-- The kind of the first part that keeps an annotation from being looked up in a hash table. -/
def unhashable? : Annotation → Option String
  | value v => v.unhashable?
  | literal values => Value.unhashableIn? values
  | union _ members => unhashableIn? members
  | generic _ args => unhashableIn? args
  | annotated inner metadata => (unhashable? inner).or (metadata.findSome? Metadata.unhashable?)
  | qualified qualifier inner => if qualifier = .initVar then none else unhashable? inner
  | collection .tuple items => unhashableIn? items
  | collection .frozenset _ => none
  | collection shape _ => some shape.name
  | mapping _ => some "dict"
  | opaqueObject kind _ hasHash => if hasHash then none else some kind.name
  | _ => none

def unhashableIn? : List Annotation → Option String
  | [] => none
  | t :: rest => (unhashable? t).or (unhashableIn? rest)

end

def isHashable (t : Annotation) : Bool :=
  t.unhashable?.isNone

/-- Annotations without those that are equal to an earlier one. -/
def distinct (types : List Annotation) : List Annotation :=
  types.foldl (fun kept t => if kept.any (same t) then kept else kept ++ [t]) []

/-! ## Rendering -/

def baseName : GenericBase → String
  | .cls ref => ref.fullName
  | .form form => "typing." ++ form.name

def bracketed (name : String) (parts : List (List Char)) : List Char :=
  let inside := if parts.isEmpty then "()".toList else [',', ' '].intercalate parts
  name.toList ++ '[' :: inside ++ [']']

/-- A named union of two members, one of them the none type, is shown as an option. -/
def namedUnion : List (Bool × List Char) → List Char
  | [(true, _), (_, other)] => bracketed "typing.Optional" [other]
  | [(_, other), (true, _)] => bracketed "typing.Optional" [other]
  | parts => bracketed "typing.Union" (parts.map Prod.snd)

def barredUnion (parts : List (Bool × List Char)) : List Char :=
  " | ".toList.intercalate (parts.map fun part => if part.1 then "None".toList else part.2)

def isNoneType : Annotation → Bool
  | cls ref => ref = .noneType
  | _ => false

/-- Items between brackets, as a collection of the given kind shows them. -/
def enclosedItems (shape : Shape) (items : List (List Char)) : List Char :=
  match shape with
  | .tuple => Value.enclosed '(' ')' true items
  | .list => Value.enclosed '[' ']' false items
  | .set => if items.isEmpty then "set()".toList else Value.enclosed '\x7b' '\x7d' false items
  | .frozenset =>
    let inside := if items.isEmpty then [] else Value.enclosed '\x7b' '\x7d' false items
    "frozenset".toList ++ '(' :: inside ++ [')']
  | .slice => "slice".toList ++ Value.enclosed '(' ')' false items

/-- Keys and values in turn, as the entries that they make. -/
def entryTexts : List (List Char) → List (List Char)
  | key :: item :: rest => (key ++ ':' :: ' ' :: item) :: entryTexts rest
  | _ => []

mutual

/-- The full form of an annotation inside another one. -/
def repr : Annotation → List Char
  | cls ref => ref.fullName.toList
  | value v => v.repr
  | ellipsis => "...".toList
  | bare form => "typing.".toList ++ form.name.toList
  | forward text => "ForwardRef(".toList ++ Text.quoted text.toList ++ [')']
  | literal values => bracketed "typing.Literal" (Value.reprItems values)
  | union .named members => namedUnion (reprMembers members)
  | union .barred members => barredUnion (reprMembers members)
  | generic base args => bracketed (baseName base) (reprList args)
  | annotated inner metadata =>
    bracketed "typing.Annotated" (repr inner :: metadata.map Metadata.repr)
  | qualified .initVar (cls ref) | qualified .initVar (generic (.cls ref) _) =>
    bracketed "dataclasses.InitVar" [(ClassRef.lastPart ref.qualname).toList]
  | qualified qualifier inner => bracketed qualifier.name [repr inner]
  | synonym _ name _ => name.toList
  | newType _ name _ => ("m." ++ name).toList
  | collection shape items => enclosedItems shape (displayList items)
  | mapping entries => Value.enclosed '\x7b' '\x7d' false (entryTexts (displayList entries))
  | function name => "<built-in function ".toList ++ name.toList ++ ['>']
  | opaqueObject _ shown _ => shown.toList

/-- The forms of parameters, of which functions are named only. -/
def reprList : List Annotation → List (List Char)
  | [] => []
  | function name :: rest => name.toList :: reprList rest
  | t :: rest => repr t :: reprList rest

/-- The forms of a union's members, the none type being marked. -/
def reprMembers : List Annotation → List (Bool × List Char)
  | [] => []
  | t :: rest => (isNoneType t, repr t) :: reprMembers rest

/-- The forms of objects on their own. -/
def displayList : List Annotation → List (List Char)
  | [] => []
  | cls ref :: rest => ref.display :: displayList rest
  | ellipsis :: rest => "Ellipsis".toList :: displayList rest
  | t :: rest => repr t :: displayList rest

end

/-- The form of an object on its own. -/
def display (t : Annotation) : List Char :=
  (displayList [t]).flatten

/-- The form without the names of the modules that the typing forms come from. -/
def withoutModules (cs : List Char) : List Char :=
  let cs := Text.removeAll "typing.".toList cs.length cs
  Text.removeAll "typing_extensions.".toList cs.length cs

/-- The name by which an annotation without wrappers is shown. -/
def renderStripped : Annotation → List Char
  | value (.member _ _ v) => v.repr
  | literal [v] => v.underlying.repr
  | value .none => "None".toList
  | ellipsis => "Ellipsis".toList
  | cls ref => if ref = .noneType then "None".toList else ref.qualname.toList
  | t => withoutModules t.repr

/-- The name by which an annotation is shown. -/
def render (t : Annotation) : String :=
  String.ofList (renderStripped t.strip)

end Annotation

end Schematic
