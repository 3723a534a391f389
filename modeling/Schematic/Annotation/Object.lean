import Schematic.Annotation.Build
import Schematic.Error

/-!
# Objects

What any object can be asked, a type or not: the class it belongs to, whether it
counts as true, the integer it stands for as an index, and its text. A member of
an enumeration that derives from the integers or the texts is one itself.
-/

namespace Schematic

namespace ClassRef

/-- The name by which messages call a class. -/
def calledName : ClassRef → String
  | library "types.GenericAlias" => "types.GenericAlias"
  | library "types.UnionType" => "types.UnionType"
  | ref => ref.name

end ClassRef

namespace Enumeration

/-- The class that an enumeration is. -/
def ref (e : Enumeration) : ClassRef :=
  .declared e.number e.qualname (if e.hasFlags then .flags else .enumeration)

end Enumeration

namespace Annotation

/-- The class that an object belongs to. -/
def classOf : Annotation → ClassRef
  | cls ref => ref.classOf
  | value (.member owner _ _) => owner.ref
  | value (.cls ref) => ref.classOf
  | value v => .builtin v.className
  | ellipsis => .builtin "ellipsis"
  | forward _ => .library "typing.ForwardRef"
  | synonym .. => .library "typing_extensions.TypeAliasType"
  | newType .. => .library "typing.NewType"
  | union .barred _ => .library "types.UnionType"
  | union .named _ => .library "typing._UnionGenericAlias"
  | generic (.cls _) _ => .library "types.GenericAlias"
  | generic (.form _) _ => .library "typing._GenericAlias"
  | literal _ => .library "typing._LiteralGenericAlias"
  | annotated .. => .library "typing._AnnotatedAlias"
  | qualified .initVar _ => .library "dataclasses.InitVar"
  | qualified .. => .library "typing._GenericAlias"
  | bare _ => .library "typing._SpecialGenericAlias"
  | collection shape _ => .builtin shape.name
  | mapping _ => .builtin "dict"
  | function _ => .builtin "builtin_function_or_method"
  | opaqueObject kind .. => kind

/-- The name of the class that an object belongs to. -/
def className (t : Annotation) : String :=
  t.classOf.calledName

/-- Whether an object counts as true. -/
def isTrue : Annotation → Bool
  | value v => v.isTrue
  | collection .slice _ => true
  | collection _ items => !items.isEmpty
  | mapping entries => !entries.isEmpty
  | _ => true

/-- The integer that an object is. -/
def index? : Annotation → Option Int
  | value v => v.index?
  | _ => none

/-- The text that an object is. -/
def text? : Annotation → Option String
  | value v => v.text?
  | _ => none

/-- The bytes that an object is. -/
def bytes? : Annotation → Option String
  | value v => v.bytes?
  | _ => none

def str (s : String) : Annotation :=
  value (.str s)

def bool (b : Bool) : Annotation :=
  value (.bool b)

def int (n : Int) : Annotation :=
  value (.int n)

def tuple (items : List Annotation) : Annotation :=
  collectionOf .tuple items

/-- The items of a tuple or a list, and which of the two it is. -/
def sequence? : Annotation → Option (Shape × List Annotation)
  | value v =>
    match v.plain with
    | .tuple items => some (.tuple, items.map value)
    | .list items => some (.list, items.map value)
    | _ => none
  | collection .tuple items => some (.tuple, items)
  | collection .list items => some (.list, items)
  | _ => none

/-- The items of a set of either kind. -/
def set? : Annotation → Option (Shape × List Annotation)
  | collection .set items => some (.set, items)
  | collection .frozenset items => some (.frozenset, items)
  | _ => none

/-- The keys among keys and values in turn. -/
def keysOf : List Annotation → List Annotation
  | key :: _ :: rest => key :: keysOf rest
  | _ => []

/-- The entry of a key among keys and values in turn. -/
def itemOf? (key : Annotation) : List Annotation → Option Annotation
  | own :: item :: rest => if own.same key then some item else itemOf? key rest
  | _ => none

/-- Keys and values in turn with an entry set; a known key keeps its place. -/
def setEntry (key item : Annotation) : List Annotation → List Annotation
  | own :: old :: rest =>
    if own.same key then own :: item :: rest else own :: old :: setEntry key item rest
  | _ => [key, item]

/-- Entries laid over others. -/
def overlay (entries : List Annotation) : List Annotation → List Annotation
  | key :: item :: rest => overlay (setEntry key item entries) rest
  | _ => entries

/-- An object that can be looked up in a hash table. -/
def hashed (t : Annotation) : Except Failure Annotation :=
  match t.unhashable? with
  | some kind => .error (.unhashable kind)
  | none => .ok t

/-- A set of objects. -/
def setOf (shape : Shape) (items : List Annotation) : Except Failure Annotation := do
  let items ← items.mapM hashed
  pure (collection shape (distinct items))

/-- Whether an object is a type to a bar: a class, a parameterized class, or a union of such. -/
def isPlainType : Annotation → Bool
  | cls _ => true
  | generic (.cls _) _ => true
  | union .barred _ => true
  | _ => false

end Annotation

end Schematic
