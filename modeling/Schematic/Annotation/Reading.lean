import Schematic.Annotation.Object

/-!
# Following references

A reference by text is replaced by the type that its text denotes, wherever it
stands in an annotation: in a parameter, a member of a union, under metadata or
a qualifier. What is built around it is normalized again. Aliases and new types
keep what they stand for, and a text that leads back to itself stays a
reference. What a text denotes is decided outside of the annotations, by the
names that are known where it stands; here it is given as a reading of texts.
-/

namespace Schematic.Annotation

/-- Where a text stands that is to denote a type. -/
inductive Position where
  /-- It is the whole annotation. -/
  | whole
  /-- The text that is the annotation denotes it. -/
  | quoted
  /-- It is a part of a type. -/
  | part
  deriving DecidableEq, Repr

/-- The position of the texts in the object that a text denotes. -/
def Position.within : Position → Annotation → Position
  | whole, forward _ | quoted, forward _ => quoted
  | _, _ => part

/-- How the texts in annotations are read. -/
structure Reading where
  /-- The object that a text denotes, as a type. -/
  denoted : Position → String → Except Failure Annotation
  /-- How many texts may lead to one another before the evaluation gives up. -/
  limit : Nat

/-- Whether an object knows of no module that it comes from. -/
def isModuleless : Annotation → Bool
  | value (.member ..) => false
  | value _ | collection .. | mapping _ | ellipsis => true
  | opaqueObject (.builtin kind) _ _ => kind ≠ "function"
  | _ => false

/-- What a reference under metadata means, which has to come from some module. -/
def underMetadata (t : Annotation) (metadata : List Metadata) : Except Failure Annotation :=
  if t.isModuleless then .error (.noAttribute ("'" ++ t.className ++ "' object") "__module__")
  else .ok (annotatedWith t metadata)

mutual

/-- An annotation with its references replaced, given what a text denotes. -/
def resolveWith (follow : String → Except Failure Annotation) :
    Annotation → Except Failure Annotation
  | forward text => follow text
  | union .named members => do
    let members ← resolveAll follow members
    pure (unionOf members)
  | union .barred [] => .ok (union .barred [])
  | union .barred (first :: rest) => do
    let first ← resolveWith follow first
    let rest ← resolveAll follow rest
    pure (rest.foldl or first)
  | generic (.cls ref) args => do
    let args ← resolveArgs follow args
    pure (generic (.cls ref) args)
  | generic (.form name) args => do
    let args ← resolveAll follow args
    pure (generic (.form name) args)
  | annotated inner metadata => do
    let resolved ← resolveWith follow inner
    if resolved.same inner then pure (annotated inner metadata)
    else resolved.underMetadata metadata
  | qualified qualifier inner => do
    if qualifier = .initVar then pure (qualified qualifier inner)
    else
      let inner ← resolveWith follow inner
      pure (qualified qualifier inner)
  | t => .ok t

def resolveAll (follow : String → Except Failure Annotation) :
    List Annotation → Except Failure (List Annotation)
  | [] => .ok []
  | first :: rest => do
    let first ← resolveWith follow first
    let rest ← resolveAll follow rest
    pure (first :: rest)

/-- Parameters of a class, where a text is a reference. -/
def resolveArgs (follow : String → Except Failure Annotation) :
    List Annotation → Except Failure (List Annotation)
  | [] => .ok []
  | value v :: rest => do
    let first ←
      match v.text? with
      | some text => follow text
      | none => pure (value v)
    let rest ← resolveArgs follow rest
    pure (first :: rest)
  | first :: rest => do
    let first ← resolveWith follow first
    let rest ← resolveArgs follow rest
    pure (first :: rest)

end

/-- Follows a text, and the texts in what it denotes; those being followed are left alone. -/
def follow (reading : Reading) : Nat → List String → Position → String → Except Failure Annotation
  | 0, _, _, _ => .error .unbounded
  | steps + 1, active, position, text =>
    if active.contains text then .ok (forward text)
    else do
      let t ← reading.denoted position text
      resolveWith (follow reading steps (text :: active) (position.within t)) t

/-- The meaning of a text. -/
def Reading.meaning (reading : Reading) (position : Position) (text : String) :
    Except Failure Annotation :=
  follow reading (reading.limit + 1) [] position text

/-- The position of the texts in an annotation. -/
def textPosition : Annotation → Position
  | value _ | forward _ => .whole
  | _ => .part

/-- The type that an annotation means. -/
def resolve (reading : Reading) (t : Annotation) : Except Failure Annotation :=
  resolveWith (reading.meaning t.textPosition) (asType t)

end Schematic.Annotation
