import Schematic.Class.Model

/-!
# Late synonyms

The value of a synonym may be an expression that is evaluated when it is asked for. Such synonyms may
refer to each other and to themselves, so their values cannot be parts of the annotations that mention
them: they are looked up when the wrappers around an annotation are taken off. Taking them off has no
end where synonyms lead to one another through wrappers alone.
-/

namespace Schematic

/-- The values of late synonyms, by the numbers of the synonyms. -/
abbrev LateValues := List (Nat × Annotation)

namespace Annotation

/-- An annotation with the values of the synonyms that are wrapped around it, given the values of the
late ones; nothing if one of these is not found. -/
def exposedBy (value? : Nat → Option (Option Annotation)) : Annotation → Option Annotation
  | synonym number name inner =>
    ((value? number).getD (exposedBy value? inner)).map (synonym number name)
  | newType number name inner => (exposedBy value? inner).map (newType number name)
  | annotated inner metadata => (exposedBy value? inner).map (annotated · metadata)
  | qualified qualifier inner =>
    if qualifier.isTransparent then (exposedBy value? inner).map (qualified qualifier)
    else some (qualified qualifier inner)
  | t => some t

/-- An annotation with the values of the synonyms around it, no more than so many late ones leading to
one another. -/
def exposedWithin (late : LateValues) : Nat → Annotation → Option Annotation
  | 0 => exposedBy fun number => (late.lookup number).map fun _ => none
  | steps + 1 => exposedBy fun number => (late.lookup number).map (exposedWithin late steps)

/-- An annotation with the values of the synonyms around it. If more late synonyms lead to one another
than there are, one of them leads back to itself. -/
def exposed? (late : LateValues) (t : Annotation) : Option Annotation :=
  exposedWithin late late.length t

/-- An annotation with the values of the synonyms around it, if there is an end to them. -/
def exposed (late : LateValues) (t : Annotation) : Except Failure Annotation :=
  match t.exposed? late with
  | some shown => .ok shown
  | none => .error .unbounded

mutual

/-- An annotation, its content and its parameters, and all that is within these. -/
def parts : Annotation → List Annotation
  | generic base args => generic base args :: partsOfAll args
  | annotated inner metadata => annotated inner metadata :: parts inner
  | qualified qualifier inner => qualified qualifier inner :: parts inner
  | synonym number name inner => synonym number name inner :: parts inner
  | newType number name inner => newType number name inner :: parts inner
  | t => [t]

def partsOfAll : List Annotation → List Annotation
  | [] => []
  | first :: rest => parts first ++ partsOfAll rest

end

end Annotation

namespace Module

variable [Environment]

/-- All that a compilation gets to from an annotation. -/
def lateParts (m : Module) (late : LateValues) (t : Annotation) : List Annotation :=
  let types := (List.range m.classes.length).flatMap fun number =>
    m.memberTypes (.declared number "" .ordinary)
  (t :: late.map Prod.snd ++ types).flatMap Annotation.parts

/-- The members of a union, with their values as far as literals are concerned. A member whose
synonyms have no end is asked for in place of all. -/
def lateUnionMembers (m : Module) (late : LateValues) (t : Annotation) : List Annotation :=
  match t.strip with
  | .union _ members =>
    match members.find? fun member => (member.exposed? late).isNone with
    | some endless => [endless]
    | none => members.flatMap fun member => ((member.exposed? late).getD member).flattened
  | _ => m.unionMembers t

/-- The type model of a module in which some synonyms have late values. -/
def lateModel (m : Module) (late : LateValues) : TypeModel Annotation Annotation where
  symbol t := (t.exposed? late).bind m.symbol?
  flags t := do m.flags (← t.exposed late)
  literal t := do (← t.exposed late).literalValue.map Value.toJson
  unionMembers t := ((t.exposed? late).map (m.lateUnionMembers late)).getD []
  isArray t := do (← t.exposed late).isArray
  element? t := (t.exposed? late).bind Annotation.element?
  isTuple t := (t.exposed? late).any m.isTuple
  members t := do m.members (← Logged.lift (t.exposed late))
  render t := ((t.exposed? late).getD t).render
  identity t := ((t.exposed? late).getD t).strip
  -- Between structs no array comes twice, and no struct is open twice.
  depth t := (m.classes.length + 2) * ((m.lateParts late t).length + 1)

end Module

end Schematic
