import Schematic.Class.Admission
import Schematic.Class.Linear

/-!
# Declaring classes

A declaration adds a class to a module and leaves the earlier ones alone. A
class that is declared plainly but derives from a typed dictionary, a model or
an enumeration is one of these itself. Typed dictionaries and named tuples have
a linearization of their own; any other class has that of its bases, if there is
one. The fields of a model are those that its library collects.
-/

namespace Schematic

namespace Flavour

/-- The base that comes with a flavour. -/
def base? : Flavour → Option ClassRef
  | model => some .model
  | enumeration => some .enumeration
  | _ => none

end Flavour

namespace Module

/-- The flavour that a class has, given the one it is declared with. -/
def flavourOf (m : Module) (d : Declaration) : Flavour :=
  match d.flavour with
  | .plain =>
    if d.bases.any m.isTypedDict then .typedDict true
    else if d.bases.any m.isModel then .model
    else if d.bases.any m.isEnumeration then .enumeration
    else .plain
  | flavour => flavour

/-- The bases of a class: those written, that of the flavour if none has it, or the root class. -/
def basesOf (m : Module) (d : Declaration) : List ClassRef :=
  match d.flavour.base? with
  | some base => if d.bases.any (m.derives · base) then d.bases else d.bases ++ [base]
  | none => if d.bases.isEmpty then [.object] else d.bases

/-- The family of a class, given its bases. -/
def familyOf (m : Module) (d : Declaration) : Family :=
  match d.flavour with
  | .typedDict _ => .typedDict
  | .model => .model
  | .enumeration => if d.bases.any (m.derives · .flagEnumeration) then .flags else .enumeration
  | _ => .ordinary

def linearFor (m : Module) (own : ClassRef) (d : Declaration) : Except Failure (List ClassRef) :=
  match d.flavour with
  | .typedDict _ => .ok [own, .builtin "dict", .object]
  | .namedTuple => .ok [own, .builtin "tuple", .object]
  | _ =>
    match m.refusedBases? d.bases, Linear.ofBases own d.bases m.linear with
    | some message, _ => .error (.typeFault message)
    | none, some line => .ok line
    | none, none =>
      let names := d.bases.map fun base => ClassRef.lastPart base.qualname
      .error (.typeFault ("Cannot create a consistent method resolution\norder (MRO) for bases " ++
        ", ".intercalate names))

/-- Binds a name of the module. -/
def bind (m : Module) (name : String) (t : Annotation) : Module :=
  { m with names := Dict.set name t m.names }

/-- Appends a class. -/
def append (m : Module) (c : Class) : Module :=
  { m with classes := m.classes ++ [c] }

section

variable [Environment]

/-- The class of a declaration, as far as it does not depend on resolved annotations. -/
def outline (m : Module) (own : ClassRef) (d : Declaration) : Except Failure Class := do
  if d.bases.any m.isEnumeration then m.checkEnumeration d
  checkFields d
  let line ← m.linearFor own d
  let enumerators ← m.enumeratorsFor own.qualname d line
  let dataFields ←
    match d.flavour with
    | .dataclass keywordOnly => (m.dataFieldsFor (line.drop 1) keywordOnly d).map some
    | _ => pure none
  pure
    { declaration := d
      qualname := own.qualname
      linear := line
      annotations :=
        match d.flavour with
        | .typedDict _ => m.typedKeys d
        | _ => d.ownAnnotations
      optionalKeys :=
        match d.flavour with
        | .typedDict total => m.typedOptionalKeys d total
        | _ => []
      dataFields
      modelFields := none
      enumerators }

/-- Declares a class and binds its qualified name. -/
def declare (m : Module) (qualname : String) (d : Declaration) :
    Except Failure (Module × Annotation) := do
  let d := { d with flavour := m.flavourOf d }
  let d := { d with bases := m.basesOf d }
  let own : ClassRef := .declared m.classes.length qualname (m.familyOf d)
  let c ← m.outline own d
  let c ←
    match d.flavour with
    | .model =>
      let fields ← Environment.collected ((m.append c).bind d.name (.cls own)) own d
      pure { c with modelFields := some (Dict.ofList fields) }
    | _ => pure c
  pure ((m.append c).bind qualname (.cls own), .cls own)

end

def declareAlias (m : Module) (name : String) (t : Annotation) : Module :=
  { m.bind name (.synonym m.named name t) with named := m.named + 1 }

def declareNewType (m : Module) (name : String) (t : Annotation) : Module :=
  { m.bind name (.newType m.named name t) with named := m.named + 1 }

end Module

end Schematic
