import Schematic.Class.Record

/-!
# Which classes can be declared

The fields of a typed dictionary and of a named tuple are of types, not of
qualified ones. A named tuple has its fields with a default last, and none that
starts with an underscore. Some built-in classes cannot be derived from, and the
bases of a class agree on how its objects are laid out.
-/

namespace Schematic

namespace Module

/-! ## Fields -/

/-- Checks that the fields of a record are of types, not of qualified ones that only attributes
can have. -/
def checkTypes (types : Dict Annotation) : Except Failure Unit :=
  match types.find? fun (_, t) => t.isQualifiedBy .classVar || t.isQualifiedBy .final with
  | some (_, t) => .error (.typeFault (String.ofList t.repr ++ " is not valid as type argument"))
  | none => .ok ()

/-- Checks that the fields of a named tuple without a default come first, given the names of
earlier fields with one. -/
def checkOrder (d : Declaration) (filled : List String) : List String → Except Failure Unit
  | [] => .ok ()
  | name :: rest =>
    if (d.initial? name).isSome then checkOrder d (filled ++ [name]) rest
    else if filled = [] then checkOrder d filled rest
    else
      .error (.typeFault ("Non-default namedtuple field " ++ name ++
        " cannot follow default field" ++ (if 1 < filled.length then "s " else " ") ++
        ", ".intercalate filled))

/-- Checks the fields of a record. -/
def checkFields (d : Declaration) : Except Failure Unit :=
  match d.flavour with
  | .typedDict _ => checkTypes d.ownAnnotations
  | .namedTuple => do
    checkOrder d [] d.ownAnnotations.keys
    checkTypes d.ownAnnotations
    if d.ownAnnotations.keys.any fun name => name.startsWith "_" then .error .unacceptable
  | _ => .ok ()

/-! ## Bases -/

/-- Built-in classes that no class can be derived from. -/
def finalClasses : List ClassRef :=
  ["bool", "NoneType", "ellipsis", "function", "slice", "range", "memoryview"].map .builtin

/-- The first of some classes that is among those after it. -/
def repeated? : List ClassRef → Option ClassRef
  | [] => none
  | base :: rest => if rest.any base.same then some base else repeated? rest

/-- Why no class can have certain bases, if none can. -/
def refusedBases? (m : Module) (bases : List ClassRef) : Option String :=
  let layouts := bases.filterMap m.layout?
  match bases.find? finalClasses.contains, repeated? bases with
  | some base, _ => some ("type '" ++ base.name ++ "' is not an acceptable base type")
  | none, repeated =>
    if layouts.any fun layout => layouts.head? ≠ some layout then
      some "multiple bases have instance lay-out conflict"
    else repeated.map fun base => "duplicate base class " ++ base.name

end Module

end Schematic
