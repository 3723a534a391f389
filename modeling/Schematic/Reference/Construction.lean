import Schematic.Reference.Expression
import Schematic.Reference.Scope

/-!
# Arguments

Arguments by position go to the parameters in order, those by name to the parameter of
that name, and what is left takes its default value. An object of a class with fields is
made from arguments in this way, and shown with the values of its fields. The parameters
of a function may also collect the arguments that are left over.
-/

namespace Schematic.Construction

open Annotation

/-- The arguments of a call: those by position, and those by name. -/
structure Arguments where
  positional : List Annotation
  named : Dict Annotation

def count (args : Arguments) : Nat :=
  args.positional.length + args.named.length

/-- Names in quotes, the last one after a conjunction. -/
def listing (names : List String) : String :=
  let quoted := names.map fun name => "'" ++ name ++ "'"
  match quoted.reverse with
  | [] => ""
  | [last] => last
  | [last, first] => first ++ " and " ++ last
  | last :: earlier => ", ".intercalate earlier.reverse ++ ", and " ++ last

def plural (n : Nat) : String :=
  if n = 1 then "" else "s"

/-- The failure of parameters that are left without an argument. -/
def missing (name kind : String) (names : List String) : Failure :=
  .typeFault (name ++ "() missing " ++ toString names.length ++ " required " ++ kind ++
    " argument" ++ plural names.length ++ ": " ++ listing names)

/-- The failure of too many arguments by position; the object itself is counted. -/
def excess (initializer : Initializer) (given : Nat) : Failure :=
  let places := initializer.parameters.filter fun parameter => !parameter.keywordOnly
  let most := places.length + 1
  let least := (places.filter fun parameter => parameter.default.isNone).length + 1
  let range := if least = most then toString most
    else "from " ++ toString least ++ " to " ++ toString most
  .typeFault (initializer.name ++ "() takes " ++ range ++ " positional argument" ++
    plural most ++ " but " ++ toString (given + 1) ++ " were given")

/-- Arguments by position, each under the name of its parameter. -/
def placed (parameters : List Parameter) (positional : List Annotation) : Dict Annotation :=
  ((parameters.filter fun parameter => !parameter.keywordOnly).map Parameter.name).zip positional

/-- The arguments by name laid over those by position, which may have none of the same name. -/
def joined (initializer : Initializer) (values : Dict Annotation) :
    Dict Annotation → Except Failure (Dict Annotation)
  | [] => .ok values
  | (name, t) :: rest =>
    if !initializer.parameters.any fun parameter => parameter.name = name then
      .error (.typeFault (initializer.name ++ "() got an unexpected keyword argument '" ++ name ++
        "'"))
    else if Dict.contains name values then
      .error (.typeFault (initializer.name ++ "() got multiple values for argument '" ++ name ++
        "'"))
    else joined initializer (Dict.set name t values) rest

/-- The parameters that arguments leave without a value. -/
def unfilled (values : Dict Annotation) (parameters : List Parameter) : List String :=
  (parameters.filter fun parameter =>
    parameter.default.isNone && !Dict.contains parameter.name values).map Parameter.name

/-- The values of all parameters. -/
def values (initializer : Initializer) (args : Arguments) : Except Failure (Dict Annotation) := do
  let parameters := initializer.parameters
  let own ← joined initializer (placed parameters args.positional) args.named
  let (named, places) := parameters.partition Parameter.keywordOnly
  if places.length < args.positional.length then .error (excess initializer args.positional.length)
  else if unfilled own places ≠ [] then
    .error (missing initializer.name "positional" (unfilled own places))
  else if unfilled own named ≠ [] then
    .error (missing initializer.name "keyword-only" (unfilled own named))
  else
    pure (parameters.filterMap fun parameter =>
      ((Dict.get? parameter.name own).or parameter.default).map fun t => (parameter.name, t))

/-- The form of an object with fields. -/
def shown (ref : ClassRef) (fields : Dict Annotation) : List Char :=
  let parts := fields.map fun (name, t) => name.toList ++ '=' :: t.display
  ref.qualname.toList ++ '(' :: [',', ' '].intercalate parts ++ [')']

/-- The object that a class with fields makes of arguments. -/
def object (initializer : Initializer) (ref : ClassRef) (args : Arguments) :
    Except Failure Annotation := do
  let values ← values initializer args
  let stored := values.filter fun (name, _) =>
    initializer.parameters.any fun parameter => parameter.isStored && parameter.name = name
  let hasHash := initializer.hasHash && stored.all fun (_, t) => t.isHashable
  pure (.opaqueObject ref (String.ofList (shown ref stored)) hasHash)

/-! ## Functions -/

/-- What functions without a name are called. -/
def functionName : String := "<lambda>"

/-- The failure of too many arguments by position for a function. -/
def surplusFailure (signature : Signature) (given : Nat) : Failure :=
  let places := signature.placed ++ signature.flexible
  let least := (places.filter fun own => !signature.optional.contains own).length
  let range := if least = places.length then toString least
    else "from " ++ toString least ++ " to " ++ toString places.length
  .typeFault (functionName ++ "() takes " ++ range ++ " positional argument" ++
    plural places.length ++ " but " ++ toString given ++ (if given = 1 then " was" else " were") ++
      " given")

/-- The failure of an argument by name for which there is no parameter. -/
def strayFailure (signature : Signature) (given : List String) (name : String) : Failure :=
  let placed := given.filter signature.placed.contains
  if placed.isEmpty then
    .typeFault (functionName ++ "() got an unexpected keyword argument '" ++ name ++ "'")
  else
    .typeFault (functionName ++ "() got some positional-only arguments passed as keyword " ++
      "arguments: '" ++ ", ".intercalate placed ++ "'")

/-- The arguments by name laid over those by position, and those that no parameter takes. -/
def sorted (signature : Signature) (own : Dict Annotation) (given : Dict Annotation) :
    Except Failure (Dict Annotation × Dict Annotation) :=
  given.foldlM (fun (own, others) (name, t) =>
    if (signature.flexible ++ signature.named).contains name then
      if Dict.contains name own then
        .error (.typeFault (functionName ++ "() got multiple values for argument '" ++ name ++ "'"))
      else .ok (Dict.set name t own, others)
    else if signature.remaining.isSome then .ok (own, Dict.set name t others)
    else .error (strayFailure signature (Dict.keys given) name)) (own, [])

/-- The values of all parameters of a function, given those of the optional ones. -/
def bound (signature : Signature) (defaults : Dict Annotation) (args : Arguments) :
    Except Failure (Dict Annotation) := do
  let places := signature.placed ++ signature.flexible
  let surplus := args.positional.drop places.length
  let (own, others) ← sorted signature (places.zip args.positional) args.named
  let values := Dict.update defaults own
  let lacking (names : List String) := names.filter fun own => !Dict.contains own values
  if signature.surplus.isNone && !surplus.isEmpty then
    .error (surplusFailure signature args.positional.length)
  else if lacking places ≠ [] then
    .error (missing functionName "positional" (lacking places))
  else if lacking signature.named ≠ [] then
    .error (missing functionName "keyword-only" (lacking signature.named))
  else
    pure (values ++ (signature.surplus.toList.map fun own => (own, tuple surplus)) ++
      (signature.remaining.toList.map fun own =>
        (own, .mapping (others.flatMap fun (name, t) => [.str name, t]))))

end Schematic.Construction
