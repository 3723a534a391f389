import Schematic.Annotation.Reading
import Schematic.Class.Basic

/-!
# What classes depend on

Not all about a class is decided by what is written in its module. What a text
in an annotation denotes depends on everything the module has imported and on
the evaluation of expressions. The fields of a model are collected by the
library that models come from, and their base class brings attributes and texts
of its own. Classes are described for any such environment.
-/

namespace Schematic

/-- The base class of models, as its library has it. -/
class ModelBase where
  /-- The names that the class binds. -/
  attributes : List String
  doc : Option String
  /-- The names that the class documents in its body, with their texts. -/
  texts : List (String × String)

/-- What classes depend on besides their declarations. -/
class Environment extends ModelBase where
  /-- How the texts in the annotations of the class of a number are read. -/
  reading : Module → Nat → Annotation.Reading
  /-- The role that a text announces, for a field of a dataclass, where the module has bound names. -/
  announced : Dict Annotation → String → FieldRole
  /-- The fields of a model that is being declared; its class is in the module already. -/
  collected : Module → ClassRef → Declaration → Except Failure (Dict ModelField)

namespace Module

/-- How the texts in the annotations of a class are read. A class that is not declared in the
module has none. -/
def reading [Environment] (m : Module) : ClassRef → Annotation.Reading
  | .declared number _ _ => Environment.reading m number
  | _ => ⟨fun _ _ => .error .malformedExpression, 0⟩

end Module

end Schematic
