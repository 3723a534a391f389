import Schematic.Class.Environment

/-!
# Texts of library classes

The base classes of enumerations and of models are documented themselves, each by the text that its
library gives it. That of models is the environment's.
-/

namespace Schematic.ClassRef

def enumerationLines : List String :=
  ["",
    "    Create a collection of name/value pairs.",
    "",
    "    Example enumeration:",
    "",
    "    >>> class Color(Enum):",
    "    ...     RED = 1",
    "    ...     BLUE = 2",
    "    ...     GREEN = 3",
    "",
    "    Access them by:",
    "",
    "    - attribute access::",
    "",
    "    >>> Color.RED",
    "    <Color.RED: 1>",
    "",
    "    - value lookup:",
    "",
    "    >>> Color(1)",
    "    <Color.RED: 1>",
    "",
    "    - name lookup:",
    "",
    "    >>> Color['RED']",
    "    <Color.RED: 1>",
    "",
    "    Enumerations can be iterated over, and know how many members they have:",
    "",
    "    >>> len(Color)",
    "    3",
    "",
    "    >>> list(Color)",
    "    [<Color.RED: 1>, <Color.BLUE: 2>, <Color.GREEN: 3>]",
    "",
    "    Methods can be added to enumerations, and members can have their own",
    "    attributes -- see the documentation for details.",
    "    "]

/-- The documentation text of a base class of a library. -/
def libraryDoc? [ModelBase] : ClassRef → Option String
  | library "enum.Enum" => some ("\n".intercalate enumerationLines)
  | library "enum.ReprEnum" =>
    some "\n    Only changes the repr(), leaving str() and format() to the mixed-in type.\n    "
  | library "enum.IntEnum" => some "\n    Enum where members are also (and must be) ints\n    "
  | library "enum.StrEnum" => some "\n    Enum where members are also (and must be) strings\n    "
  | library "enum.Flag" => some "\n    Support for flags\n    "
  | library "enum.IntFlag" => some "\n    Support for integer-based Flags\n    "
  | library "BaseModel" => ModelBase.doc
  | _ => none

end Schematic.ClassRef
