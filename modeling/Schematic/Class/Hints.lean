import Schematic.Class.Binding

/-!
# Resolved annotations of classes

The annotations of a class are those of its bases and its own, from the farthest
base to the class: an annotation of a known name replaces the earlier one and
keeps its place. Each is resolved where it was written, that is, its texts are
read as in the class that it stands in.
-/

namespace Schematic

namespace Module

/-- Resolves annotations, each under its name. -/
def resolveEntries (reading : Annotation.Reading) : Dict Annotation → Except Failure (Dict Annotation)
  | [] => .ok []
  | (name, t) :: rest => do
    let t ← t.resolve reading
    let rest ← resolveEntries reading rest
    pure ((name, t) :: rest)

variable [Environment]

/-- Lays the resolved annotations of classes over others, one class after the other. -/
def hintsAlong (m : Module) (hints : Dict Annotation) : List ClassRef →
    Except Failure (Dict Annotation)
  | [] => .ok hints
  | ref :: rest => do
    let own ← resolveEntries (m.reading ref) (m.annotations ref)
    m.hintsAlong (Dict.update hints own) rest

/-- The resolved annotations of a class and its bases. -/
def hints (m : Module) (ref : ClassRef) : Except Failure (Dict Annotation) :=
  m.hintsAlong [] (m.linear ref).reverse

end Module

end Schematic
