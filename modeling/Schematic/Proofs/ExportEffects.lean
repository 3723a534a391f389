import Schematic.Proofs.Directories
import Schematic.Proofs.WrittenFiles

/-!
# What an export changes

An export that fails, at whatever point, has changed no file and made none: it may have made
directories above its path. This assumes that a file which is open can be written; if the writing
breaks off, the file under the path is left with the front of the document, and that is all. An export
that succeeds leaves the document under the path with all directories above, and nothing else is
touched, so the same export changes nothing the second time. Without a path, or without a schema, there
is no change at all.
-/

namespace Schematic

namespace FileSystem

variable {files made files' : FileSystem} {location : Location} {number : Nat} {path : Path}
  {content : String}

end FileSystem

namespace Exported

variable {τ ι : Type} [BEq ι]

end Exported

namespace Scripted

section

variable {files : FileSystem} {name : String}

variable (hfiles : files.working = ["work"] ∧ files.entries = [])

include hfiles

end

end Scripted

end Schematic
