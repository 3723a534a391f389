import Schematic.Export.Config
import Schematic.Files.System
import Schematic.Json.Writer
import Schematic.Model.Compile

/-!
# Exported documents

A document is a compiled schema with its metadata in front: the address of the
meta-schema, and the document's own identifier unless it is empty. Exporting
compiles a type, wraps the schema and, if a path is given, writes the document's
text and a newline to that path, making the directories above it as needed. What
keeps the system from writing is an error of its own. An integer too long to be
written is found once the directories are made, before the file is opened.
-/

namespace Schematic

namespace Document

def metadata (config : Config) : Node :=
  ("$schema", .str config.schemaUri) ::
    match config.schemaId with
    | some id => if id = "" then [] else [("$id", .str id)]
    | none => []

/-- The node with its metadata in front. -/
def wrap (node : Node) (config : Config) : Node :=
  Dict.update (metadata config) node

def spacing (config : Config) : Json.Spacing :=
  match config.indent with
  | some width => .indented width
  | none => .inline

/-- The content of a written document. -/
def fileText (document : Node) (config : Config) : String :=
  (Json.obj document).text (spacing config) ++ "\n"

end Document

namespace FileError

/-- What the refusal to write to a path means for the export. -/
def toFailure (path : Path) : FileError → Failure
  | nullCharacter => .malformedPath
  | notFound => .schema (.exportFailed path.toString) "No such file or directory"
  | «exists» => .schema (.exportFailed path.toString) "File exists"
  | notDirectory => .schema (.exportFailed path.toString) "Not a directory"
  | isDirectory => .schema (.exportFailed path.toString) "Is a directory"
  | nameTooLong => .schema (.exportFailed path.toString) "File name too long"
  | tooManyLinks => .schema (.exportFailed path.toString) "Too many levels of symbolic links"
  | refused reason => .schema (.exportFailed path.toString) reason

end FileError

/-- The result of an export and the file system it leaves. -/
structure Exported where
  result : Logged Node
  files : FileSystem

namespace Exported

/-- Writes a document to a path. -/
def write (document : Node) (path : Path) (config : Config) (files : FileSystem) : Exported :=
  let writable := (Json.obj document).isWritable
  let changed :=
    if writable then files.save path (Document.fileText document config)
    else files.ensureDirectories path.parent
  match changed.error? with
  | some error => ⟨.fail (error.toFailure path), changed.files⟩
  | none =>
    if writable then ⟨⟨.ok document, [.exported path.toString document.length]⟩, changed.files⟩
    else ⟨.fail .overlongInteger, changed.files⟩

/-- Compiles a type and exports its schema. -/
def ofType {τ ι : Type} [Stack] [BEq ι] (model : TypeModel τ ι) (type : τ) (path : Option Path)
    (config : Config) (files : FileSystem) : Exported :=
  let compiled := model.compile type
  match compiled.outcome, path with
  | .error failure, _ => ⟨⟨.error failure, compiled.events⟩, files⟩
  | .ok node, none => ⟨⟨.ok (Document.wrap node config), compiled.events⟩, files⟩
  | .ok node, some path =>
    let written := write (Document.wrap node config) path config files
    ⟨⟨written.result.outcome, compiled.events ++ written.result.events⟩, written.files⟩

end Exported

end Schematic
