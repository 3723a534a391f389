import Schematic.Files.Path

/-!
# A file system

A file system is a tree of directories, files and links. A path is followed name
by name: every name but the last has to lead to a directory, and a double dot
leads to the directory above. A link is replaced by the path in it, at most 40
times in a path. Files have numbers, and one file may be at several places.
Names have at most 255 bytes and whole paths fewer than 4096, and a null
character may stand in neither. For reasons of its own the system may refuse to
make a directory or to open a file at some place, or break off the writing.
-/

namespace Schematic

/-- A place in the tree: the names that lead there from the root. -/
abbrev Location := List String

inductive Entry where
  | directory
  | file (number : Nat)
  | link (target : Path)
  deriving DecidableEq, Repr

/-- Why the system refuses an operation. -/
inductive FileError where
  | notFound
  | exists
  | notDirectory
  | isDirectory
  | nameTooLong
  | tooManyLinks
  /-- The path holds a null character and cannot be passed to the system. -/
  | nullCharacter
  /-- Any other reason, such as a missing permission or a full disk. -/
  | refused (reason : String)
  deriving DecidableEq, Repr

/-- What the system refuses at a place, with its reasons. -/
structure Refusals where
  making : Location → Option String := fun _ => none
  opening : Location → Option String := fun _ => none
  /-- A file that is open takes so many characters and no more. -/
  writing : Location → Option (Nat × String) := fun _ => none

structure FileSystem where
  /-- The working directory; it exists, and so do the directories above it. -/
  working : Location
  entries : List (Location × Entry)
  /-- What is in the file of a number. -/
  contents : Nat → String
  refusals : Refusals

namespace FileSystem

/-- A file system with nothing but its working directory. -/
def empty : FileSystem := ⟨["work"], [], fun _ => "", {}⟩

def found? (files : FileSystem) (location : Location) : Option Entry :=
  if location.isPrefixOf files.working then some .directory
  else (files.entries.find? fun entry => entry.1 = location).map Prod.snd

/-- Puts an entry at a place, instead of the one that is there. -/
def put (files : FileSystem) (location : Location) (entry : Entry) : FileSystem :=
  { files with
    entries := files.entries.filter (fun other => other.1 ≠ location) ++ [(location, entry)] }

/-! ## Paths -/

def nameLimit : Nat := 255
def pathLimit : Nat := 4096
def linkLimit : Nat := 40

/-- Where a path begins that is followed from a directory. -/
def base (location : Location) (path : Path) : Location :=
  if path.start = .working then location else []

/-- Follows names from a place, up to a link, from which the rest is followed as told. The last name
need not exist; if it is a link, it is followed only on demand. -/
def followTo (files : FileSystem) (last : Bool)
    (jump : Location → List String → Except FileError Location) :
    Location → List String → Except FileError Location
  | location, [] => .ok location
  | location, name :: rest =>
    match files.found? location with
    | none => .error .notFound
    | some .directory =>
      if name = ".." then followTo files last jump location.dropLast rest
      else if nameLimit < name.utf8ByteSize then .error .nameTooLong
      else
        match files.found? (location ++ [name]) with
        | some (.link target) =>
          if rest = [] ∧ last = false then .ok (location ++ [name])
          else jump (base location target) (target.names ++ rest)
        | _ => followTo files last jump (location ++ [name]) rest
    | some _ => .error .notDirectory

/-- Follows names from a place, over so many links at most. -/
def follow (files : FileSystem) (last : Bool) :
    Nat → Location → List String → Except FileError Location
  | 0 => followTo files last fun _ _ => .error .tooManyLinks
  | links + 1 => followTo files last (follow files last links)

/-- The place of a path. -/
def locate (files : FileSystem) (last : Bool) (path : Path) : Except FileError Location :=
  if path.toString.contains '\x00' then .error .nullCharacter
  else if pathLimit ≤ path.toString.utf8ByteSize then .error .nameTooLong
  else follow files last linkLimit (base files.working path) path.names

def isDirectory (files : FileSystem) (path : Path) : Bool :=
  match files.locate true path with
  | .ok location => files.found? location = some .directory
  | .error _ => false

/-- What is in the file under a path, if there is one. -/
def content? (files : FileSystem) (path : Path) : Option String :=
  match files.locate true path with
  | .error _ => none
  | .ok location =>
    match files.found? location with
    | some (.file number) => some (files.contents number)
    | _ => none

/-! ## Making directories -/

/-- Makes one directory. -/
def makeDirectory (files : FileSystem) (path : Path) : Except FileError FileSystem :=
  match files.locate false path with
  | .error error => .error error
  | .ok location =>
    match files.found? location, files.refusals.making location with
    | some _, _ => .error .exists
    | none, some reason => .error (.refused reason)
    | none, none => .ok (files.put location .directory)

/-- The outcome of a change together with the file system it leaves. -/
structure Changed where
  files : FileSystem
  error? : Option FileError

/-- Makes a directory, which may be there already. -/
def ensureDirectory (files : FileSystem) (path : Path) : Changed :=
  match files.makeDirectory path with
  | .ok files => ⟨files, none⟩
  | .error error =>
    if error ≠ .nullCharacter ∧ files.isDirectory path then ⟨files, none⟩ else ⟨files, some error⟩

/-- Makes a directory and the directories above it, given by their names, the last one first. -/
def ensureAll (files : FileSystem) (start : Path.Start) : List String → Changed
  | [] => files.ensureDirectory ⟨start, []⟩
  | name :: above =>
    let path : Path := ⟨start, (name :: above).reverse⟩
    match files.makeDirectory path with
    | .error .notFound =>
      let changed := files.ensureAll start above
      match changed.error? with
      | some _ => changed
      | none => changed.files.ensureDirectory path
    | _ => files.ensureDirectory path

def ensureDirectories (files : FileSystem) (path : Path) : Changed :=
  files.ensureAll path.start path.names.reverse

/-! ## Writing -/

/-- A number that no file has. -/
def fresh (files : FileSystem) : Nat :=
  (files.entries.map fun entry =>
    match entry.2 with
    | .file number => number + 1
    | _ => 0).foldr max 0

/-- Gives a file its content. -/
def fill (files : FileSystem) (number : Nat) (content : String) : FileSystem :=
  { files with contents := fun other => if other = number then content else files.contents other }

/-- Opens the file at a place for writing, which empties it, or makes one. -/
def openFile (files : FileSystem) (location : Location) : Except FileError (FileSystem × Nat) :=
  match files.found? location, files.refusals.opening location with
  | some .directory, _ => .error .isDirectory
  | _, some reason => .error (.refused reason)
  | some (.file number), none => .ok (files.fill number "", number)
  | some (.link _), none => .error .tooManyLinks
  | none, none => .ok ((files.put location (.file files.fresh)).fill files.fresh "", files.fresh)

/-- Gives a file the content, making the file if need be. The writing may break off. -/
def writeFile (files : FileSystem) (path : Path) (content : String) : Changed :=
  match files.locate true path with
  | .error error => ⟨files, some error⟩
  | .ok location =>
    match files.openFile location with
    | .error error => ⟨files, some error⟩
    | .ok (opened, number) =>
      match files.refusals.writing location with
      | some (room, reason) =>
        if room < content.length then
          ⟨opened.fill number (String.ofList (content.toList.take room)), some (.refused reason)⟩
        else ⟨opened.fill number content, none⟩
      | none => ⟨opened.fill number content, none⟩

/-- Writes a file and makes the missing directories above it. -/
def save (files : FileSystem) (path : Path) (content : String) : Changed :=
  let changed := files.ensureDirectories path.parent
  match changed.error? with
  | some _ => changed
  | none => changed.files.writeFile path content

/-- The files and directories below the working directory, by path; a directory has no content. -/
def listing (files : FileSystem) : List (String × Option String) :=
  let found := files.entries.filterMap fun (location, entry) =>
    if files.working.isPrefixOf location then
      let path := "/".intercalate (location.drop files.working.length)
      match entry with
      | .directory => some (path, none)
      | .file number => some (path, some (files.contents number))
      | .link _ => none
    else none
  found.mergeSort fun a b => a.1 ≤ b.1

end FileSystem

end Schematic
