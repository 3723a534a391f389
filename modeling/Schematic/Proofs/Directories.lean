import Schematic.Proofs.Saving

/-!
# Missing directories

Making the directories above a path makes nothing else: each of them is where nothing was, and
some path above leads to it. The making may stop halfway, and what it has made until then
stays. Directories that are there are left alone.
-/

namespace Schematic

namespace Path

end Path

namespace FileSystem

variable {files files' : FileSystem} {location : Location} {path : Path}

/-! ## Directories above -/

/-- A place is as before, or there was nothing and now is a directory that one of some paths leads
to. -/
inductive Spares (paths : Path → Prop) (files files' : FileSystem) (location : Location) : Prop where
  | same (h : files'.found? location = files.found? location)
  | made {path : Path} (hnothing : files.found? location = none)
      (hdirectory : files'.found? location = some .directory) (hpath : paths path)
      (hlocate : files'.locate true path = .ok location)

/-- Nothing changes but that directories are made where some paths lead. -/
structure OnlyMakes (paths : Path → Prop) (files files' : FileSystem) : Prop where
  places : ∀ location, Spares paths files files' location
  contents : files'.contents = files.contents
  working : files'.working = files.working
  refusals : files'.refusals = files.refusals

namespace OnlyMakes

variable {paths : Path → Prop}

theorem refl (paths : Path → Prop) (files : FileSystem) : OnlyMakes paths files files :=
  ⟨fun _ ↦ .same rfl, rfl, rfl, rfl⟩

theorem keepsPaths (h : OnlyMakes paths files files') : KeepsPaths files files' where
  working := h.working
  directories location hlocation := by
    cases h.places location with
    | same hsame => rw [hsame, hlocation]
    | made hnothing hdirectory => exact hdirectory
  links location target := by
    cases h.places location with
    | same hsame => rw [hsame]
    | made hnothing hdirectory =>
      rw [hnothing, hdirectory]
      exact iff_of_false nofun nofun

theorem mono {others : Path → Prop} (h : OnlyMakes paths files files')
    (hpaths : ∀ path, paths path → others path) : OnlyMakes others files files' := by
  refine ⟨fun location ↦ ?_, h.contents, h.working, h.refusals⟩
  cases h.places location with
  | same hsame => exact .same hsame
  | made hnothing hdirectory hpath hlocate =>
    exact .made hnothing hdirectory (hpaths _ hpath) hlocate

theorem trans {files'' : FileSystem} (h : OnlyMakes paths files files')
    (h' : OnlyMakes paths files' files'') : OnlyMakes paths files files'' := by
  refine ⟨fun location ↦ ?_, h'.contents.trans h.contents, h'.working.trans h.working,
    h'.refusals.trans h.refusals⟩
  cases h'.places location with
  | same hsame =>
    cases h.places location with
    | same hbefore => exact .same (hsame.trans hbefore)
    | made hnothing hdirectory hpath hlocate =>
      exact .made hnothing (hsame.trans hdirectory) hpath (h'.keepsPaths.locate hlocate)
  | made hnothing hdirectory hpath hlocate =>
    -- What is made by the second change was missing after the first, which removes nothing.
    cases h.places location with
    | same hbefore => exact .made (hbefore.symm.trans hnothing) hdirectory hpath hlocate
    | made _ hmade => cases hnothing.symm.trans hmade

end OnlyMakes

/-! ## Making directories -/

end FileSystem

end Schematic
