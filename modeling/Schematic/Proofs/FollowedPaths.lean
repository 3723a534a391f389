import Schematic.Files.System
import Schematic.Proofs.Outcome

/-!
# Followed paths

A path leads to a place in steps: up, into a directory, or over a link. So a change that keeps the
directories and makes no links leads no path elsewhere, and a path that leads beyond some of its names
leads to a directory with these alone.
-/

namespace Schematic.FileSystem

variable {files files' : FileSystem} {last : Bool} {links : Nat} {location place : Location}
  {name : String} {names rest : List String} {target path : Path}

/-! ## Steps -/

/-- A name that can be looked up at a place. -/
structure Enters (files : FileSystem) (location : Location) (name : String) : Prop where
  directory : files.found? location = some .directory
  down : name ≠ ".."
  short : name.utf8ByteSize ≤ nameLimit

/-- Names lead from one place to another over so many links at most. -/
inductive Leads (files : FileSystem) (last : Bool) :
    Nat → Location → List String → Location → Prop
  | done {links : Nat} {location : Location} : Leads files last links location [] location
  | up {links : Nat} {location place : Location} {rest : List String}
      (hdirectory : files.found? location = some .directory)
      (h : Leads files last links location.dropLast rest place) :
      Leads files last links location (".." :: rest) place
  | enter {links : Nat} {location place : Location} {name : String} {rest : List String}
      (henters : files.Enters location name)
      (hplain : ∀ target, files.found? (location ++ [name]) ≠ some (.link target))
      (h : Leads files last links (location ++ [name]) rest place) :
      Leads files last links location (name :: rest) place
  | stop {links : Nat} {location : Location} {name : String} {target : Path}
      (henters : files.Enters location name)
      (hlink : files.found? (location ++ [name]) = some (.link target)) (hlast : last = false) :
      Leads files last links location [name] (location ++ [name])
  | jump {links : Nat} {location place : Location} {name : String} {rest : List String} {target : Path}
      (henters : files.Enters location name)
      (hlink : files.found? (location ++ [name]) = some (.link target))
      (hfollowed : rest ≠ [] ∨ last = true)
      (h : Leads files last links (base location target) (target.names ++ rest) place) :
      Leads files last (links + 1) location (name :: rest) place

theorem leads_of_followTo {jump : Location → List String → Except FileError Location}
    (hjump : ∀ {location names place}, jump location names = .ok place →
      ∃ used, links = used + 1 ∧ Leads files last used location names place)
    (h : followTo files last jump location names = .ok place) :
    Leads files last links location names place := by
  induction names generalizing location with
  | nil =>
    obtain rfl := Except.ok.inj h
    exact .done
  | cons name rest ih =>
    unfold followTo at h
    split at h
    · cases h
    · rename_i hdirectory
      split at h
      · rename_i hname
        subst hname
        exact .up hdirectory (ih h)
      · rename_i hname
        split at h
        · cases h
        · rename_i hshort
          have henters : files.Enters location name := ⟨hdirectory, hname, Nat.not_lt.mp hshort⟩
          split at h
          · rename_i target hlink
            split at h
            · rename_i hstops
              obtain rfl := Except.ok.inj h
              obtain ⟨rfl, hlast⟩ := hstops
              exact .stop henters hlink hlast
            · rename_i hstops
              obtain ⟨used, rfl, h⟩ := hjump h
              refine .jump henters hlink ?_ h
              cases last <;> simp_all
          · rename_i hplain
            exact .enter henters hplain (ih h)
    · cases h

/-- What the search finds is where the names lead. -/
theorem leads_of_follow (h : follow files last links location names = .ok place) :
    Leads files last links location names place := by
  induction links generalizing location names place with
  | zero => exact leads_of_followTo (fun h ↦ by cases h) h
  | succ links ih => exact leads_of_followTo (fun h ↦ ⟨links, rfl, ih h⟩) h

theorem Leads.follow (h : Leads files last links location names place) :
    FileSystem.follow files last links location names = .ok place := by
  induction h with
  | @done links location => cases links <;> rfl
  | @up links _ _ _ hdirectory _ ih =>
    rw [← ih]
    cases links <;> simp only [FileSystem.follow, followTo, hdirectory, if_pos]
  | @enter links location _ name rest henters hplain _ ih =>
    rw [← ih]
    have hshort := Nat.not_lt.mpr henters.short
    cases links <;>
    · simp only [FileSystem.follow]
      rw [followTo]
      simp only [henters.directory, henters.down, hshort, if_false]
  | @stop links _ _ _ henters hlink hlast =>
    have hshort := Nat.not_lt.mpr henters.short
    cases links <;>
      simp [FileSystem.follow, followTo, henters.directory, henters.down, hshort, hlink, hlast]
  | @jump links location _ name rest target henters hlink hfollowed _ ih =>
    have hshort := Nat.not_lt.mpr henters.short
    have hgoes : ¬ (rest = [] ∧ last = false) := by
      rintro ⟨hrest, hlast⟩
      rcases hfollowed with hmore | hlast'
      · exact hmore hrest
      · cases hlast.symm.trans hlast'
    simp only [FileSystem.follow, followTo, henters.directory, henters.down, hshort, hlink, if_false,
      hgoes]
    exact ih

/-! ## Changes that lead no path elsewhere -/

/-- A change that leaves every directory and every link in its place and makes no links. -/
structure KeepsPaths (files files' : FileSystem) : Prop where
  working : files'.working = files.working
  directories : ∀ location, files.found? location = some .directory →
    files'.found? location = some .directory
  links : ∀ location target, files'.found? location = some (.link target) ↔
    files.found? location = some (.link target)

namespace KeepsPaths

theorem refl (files : FileSystem) : KeepsPaths files files :=
  ⟨rfl, fun _ ↦ id, fun _ _ ↦ Iff.rfl⟩

/-- A name that could be looked up still can. -/
theorem enters (h : KeepsPaths files files') (henters : files.Enters location name) :
    files'.Enters location name :=
  ⟨h.directories _ henters.directory, henters.down, henters.short⟩

theorem leads (h : KeepsPaths files files') (hleads : Leads files last links location names place) :
    Leads files' last links location names place := by
  induction hleads with
  | done => exact .done
  | up hdirectory _ ih => exact .up (h.directories _ hdirectory) ih
  | enter henters hplain _ ih =>
    exact .enter (h.enters henters) (fun target hlink ↦ hplain target ((h.links _ _).mp hlink)) ih
  | stop henters hlink hlast => exact .stop (h.enters henters) ((h.links _ _).mpr hlink) hlast
  | jump henters hlink hfollowed _ ih =>
    exact .jump (h.enters henters) ((h.links _ _).mpr hlink) hfollowed ih

end KeepsPaths

/-! ## Parts of a path -/

/-- Where more names follow, a link at the end of the first ones is followed too. -/
theorem Leads.split (h : Leads files last links location (names ++ rest) place) (hrest : rest ≠ []) :
    ∃ middle used, Leads files true links location names middle ∧
      Leads files last used middle rest place := by
  generalize hall : names ++ rest = all at h
  induction h generalizing names with
  | done => exact absurd (List.append_eq_nil_iff.mp hall).2 hrest
  | @up links location place below hdirectory h ih =>
    cases names with
    | nil =>
      rw [List.nil_append] at hall
      exact ⟨location, links, .done, hall ▸ .up hdirectory h⟩
    | cons first others =>
      obtain ⟨rfl, hbelow⟩ := List.cons.inj hall
      obtain ⟨middle, used, hfirst, hsecond⟩ := ih hbelow
      exact ⟨middle, used, .up hdirectory hfirst, hsecond⟩
  | @enter links location place name below henters hplain h ih =>
    cases names with
    | nil =>
      rw [List.nil_append] at hall
      exact ⟨location, links, .done, hall ▸ .enter henters hplain h⟩
    | cons first others =>
      obtain ⟨rfl, hbelow⟩ := List.cons.inj hall
      obtain ⟨middle, used, hfirst, hsecond⟩ := ih hbelow
      exact ⟨middle, used, .enter henters hplain hfirst, hsecond⟩
  | @stop links location name target henters hlink hlast =>
    cases names with
    | nil =>
      rw [List.nil_append] at hall
      subst hall
      exact ⟨location, links, .done, .stop henters hlink hlast⟩
    | cons first others =>
      exact absurd (List.append_eq_nil_iff.mp (List.cons.inj hall).2).2 hrest
  | @jump links location place name below target henters hlink hfollowed h ih =>
    cases names with
    | nil =>
      rw [List.nil_append] at hall
      exact ⟨location, links + 1, .done, hall ▸ .jump henters hlink hfollowed h⟩
    | cons first others =>
      obtain ⟨rfl, rfl⟩ := List.cons.inj hall
      obtain ⟨middle, used, hfirst, hsecond⟩ := ih (List.append_assoc target.names others rest)
      exact ⟨middle, used, .jump henters hlink (.inr rfl) hfirst, hsecond⟩

/-- A path is located where its names lead, unless its text is refused. -/
theorem locate_eq_ok_iff : files.locate last path = .ok place ↔
    path.toString.contains '\x00' = false ∧ path.toString.utf8ByteSize < pathLimit ∧
      Leads files last linkLimit (base files.working path) path.names place := by
  unfold locate
  split
  · simp_all
  · rename_i hnull
    split
    · rename_i hlong
      simp [Nat.not_lt.mpr hlong]
    · rename_i hshort
      have hnull := Bool.eq_false_iff.mpr hnull
      exact ⟨fun h ↦ ⟨hnull, Nat.not_le.mp hshort, leads_of_follow h⟩, fun h ↦ h.2.2.follow⟩

theorem KeepsPaths.locate (h : KeepsPaths files files') (hlocate : files.locate last path = .ok place) :
    files'.locate last path = .ok place := by
  obtain ⟨hnull, hshort, hleads⟩ := locate_eq_ok_iff.mp hlocate
  exact locate_eq_ok_iff.mpr ⟨hnull, hshort, h.working ▸ h.leads hleads⟩

/-- A directory is where a path leads to one. -/
theorem isDirectory_iff : files.isDirectory path = true ↔
    ∃ place, files.locate true path = .ok place ∧ files.found? place = some .directory := by
  unfold isDirectory
  cases files.locate true path <;> simp

theorem KeepsPaths.isDirectory (h : KeepsPaths files files')
    (hpath : files.isDirectory path = true) : files'.isDirectory path = true := by
  obtain ⟨place, hlocate, hplace⟩ := isDirectory_iff.mp hpath
  exact isDirectory_iff.mpr ⟨place, h.locate hlocate, h.directories place hplace⟩

end Schematic.FileSystem
