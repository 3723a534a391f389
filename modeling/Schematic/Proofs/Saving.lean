import Schematic.Proofs.FollowedPaths

/-!
# Saved files

A file that is written is found again under its path, which leads to the same place as before: the file
is there already, or it is put where nothing was. Writing changes no other file and no other place. If
it breaks off, the file is left with the front of the text.
-/

namespace Schematic.FileSystem

variable {files files' : FileSystem} {location other : Location} {entry : Entry} {path : Path}
  {content : String} {number : Nat}

/-! ## Entries -/

theorem found?_put_self (h : files.found? location = none) :
    found? (files.put location entry) location = some entry := by
  have houtside : location.isPrefixOf files.working = false := by
    by_contra hinside
    unfold found? at h
    rw [if_pos (eq_true_of_ne_false hinside)] at h
    cases h
  have hothers : (files.entries.filter fun kept ↦ kept.1 ≠ location).find?
      (fun kept ↦ kept.1 = location) = none := by
    rw [List.find?_eq_none]
    intro kept hkept
    simpa using (List.mem_filter.mp hkept).2
  unfold found? put
  dsimp only
  rw [houtside, List.find?_append, hothers]
  simp

theorem found?_put_of_ne (h : other ≠ location) :
    found? (files.put location entry) other = files.found? other := by
  have hkept : (files.entries.filter fun kept ↦ kept.1 ≠ location).find?
      (fun kept ↦ kept.1 = other) = files.entries.find? fun kept ↦ kept.1 = other := by
    rw [List.find?_filter]
    refine congrArg (fun p ↦ files.entries.find? p) (funext fun kept ↦ ?_)
    by_cases hsame : kept.1 = other
    · simp [hsame, h]
    · simp [hsame]
  have hnew : [(location, entry)].find? (fun kept ↦ kept.1 = other) = none := by
    simp [h.symm]
  unfold found? put
  dsimp only
  rw [List.find?_append, hkept, hnew, Option.or_none]

/-- A new entry leads nobody astray unless it is a link. -/
theorem keepsPaths_put (hnothing : files.found? location = none)
    (hentry : ∀ target, entry ≠ .link target) : KeepsPaths files (files.put location entry) where
  working := rfl
  directories other hother := by
    have hne : other ≠ location := by
      rintro rfl
      cases hnothing.symm.trans hother
    rw [found?_put_of_ne hne, hother]
  links other target := by
    by_cases hother : other = location
    · subst hother
      rw [found?_put_self hnothing, hnothing]
      exact iff_of_false (fun heq ↦ hentry target (Option.some.inj heq)) nofun
    · rw [found?_put_of_ne hother]

/-- The numbers of files in use are below the fresh one. -/
theorem lt_fresh (h : files.found? location = some (.file number)) : number < files.fresh := by
  unfold found? at h
  split at h
  · cases h
  · obtain ⟨found, hfound, hentry⟩ := Option.map_eq_some_iff.mp h
    unfold fresh
    generalize files.entries = entries at hfound
    have hmem := List.mem_of_find?_eq_some hfound
    clear hfound h
    induction entries with
    | nil => cases hmem
    | cons first rest ih =>
      rw [List.map_cons, List.foldr_cons]
      rcases List.mem_cons.mp hmem with rfl | hmem
      · rw [hentry]
        exact Nat.le_max_left ..
      · exact Nat.lt_of_lt_of_le (ih hmem) (Nat.le_max_right ..)

theorem found?_ne_fresh (files : FileSystem) (location : Location) :
    files.found? location ≠ some (.file files.fresh) :=
  fun h ↦ Nat.lt_irrefl _ (lt_fresh h)

/-! ## Writing -/

theorem fill_fill (files : FileSystem) (number : Nat) (first second : String) :
    (files.fill number first).fill number second = files.fill number second := by
  unfold fill
  congr 1
  funext other
  dsimp only
  split <;> rfl

/-- A file at a place gets a text, as the file that was there or as a new one. All else stays. -/
structure Writes (location : Location) (number : Nat) (content : String) (files files' : FileSystem) :
    Prop where
  entry : files'.found? location = some (.file number)
  content : files'.contents number = content
  own : files.found? location = some (.file number) ∨
    files.found? location = none ∧ ∀ other, files.found? other ≠ some (.file number)
  entries : ∀ other, other ≠ location → files'.found? other = files.found? other
  contents : ∀ other, other ≠ number → files'.contents other = files.contents other
  paths : KeepsPaths files files'
  refusals : files'.refusals = files.refusals

/-- A file that is opened is there with its old or a new number. -/
theorem writes_of_openFile {opened : FileSystem} (h : files.openFile location = .ok (opened, number)) :
    files.refusals.opening location = none ∧
      ∀ content, Writes location number content files (opened.fill number content) := by
  unfold openFile at h
  split at h
  · cases h
  · cases h
  · rename_i hentry hopening
    cases h
    refine ⟨hopening, fun content ↦ ?_⟩
    rw [fill_fill]
    exact
      { entry := hentry
        content := if_pos rfl
        own := .inl hentry
        entries := fun _ _ ↦ rfl
        contents := fun _ hother ↦ if_neg hother
        paths := ⟨rfl, fun _ ↦ id, fun _ _ ↦ Iff.rfl⟩
        refusals := rfl }
  · cases h
  · rename_i hentry hopening
    cases h
    refine ⟨hopening, fun content ↦ ?_⟩
    rw [fill_fill]
    have hkeeps : KeepsPaths files (files.put location (.file files.fresh)) :=
      keepsPaths_put hentry nofun
    exact
      { entry := found?_put_self hentry
        content := if_pos rfl
        own := .inr ⟨hentry, files.found?_ne_fresh⟩
        entries := fun other hother ↦ by
          change found? (files.put location (.file files.fresh)) other = _
          exact found?_put_of_ne hother
        contents := fun _ hother ↦ if_neg hother
        paths := ⟨hkeeps.working, hkeeps.directories, hkeeps.links⟩
        refusals := rfl }

inductive WriteResult (files : FileSystem) (path : Path) (content : String) : Changed → Prop
  | refused (error : FileError) : WriteResult files path content ⟨files, some error⟩
  | brokenOff {files' : FileSystem} {location : Location} {number room : Nat} {reason : String}
      (hlocate : files.locate true path = .ok location)
      (hwriting : files.refusals.writing location = some (room, reason)) (hroom : room < content.length)
      (hwrites : Writes location number (String.ofList (content.toList.take room)) files files') :
      WriteResult files path content ⟨files', some (.refused reason)⟩
  | written {files' : FileSystem} {location : Location} {number : Nat}
      (hlocate : files.locate true path = .ok location)
      (hopening : files.refusals.opening location = none)
      (hwriting : ∀ refusal ∈ files.refusals.writing location, content.length ≤ refusal.1)
      (hwrites : Writes location number content files files') :
      WriteResult files path content ⟨files', none⟩

/-- A write is refused, breaks off or succeeds. -/
theorem writeResult (files : FileSystem) (path : Path) (content : String) :
    WriteResult files path content (files.writeFile path content) := by
  unfold writeFile
  split
  · exact .refused _
  · rename_i location hlocate
    split
    · exact .refused _
    · rename_i opened number hopen
      obtain ⟨hopening, hwrites⟩ := writes_of_openFile hopen
      split
      · rename_i room reason hwriting
        split
        · rename_i hroom
          exact .brokenOff hlocate hwriting hroom (hwrites _)
        · rename_i hroom
          refine .written hlocate hopening ?_ (hwrites _)
          rw [hwriting]
          intro refusal hrefusal
          obtain rfl := Option.some.inj hrefusal
          exact Nat.not_lt.mp hroom
      · rename_i hwriting
        refine .written hlocate hopening ?_ (hwrites _)
        rw [hwriting]
        exact fun _ hrefusal ↦ by cases hrefusal

namespace Writes

variable (h : Writes location number content files files')

include h

theorem content?_eq (hlocate : files.locate true path = .ok location) :
    files'.content? path = some content := by
  unfold content?
  rw [h.paths.locate hlocate]
  dsimp only
  rw [h.entry]
  exact congrArg some h.content

end Writes

/-! ## Saving -/

/-- A file is saved once the directories above it are there; a failure keeps those that are made. -/
theorem save_cases (files : FileSystem) (path : Path) (content : String) :
    ((files.ensureDirectories path.parent).error? ≠ none ∧
      files.save path content = files.ensureDirectories path.parent) ∨
    ((files.ensureDirectories path.parent).error? = none ∧
      WriteResult (files.ensureDirectories path.parent).files path content (files.save path content)) := by
  unfold save
  dsimp only
  split
  · rename_i herror
    exact .inl ⟨by simp [herror], rfl⟩
  · rename_i hmade
    exact .inr ⟨hmade, writeResult _ path content⟩

/-- A file that is saved has the content that is written. -/
theorem content?_save (h : (files.save path content).error? = none) :
    (files.save path content).files.content? path = some content := by
  rcases save_cases files path content with ⟨hfailed, hsave⟩ | ⟨-, hresult⟩
  · exact absurd (hsave ▸ h) hfailed
  · generalize files.save path content = changed at h hresult
    cases hresult with
    | refused | brokenOff => cases h
    | written hlocate _ _ hwrites => exact hwrites.content?_eq hlocate

/-! ## The working directory -/

/-- A name that may stand alone as a path to a file of the working directory. -/
structure IsFileName (name : String) : Prop where
  nonempty : name ≠ ""
  noParent : name ≠ ".."
  noNull : name.contains '\x00' = false
  short : name.utf8ByteSize ≤ nameLimit

theorem found?_working (files : FileSystem) : files.found? files.working = some .directory :=
  if_pos (List.isPrefixOf_iff_prefix.mpr List.prefix_rfl)

theorem found?_base (files : FileSystem) (path : Path) :
    files.found? (base files.working path) = some .directory := by
  unfold base
  split
  · exact files.found?_working
  · exact if_pos rfl

theorem locate_start (files : FileSystem) (last : Bool) (start : Path.Start) :
    files.locate last ⟨start, []⟩ = .ok (base files.working ⟨start, []⟩) :=
  locate_eq_ok_iff.mpr ⟨by cases start <;> simp [Path.toString, Path.Start.text],
    by cases start <;> decide, .done⟩

theorem isDirectory_start (files : FileSystem) (start : Path.Start) :
    files.isDirectory ⟨start, []⟩ = true :=
  isDirectory_iff.mpr ⟨_, files.locate_start true start, files.found?_base _⟩

theorem ensureDirectory_start (files : FileSystem) (start : Path.Start) :
    files.ensureDirectory ⟨start, []⟩ = ⟨files, none⟩ := by
  unfold ensureDirectory makeDirectory
  rw [locate_start]
  dsimp only
  rw [found?_base]
  exact if_pos ⟨by decide, files.isDirectory_start start⟩

/-- A plain name is looked up in the working directory. -/
theorem locate_name {name : String} (h : IsFileName name)
    (hplain : ∀ target, files.found? (files.working ++ [name]) ≠ some (.link target)) (last : Bool) :
    files.locate last ⟨.working, [name]⟩ = .ok (files.working ++ [name]) := by
  have htext : (Path.mk .working [name]).toString = name := by
    simp [Path.toString, Path.Start.text, h.nonempty]
  have hshort : name.utf8ByteSize < pathLimit := by
    have hname := h.short
    unfold nameLimit at hname
    unfold pathLimit
    omega
  refine locate_eq_ok_iff.mpr ⟨by rw [htext, h.noNull], by rwa [htext], ?_⟩
  exact .enter ⟨files.found?_working, h.noParent, h.short⟩ hplain .done

/-- A new file of the working directory is saved, if the system does not refuse. -/
theorem error?_save_name {name : String} (h : IsFileName name)
    (hnothing : files.found? (files.working ++ [name]) = none)
    (hopening : files.refusals.opening (files.working ++ [name]) = none)
    (hwriting : files.refusals.writing (files.working ++ [name]) = none) (content : String) :
    (files.save ⟨.working, [name]⟩ content).error? = none := by
  have hparent : files.ensureDirectories (Path.parent ⟨.working, [name]⟩) = ⟨files, none⟩ :=
    files.ensureDirectory_start .working
  have hlocate := locate_name h (fun target hlink ↦ by cases hnothing.symm.trans hlink) true
  unfold save
  rw [hparent]
  dsimp only
  unfold writeFile openFile
  rw [hlocate]
  dsimp only
  rw [hnothing, hopening]
  dsimp only
  rw [hwriting]

end Schematic.FileSystem
