import Mathlib.Data.List.Basic
import Schematic.Class.Member

/-!
# Annotations without the families of their classes

A reference to a declared class carries the family of the class, so the same class declared in
another manner is another reference. The family shows only where a class stands as an object
in a collection. Everywhere else an annotation is printed, unwrapped, looked up and taken apart in
the same way whether the families are there or not.
-/

namespace Schematic

namespace ClassRef

/-- A reference by number and name alone. -/
def withoutFamily : ClassRef → ClassRef
  | declared number qualname _ => declared number qualname .ordinary
  | ref => ref

variable {ref other : ClassRef}

@[simp]
theorem fullName_withoutFamily (ref : ClassRef) : ref.withoutFamily.fullName = ref.fullName := by
  cases ref <;> rfl

@[simp]
theorem qualname_withoutFamily (ref : ClassRef) : ref.withoutFamily.qualname = ref.qualname := by
  cases ref <;> rfl

@[simp]
theorem libraryDoc?_withoutFamily [ModelBase] (ref : ClassRef) :
    ref.withoutFamily.libraryDoc? = ref.libraryDoc? := by
  cases ref <;> rfl

/-- Only declared classes are referred to in several ways. -/
theorem withoutFamily_eq_iff (hother : ∀ number qualname family, other ≠ declared number qualname family) :
    ref.withoutFamily = other ↔ ref = other := by
  cases ref with
  | declared number qualname family =>
    exact iff_of_false (hother _ _ _).symm (hother _ _ _).symm
  | _ => rfl

@[simp]
theorem withoutFamily_eq_noneType : ref.withoutFamily = noneType ↔ ref = noneType :=
  withoutFamily_eq_iff (by simp [noneType])

@[simp]
theorem withoutFamily_eq_tuple : ref.withoutFamily = tuple ↔ ref = tuple :=
  withoutFamily_eq_iff (by simp [tuple])

@[simp]
theorem contains_arrays_withoutFamily (ref : ClassRef) :
    arrays.contains ref.withoutFamily = arrays.contains ref := by
  cases ref <;> rfl

/-- Two references are to one class if they have one number. -/
theorem same_withoutFamily (ref other : ClassRef) :
    ref.withoutFamily.same other.withoutFamily = ref.same other := by
  cases ref <;> cases other <;> rfl

end ClassRef

/-- The base of a parameterized annotation, by number and name alone. -/
def GenericBase.withoutFamily : GenericBase → GenericBase
  | cls ref => cls ref.withoutFamily
  | form name => form name

namespace Annotation

mutual

/-- An annotation in which classes are referred to by their numbers and names alone. The objects in
a collection stay as they are. -/
def withoutFamilies : Annotation → Annotation
  | cls ref => cls ref.withoutFamily
  | union style members => union style (withoutFamiliesAll members)
  | generic base args => generic base.withoutFamily (withoutFamiliesAll args)
  | annotated inner metadata => annotated (withoutFamilies inner) metadata
  | qualified qualifier inner => qualified qualifier (withoutFamilies inner)
  | synonym number name inner => synonym number name (withoutFamilies inner)
  | newType number name inner => newType number name (withoutFamilies inner)
  | t => t

def withoutFamiliesAll : List Annotation → List Annotation
  | [] => []
  | first :: rest => withoutFamilies first :: withoutFamiliesAll rest

end

attribute [local simp] withoutFamilies withoutFamiliesAll

theorem withoutFamiliesAll_eq_map (types : List Annotation) :
    withoutFamiliesAll types = types.map withoutFamilies := by
  induction types with
  | nil => rfl
  | cons first rest ih => rw [withoutFamiliesAll, List.map_cons, ih]

/-! ## Wrappers -/

@[simp]
theorem isNoneValue_withoutFamilies (t : Annotation) :
    t.withoutFamilies.isNoneValue = t.isNoneValue := by
  cases t <;> rfl

theorem strip_withoutFamilies (t : Annotation) : t.withoutFamilies.strip = t.strip.withoutFamilies := by
  match t with
  | synonym _ _ inner | newType _ _ inner | annotated inner _ =>
    simp only [withoutFamilies, strip, isNoneValue_withoutFamilies]
    split
    · simp only [withoutFamilies]
    · exact strip_withoutFamilies inner
  | qualified _ inner =>
    simp only [withoutFamilies, strip, isNoneValue_withoutFamilies]
    split
    · simp only [withoutFamilies]
    · exact strip_withoutFamilies inner
  | cls _ | value _ | ellipsis | bare _ | forward _ | literal _ | union .. | generic .. | collection ..
  | mapping _ | function _ | opaqueObject .. => simp only [withoutFamilies, strip]

/-- The text around an annotation is the same. -/
theorem outerDoc?_withoutFamilies (t : Annotation) : t.withoutFamilies.outerDoc? = t.outerDoc? := by
  match t with
  | synonym _ _ inner | newType _ _ inner | annotated inner _ | qualified _ inner =>
    simp only [withoutFamilies, outerDoc?, isNoneValue_withoutFamilies, outerDoc?_withoutFamilies inner]
  | cls _ | value _ | ellipsis | bare _ | forward _ | literal _ | union .. | generic .. | collection ..
  | mapping _ | function _ | opaqueObject .. => simp only [withoutFamilies, outerDoc?]

/-! ## Printing -/

@[simp]
theorem isNoneType_withoutFamilies (t : Annotation) :
    t.withoutFamilies.isNoneType = t.isNoneType := by
  cases t <;> simp [isNoneType]

theorem baseName_withoutFamily (base : GenericBase) : baseName base.withoutFamily = baseName base := by
  cases base with
  | cls ref => exact ref.fullName_withoutFamily
  | form name => rfl

/-- The form of a qualified class shows its name alone. -/
theorem repr_qualified_withoutFamilies (qualifier : Qualifier) {inner : Annotation}
    (h : inner.withoutFamilies.repr = inner.repr) :
    (qualified qualifier inner.withoutFamilies).repr = (qualified qualifier inner).repr := by
  have hinner : bracketed qualifier.name [inner.withoutFamilies.repr] =
      bracketed qualifier.name [inner.repr] := by rw [h]
  have hclass (ref : ClassRef) :
      bracketed "dataclasses.InitVar" [(ClassRef.lastPart ref.withoutFamily.qualname).toList] =
        bracketed "dataclasses.InitVar" [(ClassRef.lastPart ref.qualname).toList] := by
    rw [ClassRef.qualname_withoutFamily]
  cases qualifier with
  | initVar =>
    cases inner with
    | cls ref => exact hclass ref
    | generic base args =>
      cases base with
      | cls ref => exact hclass ref
      | form name => exact hinner
    | _ => exact hinner
  | _ => exact hinner

/-- Members are shown one by one, an absent one in its own manner. -/
theorem reprMembers_withoutFamilies {types : List Annotation}
    (h : ∀ t ∈ types, t.withoutFamilies.repr = t.repr) :
    reprMembers (withoutFamiliesAll types) = reprMembers types := by
  induction types with
  | nil => rfl
  | cons first rest ih =>
    obtain ⟨hfirst, hrest⟩ := List.forall_mem_cons.mp h
    rw [withoutFamiliesAll, reprMembers, reprMembers, isNoneType_withoutFamilies, hfirst, ih hrest]

theorem reprList_withoutFamilies {types : List Annotation}
    (h : ∀ t ∈ types, t.withoutFamilies.repr = t.repr) :
    reprList (withoutFamiliesAll types) = reprList types := by
  induction types with
  | nil => rfl
  | cons first rest ih =>
    obtain ⟨hfirst, hrest⟩ := List.forall_mem_cons.mp h
    have htail := ih hrest
    have hshown : first.withoutFamilies.repr :: reprList (withoutFamiliesAll rest) =
        first.repr :: reprList rest := by rw [hfirst, htail]
    cases first with
    | function name => exact congrArg (name.toList :: ·) htail
    | _ => exact hshown

/-- The form of an annotation inside another one shows no family. -/
theorem repr_withoutFamilies (t : Annotation) : t.withoutFamilies.repr = t.repr := by
  match t with
  | cls ref => exact congrArg String.toList ref.fullName_withoutFamily
  | union style members =>
    have hmembers := reprMembers_withoutFamilies fun t (_ : t ∈ members) ↦ repr_withoutFamilies t
    cases style with
    | named => exact congrArg namedUnion hmembers
    | barred => exact congrArg barredUnion hmembers
  | generic base args =>
    have hargs := reprList_withoutFamilies fun t (_ : t ∈ args) ↦ repr_withoutFamilies t
    exact congrArg₂ bracketed (baseName_withoutFamily base) hargs
  | annotated inner metadata =>
    exact congrArg (fun shown ↦ bracketed "typing.Annotated" (shown :: metadata.map Metadata.repr))
      (repr_withoutFamilies inner)
  | qualified qualifier inner =>
    exact repr_qualified_withoutFamilies qualifier (repr_withoutFamilies inner)
  | synonym .. | newType .. => rfl
  | value _ | ellipsis | bare _ | forward _ | literal _ | collection .. | mapping _ | function _
  | opaqueObject .. => simp only [withoutFamilies]

theorem unhashableIn?_withoutFamilies {types : List Annotation}
    (h : ∀ t ∈ types, t.withoutFamilies.unhashable? = t.unhashable?) :
    unhashableIn? (withoutFamiliesAll types) = unhashableIn? types := by
  induction types with
  | nil => rfl
  | cons first rest ih =>
    obtain ⟨hfirst, hrest⟩ := List.forall_mem_cons.mp h
    rw [withoutFamiliesAll, unhashableIn?, unhashableIn?, hfirst, ih hrest]

theorem unhashable?_withoutFamilies (t : Annotation) : t.withoutFamilies.unhashable? = t.unhashable? := by
  match t with
  | union _ types | generic _ types =>
    have htypes := unhashableIn?_withoutFamilies fun t (_ : t ∈ types) ↦ unhashable?_withoutFamilies t
    simp only [withoutFamilies, unhashable?, htypes]
  | annotated inner _ | qualified _ inner =>
    simp only [withoutFamilies, unhashable?, unhashable?_withoutFamilies inner]
  | cls _ | synonym .. | newType .. => simp only [withoutFamilies, unhashable?]
  | value _ | ellipsis | bare _ | forward _ | literal _ | collection .. | mapping _ | function _
  | opaqueObject .. => simp only [withoutFamilies]

/-! ## Answers about annotations -/

theorem renderStripped_withoutFamilies (t : Annotation) :
    t.withoutFamilies.renderStripped = t.renderStripped := by
  cases t with
  | cls ref =>
    change (if ref.withoutFamily = .noneType then _ else ref.withoutFamily.qualname.toList) = _
    simp only [ClassRef.withoutFamily_eq_noneType, ClassRef.qualname_withoutFamily]
    rfl
  | union style members => exact congrArg withoutModules (repr_withoutFamilies (union style members))
  | generic base args => exact congrArg withoutModules (repr_withoutFamilies (generic base args))
  | annotated inner metadata =>
    exact congrArg withoutModules (repr_withoutFamilies (annotated inner metadata))
  | qualified qualifier inner =>
    exact congrArg withoutModules (repr_withoutFamilies (qualified qualifier inner))
  | _ => rfl

/-- Arrays are told by the classes of the library, which have no family. -/
theorem isArrayForm_withoutFamilies (t : Annotation) : t.withoutFamilies.isArrayForm = t.isArrayForm := by
  cases t with
  | cls ref => exact ref.contains_arrays_withoutFamily
  | generic base args =>
    cases base with
    | cls ref => exact ref.contains_arrays_withoutFamily
    | form name => rfl
  | _ => rfl

theorem args_withoutFamilies (t : Annotation) : t.withoutFamilies.args = t.args.map withoutFamilies := by
  cases t with
  | union style members => exact withoutFamiliesAll_eq_map members
  | generic base args => exact withoutFamiliesAll_eq_map args
  | literal values => simp [args]
  | qualified qualifier inner =>
    simp only [withoutFamilies, args]
    split <;> rfl
  | _ => rfl

theorem withoutFamilies_literalOfValue (v : Value) :
    (literalOfValue v).withoutFamilies = literalOfValue v := by
  unfold literalOfValue
  cases v.plain <;> rfl

theorem flattened_withoutFamilies (t : Annotation) :
    t.withoutFamilies.flattened = t.flattened.map withoutFamilies := by
  unfold flattened
  rw [strip_withoutFamilies]
  cases t.strip with
  | literal values =>
    match values with
    | [] | [_] => rfl
    | _ :: _ :: _ => simp [withoutFamilies_literalOfValue]
  | _ => rfl

theorem render_withoutFamilies (t : Annotation) : t.withoutFamilies.render = t.render := by
  unfold render
  rw [strip_withoutFamilies, renderStripped_withoutFamilies]

theorem literalValue_withoutFamilies (t : Annotation) :
    t.withoutFamilies.literalValue = t.literalValue := by
  unfold literalValue
  rw [strip_withoutFamilies, render_withoutFamilies]
  cases t.strip <;> simp only [withoutFamilies]

theorem isArray_withoutFamilies (t : Annotation) : t.withoutFamilies.isArray = t.isArray := by
  unfold isArray
  rw [strip_withoutFamilies, unhashable?_withoutFamilies, isArrayForm_withoutFamilies]

theorem element?_withoutFamilies (t : Annotation) :
    t.withoutFamilies.element? = t.element?.map withoutFamilies := by
  unfold element?
  rw [strip_withoutFamilies, args_withoutFamilies, List.head?_map]
  cases t.strip.args.head? with
  | none => rfl
  | some first =>
    cases hnone : first.isNoneValue <;> simp [Option.filter, hnone]

/-! ## Building -/

theorem same_withoutFamily (base other : GenericBase) :
    base.withoutFamily.same other.withoutFamily = base.same other := by
  cases base <;> cases other <;> first | rfl | exact ClassRef.same_withoutFamily _ _

theorem anySame_withoutFamilies {types : List Annotation} {other : Annotation}
    (h : ∀ t ∈ types, same t.withoutFamilies other.withoutFamilies = same t other) :
    anySame (withoutFamiliesAll types) other.withoutFamilies = anySame types other := by
  induction types with
  | nil => simp only [withoutFamiliesAll, anySame]
  | cons first rest ih =>
    obtain ⟨hfirst, hrest⟩ := List.forall_mem_cons.mp h
    simp only [withoutFamiliesAll, anySame, hfirst, ih hrest]

theorem allIn_withoutFamilies {types others : List Annotation}
    (h : ∀ t ∈ types, ∀ other, same t.withoutFamilies other.withoutFamilies = same t other) :
    allIn (withoutFamiliesAll types) (withoutFamiliesAll others) = allIn types others := by
  induction types with
  | nil => simp only [withoutFamiliesAll, allIn]
  | cons first rest ih =>
    obtain ⟨hfirst, hrest⟩ := List.forall_mem_cons.mp h
    have hany : (withoutFamiliesAll others).any (same first.withoutFamilies) =
        others.any (same first) := by
      rw [withoutFamiliesAll_eq_map, List.any_map]
      exact congrArg others.any (funext hfirst)
    simp only [withoutFamiliesAll, allIn, ih hrest, hany]

theorem sameList_withoutFamilies {types others : List Annotation}
    (h : ∀ t ∈ types, ∀ other, same t.withoutFamilies other.withoutFamilies = same t other) :
    sameList (withoutFamiliesAll types) (withoutFamiliesAll others) = sameList types others := by
  induction types generalizing others with
  | nil => cases others <;> simp only [withoutFamiliesAll, sameList]
  | cons first rest ih =>
    obtain ⟨hfirst, hrest⟩ := List.forall_mem_cons.mp h
    cases others with
    | nil => simp only [withoutFamiliesAll, sameList]
    | cons second others => simp only [withoutFamiliesAll, sameList, hfirst, ih hrest]

/-- Equality looks at the numbers of classes alone. -/
theorem same_withoutFamilies (t other : Annotation) :
    same t.withoutFamilies other.withoutFamilies = same t other := by
  match t with
  | cls ref => cases other <;> simp only [withoutFamilies, same, ClassRef.same_withoutFamily]
  | union style members =>
    have hmembers (t : Annotation) (_ : t ∈ members) (other : Annotation) :=
      same_withoutFamilies t other
    cases other with
    | union style' others =>
      have hall : ((withoutFamiliesAll others).all fun t ↦ anySame (withoutFamiliesAll members) t) =
          others.all fun t ↦ anySame members t := by
        rw [withoutFamiliesAll_eq_map others, List.all_map]
        exact congrArg others.all (funext fun other ↦
          anySame_withoutFamilies fun t ht ↦ hmembers t ht other)
      simp only [withoutFamilies, same, allIn_withoutFamilies hmembers, hall]
    | _ => simp only [withoutFamilies, same]
  | generic base args =>
    have hargs (t : Annotation) (_ : t ∈ args) (other : Annotation) := same_withoutFamilies t other
    cases other <;>
      simp only [withoutFamilies, same, same_withoutFamily, sameList_withoutFamilies hargs]
  | annotated inner metadata =>
    cases other <;> simp only [withoutFamilies, same, same_withoutFamilies inner]
  | qualified qualifier inner =>
    cases other <;> simp only [withoutFamilies, same, same_withoutFamilies inner]
  | synonym .. | newType .. => cases other <;> simp only [withoutFamilies, same]
  | value _ | ellipsis | bare _ | forward _ | literal _ | collection .. | mapping _ | function _
  | opaqueObject .. => cases other <;> simp only [withoutFamilies, same]

@[simp]
theorem asType_withoutFamilies (t : Annotation) : t.withoutFamilies.asType = t.asType.withoutFamilies := by
  cases t with
  | value v =>
    change (value v).asType = (value v).asType.withoutFamilies
    cases v <;> simp only [asType] <;> first | rfl | (split <;> rfl)
  | _ => rfl

theorem distinct_withoutFamilies (types : List Annotation) :
    distinct (types.map withoutFamilies) = (distinct types).map withoutFamilies := by
  unfold distinct
  suffices ∀ kept : List Annotation,
      (types.map withoutFamilies).foldl
          (fun kept t ↦ if kept.any (same t) then kept else kept ++ [t]) (kept.map withoutFamilies) =
        (types.foldl (fun kept t ↦ if kept.any (same t) then kept else kept ++ [t]) kept).map
          withoutFamilies from this []
  induction types with
  | nil => exact fun _ ↦ rfl
  | cons first rest ih =>
    intro kept
    have hany : (kept.map withoutFamilies).any (same first.withoutFamilies) = kept.any (same first) := by
      rw [List.any_map]
      exact congrArg kept.any (funext (same_withoutFamilies first))
    rw [List.map_cons, List.foldl_cons, List.foldl_cons, hany, ← ih]
    split
    · rfl
    · rw [List.map_append, List.map_singleton]

theorem members_withoutFamilies (t : Annotation) :
    t.withoutFamilies.members = t.members.map withoutFamilies := by
  cases t with
  | union style members => exact withoutFamiliesAll_eq_map members
  | _ => rfl

/-- A union may lose its families before or after it is built. -/
theorem unionOf_withoutFamilies (types : List Annotation) :
    unionOf (types.map withoutFamilies) = (unionOf types).withoutFamilies := by
  have hmembers : ((types.map withoutFamilies).map asType).flatMap members =
      ((types.map asType).flatMap members).map withoutFamilies := by
    simp only [List.flatMap_map, List.map_flatMap, asType_withoutFamilies, members_withoutFamilies]
  unfold unionOf unionOfMembers
  rw [hmembers, distinct_withoutFamilies]
  match distinct ((types.map asType).flatMap members) with
  | [] | [_] => rfl
  | _ :: _ :: _ => simp only [List.map_cons, withoutFamilies, withoutFamiliesAll_eq_map]

theorem annotatedWith_withoutFamilies (t : Annotation) (metadata : List Metadata) :
    t.withoutFamilies.annotatedWith metadata = (t.annotatedWith metadata).withoutFamilies := by
  unfold annotatedWith
  rw [asType_withoutFamilies]
  cases t.asType <;> rfl

/-! ## Markers of absent values -/

theorem peel_withoutFamilies (t : Annotation) :
    t.withoutFamilies.peel = (t.peel.1.withoutFamilies, t.peel.2) := by
  match t with
  | annotated inner metadata => simp only [withoutFamilies, peel, peel_withoutFamilies inner]
  | qualified qualifier inner =>
    simp only [withoutFamilies, peel, peel_withoutFamilies inner]
    split
    · rfl
    · simp only [withoutFamilies]
  | cls _ | value _ | ellipsis | bare _ | forward _ | literal _ | union .. | generic .. | synonym ..
  | newType .. | collection .. | mapping _ | function _ | opaqueObject .. =>
    simp only [withoutFamilies, peel]

@[simp]
theorem isUndefined_withoutFamilies (t : Annotation) : t.withoutFamilies.isUndefined = t.isUndefined := by
  cases t with
  | cls ref =>
    have hundefined : ref.withoutFamily = .undefined ↔ ref = .undefined :=
      ClassRef.withoutFamily_eq_iff (by simp)
    simp [isUndefined, hundefined]
  | _ => rfl

/-- The marker of absent values is taken out in the same way. -/
theorem withoutUndefined?_withoutFamilies (t : Annotation) :
    t.withoutFamilies.withoutUndefined? = t.withoutUndefined?.map withoutFamilies := by
  unfold withoutUndefined?
  rw [peel_withoutFamilies]
  cases hpeel : t.peel with
  | mk content metadata =>
    cases content with
    | union style members =>
      have hrest : (members.map withoutFamilies).filter (fun member ↦ !member.isUndefined) =
          (members.filter fun member ↦ !member.isUndefined).map withoutFamilies := by
        rw [List.filter_map]
        simp only [Function.comp_def, isUndefined_withoutFamilies]
      have hany : (members.map withoutFamilies).any isUndefined = members.any isUndefined := by
        rw [List.any_map]
        exact congrArg members.any (funext isUndefined_withoutFamilies)
      simp only [withoutFamilies, withoutFamiliesAll_eq_map, hany, hrest, unionOf_withoutFamilies,
        annotatedWith_withoutFamilies]
      split
      · split <;> rfl
      · rfl
    | _ => rfl

end Annotation

end Schematic
