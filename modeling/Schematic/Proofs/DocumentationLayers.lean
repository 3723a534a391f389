import Schematic.Proofs.AbsentMembers
import Schematic.Reference.Environment

/-!
# Layers of documentation

Documentation may be written in layers around a type, which aliases, new types and qualifiers keep
apart. The outermost layer that has a text decides, and of that layer the first text. So a text that is
written where a type is used stands before all that the type says behind an alias. It also stands before
the texts in what remains of a union without the marker of absent values, unless the rest opens with one.

Metadata right around metadata is one layer, in which the inner texts come first: the annotation does
not tell how it was written. A text right around another one is therefore passed over.
-/

namespace Schematic

/-! ## Layers -/

/-- A wrapper as it is written around a type. -/
inductive Layer where
  | synonym (number : Nat) (name : String)
  | newType (number : Nat) (name : String)
  | qualifier (own : Qualifier) (htransparent : own.isTransparent = true)
  | metadata (data : List Metadata)

namespace Layer

def doc? : Layer → Option String
  | metadata data => data.findSome? Metadata.documentation?
  | _ => none

/-- Whether a union is still seen to be one behind the layer. -/
def isPeeled : Layer → Bool
  | synonym .. | newType .. => false
  | _ => true

def around : Layer → Annotation → Annotation
  | synonym number name, t => .synonym number name t
  | newType number name, t => .newType number name t
  | qualifier own _, t => t.qualify own
  | metadata data, t => t.annotatedWith data

/-- Metadata joins the metadata that it is written right around. -/
def join : Layer → List Layer → List Layer
  | metadata outer, metadata inner :: rest => metadata (inner ++ outer) :: rest
  | layer, rest => layer :: rest

/-- Layers as an annotation keeps them apart. -/
def joined (layers : List Layer) : List Layer :=
  layers.foldr join []

/-- Metadata is read after the metadata that it joins, and before all other layers. -/
theorem docs_join_metadata (data : List Metadata) (layers : List Layer) :
    ((metadata data).join layers).head?.bind doc? = (layers.head?.bind doc?).or (metadata data).doc? ∧
      ((metadata data).join layers).findSome? doc? =
        ((layers.head?.bind doc?).or (metadata data).doc?).or (layers.findSome? doc?) := by
  have hcons (layer : Layer) (rest : List Layer) :
      (layer :: rest).findSome? doc? = layer.doc?.or (rest.findSome? doc?) := by
    rw [List.findSome?_cons]
    cases layer.doc? <;> rfl
  cases layers with
  | nil => exact ⟨rfl, hcons (metadata data) []⟩
  | cons first rest =>
    cases first with
    | metadata inner =>
      have hdoc : (metadata (inner ++ data)).doc? = (metadata inner).doc?.or (metadata data).doc? :=
        List.findSome?_append
      refine ⟨hdoc, ?_⟩
      change (metadata (inner ++ data) :: rest).findSome? doc? =
        ((metadata inner).doc?.or (metadata data).doc?).or _
      rw [hcons, hcons, hdoc]
      cases (metadata inner).doc? <;> rfl
    | _ => exact ⟨rfl, hcons (metadata data) _⟩

end Layer

namespace Annotation

/-- A type with layers around it, the outermost one first. -/
def within (layers : List Layer) (t : Annotation) : Annotation :=
  layers.foldr Layer.around t

/-- The documentation text of the metadata that an annotation opens with. -/
def ownDoc? : Annotation → Option String
  | annotated _ own => own.findSome? Metadata.documentation?
  | _ => none

/-! ## The text that is found -/

variable {t : Annotation} {layers : List Layer}

theorem outerDoc?_of_isNoneValue (h : t.isNoneValue = true) : t.outerDoc? = none := by
  unfold isNoneValue at h
  split at h
  · rfl
  · cases h

/-- The check for the absent value may be left out. -/
theorem outerDoc?_inner (t : Annotation) :
    (if t.isNoneValue then none else t.outerDoc?) = t.outerDoc? := by
  split
  · rename_i hnone
    exact (outerDoc?_of_isNoneValue hnone).symm
  · rfl

theorem outerDoc?_annotated (t : Annotation) (data : List Metadata) :
    (annotated t data).outerDoc? = (data.findSome? Metadata.documentation?).or t.outerDoc? := by
  rw [outerDoc?, outerDoc?_inner]
  cases data.findSome? Metadata.documentation? <;> rfl

theorem outerDoc?_qualified {own : Qualifier} (h : own.isTransparent = true) (t : Annotation) :
    (qualified own t).outerDoc? = t.outerDoc? := by
  rw [outerDoc?, h]
  exact outerDoc?_inner t

theorem qualify_of_isTransparent {own : Qualifier} (h : own.isTransparent = true) (t : Annotation) :
    t.qualify own = qualified own t.asType := by
  cases own <;> first | rfl | cases h

/-- The absent value, as a type, is documented no better. -/
theorem docs_asType (t : Annotation) :
    t.asType.outerDoc? = t.outerDoc? ∧ t.asType.ownDoc? = t.ownDoc? := by
  unfold asType
  split
  · exact ⟨rfl, rfl⟩
  · split <;> exact ⟨rfl, rfl⟩
  · exact ⟨rfl, rfl⟩

/-- The own text of an annotation is its outer one. -/
theorem ownDoc?_or_outerDoc? (t : Annotation) : t.ownDoc?.or t.outerDoc? = t.outerDoc? := by
  cases t with
  | annotated inner own =>
    rw [outerDoc?_annotated]
    change (own.findSome? _).or _ = _
    cases own.findSome? Metadata.documentation? <;> rfl
  | _ => rfl

/-- Texts that are added to metadata come after those that are there. -/
theorem docs_annotatedWith (t : Annotation) (data : List Metadata) :
    (t.annotatedWith data).ownDoc? = t.ownDoc?.or (data.findSome? Metadata.documentation?) ∧
      (t.annotatedWith data).outerDoc? =
        (t.ownDoc?.or (data.findSome? Metadata.documentation?)).or t.outerDoc? := by
  obtain ⟨houter, hown⟩ := t.docs_asType
  rw [← houter, ← hown]
  unfold annotatedWith
  split
  · rename_i inner own hlayer
    rw [hlayer, outerDoc?_annotated, outerDoc?_annotated]
    change (own ++ data).findSome? _ = (own.findSome? _).or _ ∧
      _ = ((own.findSome? _).or _).or _
    rw [List.findSome?_append]
    refine ⟨rfl, ?_⟩
    cases own.findSome? Metadata.documentation? <;> simp
  · rename_i hother
    have hnone : t.asType.ownDoc? = none := by
      unfold ownDoc?
      split
      · rename_i inner own hlayer
        exact absurd hlayer (hother inner own)
      · rfl
    rw [hnone, Option.none_or]
    exact ⟨rfl, outerDoc?_annotated _ data⟩

/-- The outermost layer that has a text decides, and behind all layers the type itself. -/
theorem docs_within (ht : t.ownDoc? = none) (layers : List Layer) :
    (t.within layers).ownDoc? = (Layer.joined layers).head?.bind Layer.doc? ∧
      (t.within layers).outerDoc? =
        ((Layer.joined layers).findSome? Layer.doc?).or t.outerDoc? := by
  -- Metadata joins the layer that it is written around, so the text of that layer is carried along.
  induction layers with
  | nil => exact ⟨ht, rfl⟩
  | cons layer rest ih =>
    obtain ⟨hown, houter⟩ := ih
    change (layer.around (t.within rest)).ownDoc? = (layer.join (Layer.joined rest)).head?.bind _ ∧
      (layer.around (t.within rest)).outerDoc? = ((layer.join (Layer.joined rest)).findSome? _).or _
    cases layer with
    | synonym number name | newType number name => exact ⟨rfl, (outerDoc?_inner _).trans houter⟩
    | qualifier own htransparent =>
      rw [Layer.around, qualify_of_isTransparent htransparent, outerDoc?_qualified htransparent,
        (docs_asType _).1]
      exact ⟨rfl, houter⟩
    | metadata data =>
      obtain ⟨hfirst, hdocs⟩ := Layer.docs_join_metadata data (Layer.joined rest)
      obtain ⟨hown', houter'⟩ := docs_annotatedWith (t.within rest) data
      rw [Layer.around, hown', houter', hown, houter, hfirst, hdocs, ← Option.or_assoc]
      exact ⟨rfl, rfl⟩

/-! ## Unions behind layers -/

/-- The metadata that is peeled off goes before what is below. -/
theorem outerDoc?_peel (t : Annotation) :
    t.outerDoc? = (t.peel.2.findSome? Metadata.documentation?).or t.peel.1.outerDoc? := by
  fun_induction peel t with
  | case1 inner metadata ih =>
    rw [outerDoc?_annotated, ih, List.findSome?_append, Option.or_assoc]
  | case2 qualifier inner htransparent ih => rw [outerDoc?_qualified htransparent, ih]
  | case3 => rfl
  | case4 => rfl

theorem peel_annotatedWith (h : t.asType = t) (data : List Metadata) :
    (t.annotatedWith data).peel.1 = t.peel.1 := by
  unfold annotatedWith
  rw [h]
  split <;> rfl

/-- A union is found again behind layers that do not hide it. -/
theorem peel_within (ht : t.asType = t) (hpeeled : ∀ layer ∈ layers, layer.isPeeled = true) :
    (t.within layers).peel.1 = t.peel.1 ∧ (t.within layers).asType = t.within layers := by
  induction layers with
  | nil => exact ⟨rfl, ht⟩
  | cons layer rest ih =>
    obtain ⟨hlayer, hrest⟩ := List.forall_mem_cons.mp hpeeled
    obtain ⟨hpeel, htype⟩ := ih hrest
    change (layer.around (t.within rest)).peel.1 = _ ∧
      (layer.around (t.within rest)).asType = layer.around (t.within rest)
    cases layer with
    | synonym number name | newType number name => cases hlayer
    | qualifier own htransparent =>
      rw [Layer.around, qualify_of_isTransparent htransparent, htype, peel, if_pos htransparent]
      exact ⟨hpeel, rfl⟩
    | metadata data =>
      rw [Layer.around, peel_annotatedWith htype]
      refine ⟨hpeel, ?_⟩
      unfold annotatedWith
      split <;> rfl

/-- What remains of a union keeps the order of the layers around the union. -/
theorem outerDoc?_present {style : UnionStyle} {members : List Annotation} {metadata : List Metadata}
    (hpeel : t.peel = (union style members, metadata))
    (hrest : t.outerDoc? = none ∨ (present members []).ownDoc? = none) :
    (present members metadata).outerDoc? = t.outerDoc?.or (present members []).outerDoc? := by
  have hdocs : t.outerDoc? = metadata.findSome? Metadata.documentation? := by
    rw [outerDoc?_peel, hpeel]
    exact Option.or_none
  rw [hdocs] at hrest ⊢
  cases metadata with
  | nil => rfl
  | cons data metadata =>
    change (annotatedWith (present members []) (data :: metadata)).outerDoc? = _
    rw [(docs_annotatedWith _ _).2]
    rcases hrest with hmetadata | hown
    · rw [hmetadata, Option.or_none, Option.none_or, ownDoc?_or_outerDoc?]
    · rw [hown, Option.none_or]

end Annotation

namespace Module

open Annotation

section

variable [Environment]

variable {m : Module} {t : Annotation} {layers : List Layer}

/-! ## Symbols -/

/-- Where no class lends its text, the outer text is parsed. -/
theorem symbol?_of_noClass (h : m.classSymbol? t = none) :
    m.symbol? t = Docstring.parseOption t.outerDoc? t.render := by
  unfold symbol?
  rw [h]

theorem classSymbol?_asType (h : m.classSymbol? t = none) : m.classSymbol? t.asType = none := by
  unfold asType
  split
  · rfl
  · split <;> rfl
  · exact h

/-- A wrapper lends no symbol of its own, whether it can be taken off or not. -/
theorem classSymbol?_wrapper {u : Annotation} {isKept : Bool}
    (hstrip : u.strip = if isKept then u else t.strip) (hother : ∀ ref, u ≠ .cls ref)
    (h : m.classSymbol? t = none) : m.classSymbol? u = none := by
  unfold classSymbol? at h ⊢
  cases isKept with
  | true =>
    rw [hstrip]
    cases u with
    | cls ref => exact absurd rfl (hother ref)
    | _ => rfl
  | false =>
    rw [hstrip]
    exact h

theorem classSymbol?_annotatedWith (h : m.classSymbol? t = none) (data : List Metadata) :
    m.classSymbol? (t.annotatedWith data) = none := by
  have htype := classSymbol?_asType h
  have hother (inner : Annotation) (own : List Metadata) : ∀ ref, annotated inner own ≠ .cls ref := by
    simp
  unfold annotatedWith
  split
  · rename_i inner own hlayer
    rw [hlayer] at htype
    have hstrip : (annotated inner (own ++ data)).strip =
        if inner.isNoneValue then annotated inner (own ++ data) else (annotated inner own).strip := by
      rw [strip, strip]
      split <;> rfl
    exact classSymbol?_wrapper hstrip (hother _ _) htype
  · exact classSymbol?_wrapper rfl (hother _ _) htype

theorem classSymbol?_present {members : List Annotation}
    (h : m.classSymbol? (present members []) = none) (metadata : List Metadata) :
    m.classSymbol? (present members metadata) = none := by
  cases metadata with
  | nil => exact h
  | cons data metadata => exact classSymbol?_annotatedWith h (data :: metadata)

theorem classSymbol?_within (h : m.classSymbol? t = none) (layers : List Layer) :
    m.classSymbol? (t.within layers) = none := by
  induction layers with
  | nil => exact h
  | cons layer rest ih =>
    change m.classSymbol? (layer.around (t.within rest)) = none
    cases layer with
    | synonym number name | newType number name => exact classSymbol?_wrapper rfl nofun ih
    | qualifier own htransparent =>
      rw [Layer.around, qualify_of_isTransparent htransparent]
      exact classSymbol?_wrapper rfl nofun (classSymbol?_asType ih)
    | metadata data => exact classSymbol?_annotatedWith ih data

/-- The symbol of a type without a class symbol is the parse of the first text of the outermost layer
that has one, and there is none if no layer and no wrapper of the type has a text. In a member that
loses the marker of absent values, the layers around the union stand before those of what remains. -/
theorem symbol?_within (m : Module) :
    (∀ t layers, m.classSymbol? t = none → t.ownDoc? = none →
      m.symbol? (t.within layers) = Docstring.parseOption
        (((Layer.joined layers).findSome? Layer.doc?).or t.outerDoc?) (t.within layers).render) ∧
    ∀ style members layers name optional doc, .cls .undefined ∈ members →
      (∀ layer ∈ layers, layer.isPeeled = true) → m.classSymbol? (present members []) = none →
      ((Layer.joined layers).findSome? Layer.doc? = none ∨ (present members []).ownDoc? = none) →
      let reported := member name ((union style members).within layers) optional doc
      reported.optional = true ∧ m.symbol? reported.type = Docstring.parseOption
        (((Layer.joined layers).findSome? Layer.doc?).or (present members []).outerDoc?)
        reported.type.render := by
  constructor
  · intro t layers hclass hown
    rw [symbol?_of_noClass (classSymbol?_within hclass layers), (docs_within hown layers).2]
  · intro style members layers name optional doc hundefined hpeeled hclass hrest reported
    have hpeel : ((union style members).within layers).peel =
        (union style members, ((union style members).within layers).peel.2) :=
      Prod.ext (peel_within rfl hpeeled).1 rfl
    have hdocs : ((union style members).within layers).outerDoc? =
        (Layer.joined layers).findSome? Layer.doc? :=
      (docs_within rfl layers).2.trans Option.or_none
    have hreported : reported = ⟨name, present members ((union style members).within layers).peel.2,
        true, Docstring.parseOption doc name⟩ := by
      change member name _ optional doc = _
      unfold member
      rw [withoutUndefined?_of_peel hpeel hundefined]
    rw [← hdocs] at hrest ⊢
    rw [hreported]
    refine ⟨rfl, ?_⟩
    change m.symbol? (present members _) = Docstring.parseOption _ (present members _).render
    rw [symbol?_of_noClass (classSymbol?_present hclass _), outerDoc?_present hpeel hrest]

end

attribute [local instance] Environment.plain

/-- An alias of a described number that must be there, described again where it is used. -/
def portLayers : List Layer :=
  [.metadata [.plain (.int 1), .doc "The port."], .qualifier .required rfl, .synonym 0 "Port",
    .metadata [.doc "A number."]]

def absentNumber : List Annotation :=
  [.cls (.builtin "int"), .cls .undefined]

theorem symbol?_within_port :
    Module.empty.symbol? ((cls (.builtin "int")).within portLayers) =
      Docstring.parse "The port." "int" ∧
    Module.empty.symbol? (member "x" ((union .barred absentNumber).within
      [.metadata [.doc "The port."]]) false none).type = Docstring.parse "The port." "int" := by
  obtain ⟨hsymbol, hreported⟩ := symbol?_within Module.empty
  have hrest : present absentNumber [] = .cls (.builtin "int") := rfl
  refine ⟨(hsymbol _ portLayers rfl rfl).trans rfl, ?_⟩
  refine (hreported .barred absentNumber [.metadata [.doc "The port."]] "x" false none
    (.tail _ (.head _)) ?_ rfl (.inr rfl)).2.trans rfl
  intro layer hlayer
  rw [List.mem_singleton.mp hlayer]
  rfl

/-! ## Metadata right around metadata -/

/-- A text right around another one comes second in their common layer, so it is not found. Nothing
tells the annotation from one in which both texts are written in that order. -/
theorem symbol?_of_adjacent :
    let int : Annotation := .cls (.builtin "int")
    let layers : List Layer := [.metadata [.doc "outer"], .metadata [.doc "inner"]]
    Module.empty.classSymbol? int = none ∧
      int.within layers = int.within [.metadata [.doc "inner", .doc "outer"]] ∧
      Module.empty.symbol? (int.within layers) = Docstring.parse "inner" "int" ∧
      Module.empty.symbol? (int.within layers) ≠
        Docstring.parseOption (layers.findSome? Layer.doc?) (int.within layers).render :=
  ⟨rfl, rfl, rfl, by decide⟩

end Module

end Schematic
