import Mathlib.Data.List.Basic
import Schematic.Annotation.Build
import Schematic.Proofs.ClassDescent
import Schematic.Proofs.Classification
import Schematic.Reference.Environment

/-!
# Wrappers

The compiler asks a type model and never looks into a type, so two types about which the model
answers every question in the same way have the same category and the same compilation. Around
an annotation, an alias, a new type, a qualifier that concerns a key only, and metadata that
documents nothing change no answer, in whatever order and number they are put around it. There
is one exception: an alias or a new type of `None` wraps nothing and is a type of its own, which
no schema supports.
-/

namespace Schematic

/-! ## Types that a model cannot tell apart -/

namespace TypeModel

variable {τ ι : Type} {model : TypeModel τ ι} {a b : τ}

/-- The model answers every question about two types in the same way. -/
structure Alike (model : TypeModel τ ι) (a b : τ) : Prop where
  symbol : model.symbol a = model.symbol b
  flags : model.flags a = model.flags b
  literal : model.literal a = model.literal b
  unionMembers : model.unionMembers a = model.unionMembers b
  isArray : model.isArray a = model.isArray b
  element? : model.element? a = model.element? b
  isTuple : model.isTuple a = model.isTuple b
  members : model.members a = model.members b
  render : model.render a = model.render b
  identity : model.identity a = model.identity b

namespace Alike

theorem refl (type : τ) : Alike model type type := by
  constructor <;> rfl

/-- Types that are alike under a model are told apart by no classification. -/
theorem resembles (model : TypeModel τ ι) : Resembles model model fun a b ↦ Alike model b a where
  flags h := h.flags
  literal h := h.literal
  unionMembers h := h.unionMembers ▸ List.forall₂_same.mpr fun _ _ ↦ .refl _
  isArray h := h.isArray
  isTuple h := h.isTuple
  render h := h.render

theorem classify (h : Alike model a b) : model.classify a = model.classify b :=
  (resembles model).classify h

variable [BEq ι]

theorem build (h : Alike model a b) (compileType : Open ι → τ → Logged Node) (active : Open ι)
    (category : Category) :
    model.build compileType active a category = model.build compileType active b category := by
  cases category with
  | stringLiteral | numberLiteral => simp only [TypeModel.build, h.literal]
  | booleanLiteral => simp only [TypeModel.build, (resembles model).isTrueLiteral h]
  | enum => simp only [TypeModel.build, (resembles model).enumValues h]
  | union => exact (resembles model).buildUnion h
  | array => simp only [TypeModel.build, h.element?]
  | object => simp only [TypeModel.build, h.identity, h.render, h.members]
  | tuple | intersection | unsupported => exact (resembles model).reject h _
  | string | number | boolean | null | undefined => rfl

theorem compileUnder (h : Alike model a b) (depth : Nat) (active : Open ι) :
    model.compileUnder depth active a = model.compileUnder depth active b := by
  cases depth with
  | zero => rfl
  | succ depth => simp only [TypeModel.compileUnder, TypeModel.compileStep, h.symbol, h.classify, h.build]

/-- Bounds on the nesting may differ, but they decide nothing. -/
theorem compile (h : Alike model a b) (ha : Ends model a) (hb : Ends model b) :
    model.compile a = model.compile b := by
  have hleft := ha.settled _ (Nat.le_max_left (model.depth a) (model.depth b))
  have hright := hb.settled _ (Nat.le_max_right (model.depth a) (model.depth b))
  have hnode : model.compileUnder (model.depth a) [] a = model.compileUnder (model.depth b) [] b := by
    rw [← hleft, h.compileUnder, hright]
  unfold TypeModel.compile
  rw [h.render, hnode]

end Alike

end TypeModel

/-! ## Stacks of wrappers -/

namespace Annotation

/-- An annotation with any number of wrappers around it. Metadata around a layer of metadata becomes
part of that layer, which stands around no `None`, since typing forms write that as its type. -/
inductive Wraps (t : Annotation) : Annotation → Prop where
  | self : Wraps t t
  | synonym (number : Nat) (name : String) {u : Annotation} (h : Wraps t u) :
      Wraps t (.synonym number name u)
  | newType (number : Nat) (name : String) {u : Annotation} (h : Wraps t u) :
      Wraps t (.newType number name u)
  | qualified {qualifier : Qualifier} (hqualifier : qualifier.isTransparent = true) {u : Annotation}
      (h : Wraps t u) : Wraps t (.qualified qualifier u)
  | annotated {metadata : List Metadata} (hplain : ∀ data ∈ metadata, data.documentation? = none)
      {u : Annotation} (h : Wraps t u) : Wraps t (.annotated u metadata)
  | joined {own metadata : List Metadata} (hplain : ∀ data ∈ metadata, data.documentation? = none)
      {inner : Annotation} (hinner : inner.isNoneValue = false) (h : Wraps t (.annotated inner own)) :
      Wraps t (.annotated inner (own ++ metadata))

namespace Wraps

variable {t u : Annotation}

/-- A qualifier takes what is a type already as its content. -/
theorem qualify {qualifier : Qualifier} (hqualifier : qualifier.isTransparent = true)
    (htype : u.asType = u) (h : Wraps t u) : Wraps t (u.qualify qualifier) := by
  unfold Annotation.qualify
  rw [htype, ite_self]
  exact h.qualified hqualifier

/-- Metadata takes what is a type already as its content, or joins the metadata that is there. -/
theorem annotatedWith {metadata : List Metadata}
    (hplain : ∀ data ∈ metadata, data.documentation? = none) (htype : u.asType = u)
    (hlayer : ∀ inner own, u = .annotated inner own → inner.isNoneValue = false) (h : Wraps t u) :
    Wraps t (u.annotatedWith metadata) := by
  unfold Annotation.annotatedWith
  rw [htype]
  split
  · rename_i inner own
    exact h.joined hplain (hlayer inner own rfl)
  · exact h.annotated hplain

theorem isNoneValue (h : Wraps t u) (ht : t.isNoneValue = false) : u.isNoneValue = false := by
  cases h with
  | self => exact ht
  | _ => rfl

theorem strip_eq (h : Wraps t u) (ht : t.isNoneValue = false) : u.strip = t.strip := by
  induction h with
  | self => rfl
  | synonym number name h ih | newType number name h ih | annotated hplain h ih =>
    simp only [strip, h.isNoneValue ht, ih]
    rfl
  | qualified hqualifier h ih =>
    simp only [strip, hqualifier, h.isNoneValue ht, ih]
    rfl
  | joined hplain hinner h ih =>
    simp only [strip, hinner] at ih ⊢
    exact ih

theorem findSome?_of_plain {metadata : List Metadata}
    (hplain : ∀ data ∈ metadata, data.documentation? = none) :
    metadata.findSome? Metadata.documentation? = none :=
  List.findSome?_eq_none_iff.mpr hplain

/-- Wrappers leave the documentation of the type to be found. -/
theorem outerDoc?_eq (h : Wraps t u) (ht : t.isNoneValue = false) : u.outerDoc? = t.outerDoc? := by
  induction h with
  | self => rfl
  | synonym number name h ih | newType number name h ih =>
    simp only [outerDoc?, h.isNoneValue ht, ih]
    rfl
  | qualified hqualifier h ih =>
    simp only [outerDoc?, hqualifier, h.isNoneValue ht, ih]
    rfl
  | annotated hplain h ih =>
    simp only [outerDoc?, findSome?_of_plain hplain, h.isNoneValue ht, ih]
    rfl
  | joined hplain hinner h ih =>
    rw [← ih]
    simp only [outerDoc?, List.findSome?_append, findSome?_of_plain hplain, Option.or_none]

end Wraps

end Annotation

namespace Module

variable {m : Module} {t u : Annotation}

theorem render_of_strip (h : u.strip = t.strip) : u.render = t.render := by
  unfold Annotation.render
  rw [h]

theorem literalValue_of_strip (h : u.strip = t.strip) : u.literalValue = t.literalValue := by
  unfold Annotation.literalValue
  rw [h, render_of_strip h]

section

variable [Environment]

/-- A model of annotations looks at what is in the wrappers, and at the documentation around it. -/
theorem alike_of_strip (hstrip : u.strip = t.strip) (hdoc : u.outerDoc? = t.outerDoc?) :
    TypeModel.Alike m.model u t where
  symbol := by
    change m.symbol? u = m.symbol? t
    unfold symbol? classSymbol?
    rw [hstrip, hdoc, render_of_strip hstrip]
  flags := flags_of_strip hstrip
  literal := congrArg (Except.map Value.toJson) (literalValue_of_strip hstrip)
  unionMembers := unionMembers_of_strip hstrip
  isArray := isArray_of_strip hstrip
  element? := by
    change u.element? = t.element?
    unfold Annotation.element?
    rw [hstrip]
  isTuple := isTuple_of_strip hstrip
  members := by
    change m.members u = m.members t
    unfold members
    rw [hstrip]
  render := render_of_strip hstrip
  identity := hstrip

/-- The compilation of every annotation of a module ends. -/
theorem ends (m : Module) (t : Annotation) : TypeModel.Ends m.model t :=
  TypeModel.ends_of_shorter fun _ _ _ ↦ steps_lt_nesting

/-- `None` has a schema, but no alias and no new type of it has one, whatever is around that. -/
theorem classify_of_around_none (m : Module) {number : Nat} {name : String} {t u : Annotation}
    (ht : t = .synonym number name Annotation.noneValue ∨
      t = .newType number name Annotation.noneValue) (h : Annotation.Wraps t u) :
    m.model.classify Annotation.noneValue = .ok .null ∧ m.model.classify u = .ok .unsupported := by
  refine ⟨rfl, ?_⟩
  rcases ht with rfl | rfl
  · rw [classify_of_strip (h.strip_eq rfl)]
    rfl
  · rw [classify_of_strip (h.strip_eq rfl)]
    rfl

/-- Wrappers change no answer about an annotation other than `None`, and so neither its category nor
its compilation: the node, the failure and the records are the same. -/
theorem compile_wraps (m : Module) {t u : Annotation} (h : Annotation.Wraps t u)
    (ht : t.isNoneValue = false) :
    TypeModel.Alike m.model u t ∧ u.literalValue = t.literalValue ∧
      m.model.classify u = m.model.classify t ∧ m.model.compile u = m.model.compile t := by
  have hstrip := h.strip_eq ht
  have halike : TypeModel.Alike m.model u t := alike_of_strip hstrip (h.outerDoc?_eq ht)
  exact ⟨halike, literalValue_of_strip hstrip, halike.classify, halike.compile (m.ends u) (m.ends t)⟩

end

attribute [local instance] Environment.plain

/-- A list of texts behind metadata, a new type, metadata and a qualifier. -/
def wrappedNames : Annotation :=
  let names : Annotation := .generic (.cls (.builtin "list")) [.cls (.builtin "str")]
  let newNames : Annotation := .newType 0 "Names" (names.annotatedWith [.plain (.int 1)])
  (newNames.annotatedWith [.plain (.str "meta")]).qualify .notRequired

/-- The wrapped list has the schema of the list. -/
theorem compile_wraps_names :
    Annotation.Wraps (.generic (.cls (.builtin "list")) [.cls (.builtin "str")]) wrappedNames ∧
      (Module.model ⟨[], [], 1⟩).classify wrappedNames = .ok .array ∧
      ((Module.model ⟨[], [], 1⟩).compile wrappedNames).outcome =
        .ok [("type", .str "array"), ("items", .obj [("type", .str "string")])] := by
  have hplain (v : Value) : ∀ data ∈ [Metadata.plain v], data.documentation? = none :=
    List.forall_mem_singleton.mpr rfl
  have hwraps : Annotation.Wraps (.generic (.cls (.builtin "list")) [.cls (.builtin "str")])
      wrappedNames := by
    apply Annotation.Wraps.qualify rfl rfl
    apply Annotation.Wraps.annotatedWith (hplain _) rfl
    · intro inner own hlayer
      cases hlayer
    apply Annotation.Wraps.newType
    apply Annotation.Wraps.annotatedWith (hplain _) rfl
    · intro inner own hlayer
      cases hlayer
    exact .self
  obtain ⟨-, -, hcategory, hcompile⟩ := compile_wraps ⟨[], [], 1⟩ hwraps rfl
  rw [hcategory, hcompile]
  exact ⟨hwraps, rfl, rfl⟩

/-! ## Wrappers of `None` -/

/-- A synonym of the absent value is not unwrapped. -/
theorem compile_around_none :
    Annotation.Wraps Annotation.noneValue (.synonym 0 "Nothing" Annotation.noneValue) ∧
      ((Module.model ⟨[], [], 1⟩).compile Annotation.noneValue).outcome =
        .ok [("type", .str "null")] ∧
      ((Module.model ⟨[], [], 1⟩).compile (.synonym 0 "Nothing" Annotation.noneValue)).outcome =
        .error (.ofError (.unsupportedType .unsupported "Nothing")) :=
  ⟨.synonym 0 "Nothing" .self, rfl, rfl⟩

end Module

end Schematic
