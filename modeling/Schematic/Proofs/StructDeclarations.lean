import Schematic.Proofs.Redeclaration

/-!
# Structs declared from their members

A struct without bases may be declared in four flavours from the same list of members: a typed
dictionary marks an optional member in its type, the other flavours give it a default. Whatever the
flavour, the class records the members in their order, and it has no bases but those that come with
the flavour.
-/

namespace Schematic

theorem Annotation.qualifiers_asType {t : Annotation} (h : t.qualifiers = []) :
    t.asType.qualifiers = [] := by
  cases t with
  | value v => cases v <;> simp only [asType] <;> first | rfl | (split <;> rfl)
  | _ => exact h

/-- A member of a struct, as it may be declared in every flavour. -/
structure MemberDecl where
  name : String
  type : Annotation
  /-- An optional member has a default, where the flavour has defaults. -/
  default : Option Value
  doc : Option String

namespace MemberDecl

variable (x : MemberDecl)

def typeIn (flavour : Flavour) : Annotation :=
  match flavour with
  | .typedDict _ => if x.default.isSome then x.type.qualify .notRequired else x.type
  | _ => x.type

def initialIn (flavour : Flavour) : Initial :=
  match flavour with
  | .typedDict _ => .none
  | _ => (x.default.map Initial.value).getD .none

/-- The annotated name of a member, and its documentation text after it. -/
def statements (flavour : Flavour) : List Statement :=
  .annotated x.name (x.typeIn flavour) (x.initialIn flavour) ::
    x.doc.toList.map fun text ↦ .constant (.str text)

theorem initialIn_eq {flavour : Flavour} (h : (flavour matches .typedDict _) = false) :
    x.initialIn flavour = (x.default.map Initial.value).getD .none := by
  cases flavour <;> first | rfl | cases h

end MemberDecl

/-- A struct without bases. -/
structure StructDecl where
  name : String
  doc : Option String
  members : List MemberDecl

namespace Flavour

/-- The flavours of structs; a typed dictionary requires the keys that are not said to be optional. -/
def isStruct : Flavour → Bool
  | plain | dataclass _ | typedDict true | model => true
  | _ => false

/-- The line of a struct without bases, after the struct itself. -/
def tail : Flavour → List ClassRef
  | typedDict _ => [.builtin "dict", .object]
  | model => [.model, .object]
  | _ => [.object]

end Flavour

namespace StructDecl

variable (s : StructDecl) {flavour : Flavour}

def declaration (flavour : Flavour) : Declaration where
  name := s.name
  flavour
  bases := []
  doc := s.doc
  body := s.members.flatMap fun x ↦ x.statements flavour
  source := .faithful

def known (x : MemberDecl) : String :=
  Declaration.mangled s.name x.name

def types : Dict Annotation :=
  s.members.map fun x ↦ (s.known x, x.type)

def optionalNames : List String :=
  (s.members.filter fun x ↦ x.default.isSome).map s.known

def docs : Dict String :=
  Dict.ofList (Statement.documented (s.declaration .plain).body)

/-- Members that a struct can have in every flavour: their names are distinct and are not those of
attributes of every class, and no qualifier around their types says whether they are optional. -/
structure Proper : Prop where
  nodup : (s.members.map s.known).Nodup
  fresh : ∀ x ∈ s.members, commonAttributes.contains (s.known x) = false
  unqualified : ∀ x ∈ s.members, x.type.qualifiers = []

/-! ## The body -/

/-- The body annotates the members and documents some. -/
theorem mem_body {statement : Statement} : statement ∈ (s.declaration flavour).body ↔
    ∃ x ∈ s.members, statement = .annotated x.name (x.typeIn flavour) (x.initialIn flavour) ∨
      ∃ text, x.doc = some text ∧ statement = .constant (.str text) := by
  unfold declaration MemberDecl.statements
  simp [eq_comm]

theorem sameOutline (flavour flavour' : Flavour) :
    (s.declaration flavour).SameOutline (s.declaration flavour') where
  name := rfl
  doc := rfl
  source := rfl
  body := by
    refine List.rel_flatMap (List.forall₂_same.mpr fun _ _ ↦ rfl) ?_
    rintro x _ rfl
    exact .cons (.annotated ..) (List.forall₂_same.mpr fun _ _ ↦ .refl _)

theorem documented_body (flavour : Flavour) :
    Dict.ofList (Statement.documented (s.declaration flavour).body) = s.docs :=
  congrArg Dict.ofList (Statement.documented_congr (s.sameOutline .plain flavour).body)

/-- The text of the struct is written in every flavour. -/
theorem writtenDoc_declaration (flavour : Flavour) : (s.declaration flavour).writtenDoc = s.doc := by
  unfold Declaration.writtenDoc declaration
  dsimp only
  split
  · rename_i hdoc
    exact hdoc.symm
  · rename_i hdoc hbody
    cases hmembers : s.members with
    | nil => simp [hmembers] at hbody
    | cons x rest => simp [hmembers, MemberDecl.statements] at hbody
  · rename_i hdoc _
    exact hdoc.symm

variable (hnodup : (s.members.map s.known).Nodup)

include hnodup

theorem ownAnnotations_declaration (flavour : Flavour) : (s.declaration flavour).ownAnnotations =
    s.members.map fun x ↦ (s.known x, x.typeIn flavour) := by
  refine (congrArg Dict.ofList ?_).trans (Dict.ofList_of_nodup (by rwa [List.map_map]))
  change (s.members.flatMap _).filterMap _ = _
  rw [List.filterMap_flatMap, ← List.flatMap_singleton' (s.members.map _), List.flatMap_map]
  refine List.flatMap_congr fun x _ ↦ ?_
  unfold MemberDecl.statements
  cases x.doc <;> rfl

theorem eq_of_known_eq {x y : MemberDecl} (hx : x ∈ s.members) (hy : y ∈ s.members)
    (h : s.known x = s.known y) : x = y :=
  List.inj_on_of_nodup_map hnodup hx hy h

/-- The right side that a member ends up with is its own one. -/
theorem initial?_declaration (flavour : Flavour) (hflavour : (flavour matches .typedDict _) = false)
    {x : MemberDecl} (hx : x ∈ s.members) :
    (s.declaration flavour).initial? (s.known x) = x.default.map Initial.value := by
  have hname (y : MemberDecl) : (s.declaration flavour).knownAs y.name = s.known y := rfl
  unfold Declaration.initial?
  cases hdefault : x.default with
  | none =>
    rw [Option.map_none, List.findSome?_eq_none_iff]
    intro statement hstatement
    obtain ⟨y, hy, rfl | ⟨text, -, rfl⟩⟩ := s.mem_body.mp (List.mem_reverse.mp hstatement)
    · by_cases hknown : s.known y = s.known x
      · rw [s.eq_of_known_eq hnodup hy hx hknown, x.initialIn_eq hflavour, hdefault]
        rfl
      · cases y.initialIn flavour <;> simp [hname, hknown]
    · rfl
  | some value =>
    have hinitial : x.initialIn flavour = .value value := by
      rw [x.initialIn_eq hflavour, hdefault]
      rfl
    cases hresult : (s.declaration flavour).body.reverse.findSome? _ with
    | none =>
      rw [List.findSome?_eq_none_iff] at hresult
      have hnone := hresult _ (List.mem_reverse.mpr (s.mem_body.mpr ⟨x, hx, .inl rfl⟩))
      simp [hinitial, hname] at hnone
    | some initial =>
      obtain ⟨statement, hstatement, hfound⟩ := List.exists_of_findSome?_eq_some hresult
      obtain ⟨y, hy, rfl | ⟨text, -, rfl⟩⟩ := s.mem_body.mp (List.mem_reverse.mp hstatement)
      · by_cases hknown : s.known y = s.known x
        · rw [s.eq_of_known_eq hnodup hy hx hknown, hinitial] at hfound
          simpa [hname, eq_comm] using hfound
        · cases hother : y.initialIn flavour <;> simp [hother, hname, hknown] at hfound
      · cases hfound

theorem contains_optionalNames {x : MemberDecl} (hx : x ∈ s.members) :
    s.optionalNames.contains (s.known x) = x.default.isSome := by
  rw [Bool.eq_iff_iff, List.contains_iff_mem, optionalNames, List.mem_map]
  constructor
  · rintro ⟨y, hy, hknown⟩
    obtain ⟨hy, hdefault⟩ := List.mem_filter.mp hy
    rwa [← s.eq_of_known_eq hnodup hy hx hknown]
  · exact fun hdefault ↦ ⟨x, List.mem_filter.mpr ⟨hx, hdefault⟩, rfl⟩

/-- A class of no particular kind binds the names of the members that have a default. -/
theorem contains_ownAttributes {x : MemberDecl} (hx : x ∈ s.members) :
    (s.declaration .plain).ownAttributes.contains (s.known x) = x.default.isSome := by
  have hnames : (s.declaration .plain).ownAttributes = s.optionalNames := by
    unfold Declaration.ownAttributes optionalNames
    change ((s.members.flatMap _).flatMap _).map _ ++ [] = _
    rw [List.append_nil, List.flatMap_assoc, List.map_flatMap]
    generalize s.members = members
    induction members with
    | nil => rfl
    | cons x rest ih =>
      rw [List.flatMap_cons, ih, List.filter_cons]
      cases hdefault : x.default <;> cases hdoc : x.doc <;>
        simp [MemberDecl.statements, MemberDecl.initialIn, hdefault, hdoc, Declaration.statementNames,
          Declaration.bindsAnnotated, known, Declaration.knownAs, declaration]
  rw [hnames]
  exact s.contains_optionalNames hnodup hx

/-- What a typed dictionary records as optional are the optional members, if no other qualifier
stands around their types. -/
theorem contains_optionalKeys (hunqualified : ∀ x ∈ s.members, x.type.qualifiers = [])
    {x : MemberDecl} (hx : x ∈ s.members) :
    (((s.declaration (.typedDict true)).ownAnnotations.filter fun entry ↦
        Module.isOptionalKey true entry.2).map Prod.fst).contains (s.known x) = x.default.isSome := by
  have hkey {y : MemberDecl} (hy : y ∈ s.members) :
      Module.isOptionalKey true (y.typeIn (.typedDict true)) = y.default.isSome := by
    have hbare := hunqualified y hy
    unfold MemberDecl.typeIn
    dsimp only
    split
    · rename_i hdefault
      have hinner := Annotation.qualifiers_asType hbare
      simp [Module.isOptionalKey, Annotation.qualify, Annotation.qualifiers, Qualifier.isTransparent,
        hinner, hdefault]
    · rename_i hdefault
      simp [Module.isOptionalKey, hbare, hdefault]
  have hnames : ((s.declaration (.typedDict true)).ownAnnotations.filter fun entry ↦
      Module.isOptionalKey true entry.2).map Prod.fst = s.optionalNames := by
    rw [s.ownAnnotations_declaration hnodup, List.filter_map, List.map_map]
    exact congrArg (List.map s.known) (List.filter_congr fun y hy ↦ hkey hy)
  rw [hnames]
  exact s.contains_optionalNames hnodup hx

end StructDecl

namespace MemberDecl

/-- The type that a class records for a member: the keys of a typed dictionary are types. -/
def recordedIn (x : MemberDecl) (flavour : Flavour) : Annotation :=
  match flavour with
  | .typedDict _ => (x.typeIn flavour).asType
  | _ => x.typeIn flavour

end MemberDecl

namespace Module

/-! ## The class -/

section

variable (m : Module) (s : StructDecl)

/-- No base makes another flavour of a struct without bases. -/
theorem flavour_completed (flavour : Flavour) :
    (m.completed (s.declaration flavour)).flavour = flavour := by
  cases flavour <;> rfl

/-- A struct comes before the classes of its flavour. -/
theorem linearFor_completed {flavour : Flavour} (hflavour : flavour.isStruct = true) (own : ClassRef) :
    m.linearFor own (m.completed (s.declaration flavour)) = .ok (own :: flavour.tail) := by
  cases flavour <;> first | rfl | cases hflavour

/-- The root class has no attributes but those of every class. -/
theorem inheritsAttribute_object [ModelBase] {name : String}
    (hfresh : commonAttributes.contains name = false) : m.inheritsAttribute [.object] name = false := by
  unfold inheritsAttribute
  rw [hfresh, Bool.false_or]
  rfl

/-- No class that comes with a flavour has keys or annotations. -/
theorem recordedAnnotations_completed (hnodup : (s.members.map s.known).Nodup) (flavour : Flavour) :
    m.recordedAnnotations (m.completed (s.declaration flavour)) =
      s.members.map fun x ↦ (s.known x, x.recordedIn flavour) := by
  have hown : (m.completed (s.declaration flavour)).ownAnnotations =
      s.members.map fun x ↦ (s.known x, x.typeIn flavour) :=
    s.ownAnnotations_declaration hnodup flavour
  unfold recordedAnnotations
  rw [m.flavour_completed s flavour]
  cases flavour with
  | typedDict total =>
    change Dict.update (Dict.ofList []) _ = _
    rw [hown, List.map_map]
    exact Dict.ofList_of_nodup (by rwa [List.map_map])
  | _ => exact hown

end

end Module

end Schematic
