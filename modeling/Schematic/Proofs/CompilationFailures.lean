import Schematic.Proofs.ClassDescent
import Schematic.Proofs.Enumerations
import Schematic.Proofs.EvaluatedMembers
import Schematic.Proofs.TagTexts
import Schematic.Reference.Environment

/-!
# Failures of compilations

An annotation that has no schema is refused with a compilation error, but for four other ways in which
its compilation can end. An annotation of a class below it fails to be evaluated in a way that is not
reported for the class. Something that its flags are asked of cannot be looked up in a hash table. A
length or a count in its documentation has too many digits. Or a text in its documentation is nested too
deep for the stack. Nothing else stops a compilation: not the symbols, not the values of literals, and not
the bound on the nesting.
-/

namespace Schematic.Module

open Relation (ReflTransGen)

variable {m n : Module} {t root : Annotation} {failure : Failure}

/-- A search that fails does so at one of the elements. -/
theorem exists_of_anyM_eq_error {α : Type} {p : α → Except Failure Bool} {xs : List α}
    (h : xs.anyM p = .error failure) : ∃ x ∈ xs, p x = .error failure := by
  induction xs with
  | nil => cases h
  | cons x rest ih =>
    rcases Outcome.bind_eq_error_iff.mp h with hfirst | ⟨holds, -, h⟩
    · exact ⟨x, List.mem_cons_self, hfirst⟩
    · cases holds with
      | true => cases h
      | false =>
        obtain ⟨y, hy, hfailure⟩ := ih h
        exact ⟨y, List.mem_cons_of_mem _ hy, hfailure⟩

/-! ## Questions that fail -/

/-- An annotation that cannot be looked up in a hash table. -/
def Unhashable (t : Annotation) (failure : Failure) : Prop :=
  ∃ kind, t.strip.unhashable? = some kind ∧ failure = .unhashable kind

theorem unhashable_of_isArray (h : t.isArray = .error failure) : Unhashable t failure := by
  unfold Annotation.isArray at h
  split at h
  · cases h
  · rename_i kind hkind
    exact ⟨kind, hkind, (Except.error.inj h).symm⟩

section

variable [Environment]

theorem unhashable_of_flags (h : m.flags t = .error failure) : Unhashable t failure := by
  unfold flags at h
  split at h
  case h_7 =>
    rcases Outcome.bind_eq_error_iff.mp h with harray | ⟨isArray, -, h⟩
    · obtain ⟨kind, hkind, hfailure⟩ := unhashable_of_isArray harray
      exact ⟨kind, Annotation.strip_strip t ▸ hkind, hfailure⟩
    · split at h <;> cases h
  all_goals cases h

/-- An annotation, or a member of it as a union, that cannot be looked up. -/
def AsksUnhashable (m : Module) (t : Annotation) (failure : Failure) : Prop :=
  ∃ part, (part = t ∨ part ∈ m.unionMembers t) ∧ Unhashable part failure

/-- The values of types fail at one of these that cannot be looked up. -/
theorem exists_unhashable_of_textAndNumberValues {types : List Annotation}
    (h : m.model.textAndNumberValues types = .error failure) :
    ∃ part ∈ types, Unhashable part failure := by
  induction types with
  | nil => cases h
  | cons first rest ih =>
    have hrest (h : m.model.textAndNumberValues rest = .error failure) :
        ∃ part ∈ first :: rest, Unhashable part failure := by
      obtain ⟨part, hpart, hfailure⟩ := ih h
      exact ⟨part, List.mem_cons_of_mem _ hpart, hfailure⟩
    rcases Outcome.bind_eq_error_iff.mp h with hflags | ⟨flags, hflags, h⟩
    · exact ⟨first, List.mem_cons_self, unhashable_of_flags hflags⟩
    · split at h
      · rename_i hliteral
        obtain ⟨value, hvalue⟩ := exists_literal hflags hliteral
        rw [hvalue, Outcome.ok_bind] at h
        rcases Outcome.bind_eq_error_iff.mp h with h | ⟨values, -, h⟩
        · exact hrest h
        · cases h
      · exact hrest h

theorem exists_unhashable_of_literalValues {types : List Annotation}
    (h : m.model.literalValues types = .error failure) : ∃ part ∈ types, Unhashable part failure := by
  induction types with
  | nil => cases h
  | cons first rest ih =>
    have hrest {value : Json}
        (h : (m.model.literalValues rest >>= fun values ↦ pure (values.map (value :: ·))) =
          .error failure) : ∃ part ∈ first :: rest, Unhashable part failure := by
      rcases Outcome.bind_eq_error_iff.mp h with h | ⟨values, -, h⟩
      · obtain ⟨part, hpart, hfailure⟩ := ih h
        exact ⟨part, List.mem_cons_of_mem _ hpart, hfailure⟩
      · cases h
    rcases Outcome.bind_eq_error_iff.mp h with hflags | ⟨flags, hflags, h⟩
    · exact ⟨first, List.mem_cons_self, unhashable_of_flags hflags⟩
    split at h
    · cases h
    rename_i hliteral
    dsimp only at h
    split at h
    · exact hrest h
    · rename_i hboolean
      rw [Bool.not_eq_true', Bool.not_eq_false] at hliteral
      have htext : flags.isTextOrNumber = true :=
        (Bool.or_eq_true_iff.mp hliteral).resolve_right hboolean
      obtain ⟨value, hvalue⟩ := exists_literal hflags htext
      rw [hvalue, Outcome.ok_bind] at h
      exact hrest h

theorem asksUnhashable_of_enumValues (h : m.model.enumValues t = .error failure) :
    m.AsksUnhashable t failure := by
  rcases Outcome.bind_eq_error_iff.mp h with hflags | ⟨flags, hflags, h⟩
  · exact ⟨t, .inl rfl, unhashable_of_flags hflags⟩
  · split at h
    · obtain ⟨part, hpart, hfailure⟩ := exists_unhashable_of_textAndNumberValues h
      exact ⟨part, .inr hpart, hfailure⟩
    · cases h

/-- Classification fails only where an annotation, or a member of it, cannot be looked up. -/
theorem asksUnhashable_of_classify (h : m.model.classify t = .error failure) :
    m.AsksUnhashable t failure := by
  rcases Outcome.bind_eq_error_iff.mp h with hflags | ⟨flags, hflags, h⟩
  · exact ⟨t, .inl rfl, unhashable_of_flags hflags⟩
  have hshape (values : List Json)
      (h : (if !values.isEmpty then pure .enum
        else if flags.contains .union then pure .union
        else m.model.classifyShape flags t) = Except.error failure) : m.AsksUnhashable t failure := by
    split at h
    · cases h
    split at h
    · cases h
    rcases Outcome.bind_eq_error_iff.mp h with harray | ⟨isArray, -, h⟩
    · exact ⟨t, .inl rfl, unhashable_of_isArray harray⟩
    · repeat' split at h
      all_goals cases h
  split at h
  · cases h
  dsimp only at h
  split at h
  · rcases Outcome.bind_eq_error_iff.mp h with hvalues | ⟨values, -, h⟩
    · exact asksUnhashable_of_enumValues hvalues
    · exact hshape values h
  · exact hshape [] h

theorem asksUnhashable_of_isOptional {entry : Member Annotation}
    (h : m.model.isOptional entry = .error failure) : m.AsksUnhashable entry.type failure := by
  unfold TypeModel.isOptional at h
  split at h
  · cases h
  rcases Outcome.bind_eq_error_iff.mp h with hflags | ⟨flags, hflags, h⟩
  · exact ⟨_, .inl rfl, unhashable_of_flags hflags⟩
  split at h
  · cases h
  split at h
  · obtain ⟨part, hpart, hfailure⟩ := exists_of_anyM_eq_error h
    rcases Outcome.bind_eq_error_iff.mp hfailure with hflags | ⟨flags, -, hfailure⟩
    · exact ⟨part, .inr hpart, unhashable_of_flags hflags⟩
    · cases hfailure
  · cases h

/-- What is classified as a literal has a value. -/
theorem exists_literal_of_classify {category : Category} (h : m.model.classify t = .ok category)
    (hcategory : category ∈ [.stringLiteral, .numberLiteral]) : ∃ value, m.model.literal t = .ok value := by
  obtain ⟨flags, hflags, htext⟩ := TypeModel.isTextOrNumber_of_classify h hcategory
  exact exists_literal hflags htext

/-! ## Members that fail -/

/-- The members of a class have symbols that can be read. -/
theorem exists_tagTexts_of_mem {members : List (Member Annotation)} {entry : Member Annotation}
    (hmembers : (m.members t).outcome = .ok members) (hentry : entry ∈ members) :
    ∃ tags, Symbol.tagTextsOf entry.symbol = .ok tags := by
  unfold Module.members at hmembers
  split at hmembers
  · obtain ⟨-, name, t, optional, doc, -, rfl, -⟩ := exists_eq_member hmembers hentry
    rw [member_symbol]
    exact Docstring.tagTextsOf_parseOption _ _
  · cases hmembers
    cases hentry

/-- Only annotations keep the members of a class from being listed. -/
theorem exists_annotationFails_of_members (h : (m.members t).outcome = .error failure) :
    ∃ ref cause, t.strip = .cls ref ∧ m.isModel ref = false ∧ m.AnnotationFails ref cause ∧
      failure = unresolved ref cause := by
  unfold Module.members at h
  split at h
  · rename_i ref hshape
    unfold classMembers at h
    split at h
    · cases h
    split at h
    · rcases Logged.bind_eq_error_iff.mp h with hdocs | ⟨docs, -, h⟩
      · cases hdocs
      · cases h
    · rename_i hmodel
      rcases Logged.bind_eq_error_iff.mp h with hhints | ⟨hints, -, h⟩
      · rw [Logged.outcome_lift] at hhints
        cases hresult : m.hints ref with
        | ok hints =>
          rw [hresult] at hhints
          cases hhints
        | error cause =>
          rw [hresult] at hhints
          exact ⟨ref, cause, hshape, by simpa using hmodel, annotationFails_of_hints hresult,
            (Except.error.inj hhints).symm⟩
      · rcases Logged.bind_eq_error_iff.mp h with hdocs | ⟨docs, -, h⟩
        · cases hdocs
        · repeat' split at h
          all_goals cases h
  · cases h

/-! ## Compilations that fail -/

/-- The annotations whose flags a compilation may ask for: those below a root, the types of the members
of structs below it, and the members of these as unions. -/
inductive Asked (m : Module) (root : Annotation) : Annotation → Prop where
  | type {t : Annotation} (h : ReflTransGen m.model.Successor root t) : Asked m root t
  | member {t : Annotation} {members : List (Member Annotation)} {entry : Member Annotation}
      (h : ReflTransGen m.model.Successor root t) (hmembers : (m.members t).outcome = .ok members)
      (hentry : entry ∈ members) : Asked m root entry.type
  | part {t part : Annotation} (h : Asked m root t) (hpart : part ∈ m.unionMembers t) : Asked m root part

section

variable [Stack]

/-- How the compilation of an annotation fails. -/
inductive CompileFails (m : Module) (root : Annotation) : Failure → Prop where
  | compilation {error : SchemaError} {details : String} (h : error.isCompilationError = true) :
      CompileFails m root (.schema error details)
  /-- An annotation of a class cannot be evaluated, which is not reported for the class. -/
  | escaped {t : Annotation} {ref : ClassRef} {failure : Failure}
      (h : ReflTransGen m.model.Successor root t) (hshape : t.strip = .cls ref)
      (hmodel : m.isModel ref = false) (hfailure : m.AnnotationFails ref failure)
      (hescaped : failure.isReported = false) : CompileFails m root failure
  | unhashable {t : Annotation} {kind : String} (h : m.Asked root t)
      (hkind : t.strip.unhashable? = some kind) : CompileFails m root (.unhashable kind)
  | overlong (h : m.model.DocumentsOverlong root) : CompileFails m root .overlongInteger
  | exhausted (h : m.model.DocumentsDeep root) : CompileFails m root .exhausted

/-- A look-up that fails below a root is one way to fail. -/
theorem AsksUnhashable.compileFails (h : m.AsksUnhashable t failure) (ht : m.Asked root t) :
    m.CompileFails root failure := by
  obtain ⟨part, hpart, kind, hkind, rfl⟩ := h
  rcases hpart with rfl | hpart
  · exact .unhashable ht hkind
  · exact .unhashable (.part ht hpart) hkind

/-- Constraints fail for the tags of a type below a root. -/
theorem compileFails_of_applied {symbol : Option Symbol} {tags : Dict String} {node : Node}
    {gate : Constraint.Gate} {description : Option String} (hsymbol : m.model.Documents root symbol)
    (htags : Symbol.tagTextsOf symbol = .ok tags)
    (hgate : Constraint.gate (Dict.get? "type" node) = .ok gate)
    (h : (Constraint.applied node tags description).outcome = .error failure) :
    m.CompileFails root failure := by
  obtain ⟨rfl, tag, text, htext, hlong⟩ := Constraint.exists_overlong hgate h
  exact .overlong ⟨tag, hlong.mem, text, ⟨symbol, tags, hsymbol, htags, htext⟩, hlong.isOverlong⟩

/-- A struct whose members cannot be told is another way. -/
theorem compileFails_of_members (ht : ReflTransGen m.model.Successor root t)
    (h : (m.members t).outcome = .error failure) : m.CompileFails root failure := by
  obtain ⟨ref, cause, hshape, hmodel, hcause, rfl⟩ := exists_annotationFails_of_members h
  cases hreported : cause.isReported with
  | true =>
    rw [unresolved_of_isReported hreported]
    exact .compilation rfl
  | false =>
    rw [unresolved_of_not_isReported hreported]
    exact .escaped ht hshape hmodel hcause hreported

/-- The failures of members that none of their types is to blame for. -/
theorem compileFails_of_memberFailed {members : List (Member Annotation)} {entry : Member Annotation}
    {typeName : String} (ht : ReflTransGen m.model.Successor root t)
    (hobject : m.model.classify t = .ok .object) (hmembers : (m.members t).outcome = .ok members)
    (hentry : entry ∈ members)
    (h : TypeModel.MemberFailed m.model
      (fun _ node ↦ ∃ gate, Constraint.gate (Dict.get? "type" node) = .ok gate) (fun _ _ ↦ False)
      typeName entry failure) : m.CompileFails root failure := by
  cases h with
  | tags htags =>
    obtain ⟨tags, hread⟩ := exists_tagTexts_of_mem hmembers hentry
    cases hread.symm.trans htags
  | optional hoptional =>
    exact (asksUnhashable_of_isOptional hoptional).compileFails (.member ht hmembers hentry)
  | conflict hignored hoptional => exact .compilation rfl
  | type hignored hfailure => exact hfailure.elim
  | pass hignored htags hnode hfailure =>
    obtain ⟨gate, hgate⟩ := hnode
    exact compileFails_of_applied (.member ht hobject hmembers hentry hignored) htags hgate hfailure

/-- The failures at an annotation that none of its parts is to blame for. -/
theorem compileFails_of_failsAt {frames : List Annotation} (ht : ReflTransGen m.model.Successor root t)
    (h : TypeModel.FailsAt m.model frames t failure) : m.CompileFails root failure := by
  cases h with
  | tags htags =>
    obtain ⟨tags, hread⟩ := m.exists_tagTexts t
    cases hread.symm.trans htags
  | category hcategory => exact (asksUnhashable_of_classify hcategory).compileFails (.type ht)
  | pass htags hgate hfailure => exact compileFails_of_applied (.type ht) htags hgate hfailure
  | build hcategory hbuild =>
    cases hbuild with
    | literal hliteral hfailure =>
      obtain ⟨value, hvalue⟩ := exists_literal_of_classify hcategory hliteral
      cases hvalue.symm.trans hfailure
    | enumValues hfailure => exact (asksUnhashable_of_enumValues hfailure).compileFails (.type ht)
    | unionValues hfailure =>
      obtain ⟨part, hpart, hunhashable⟩ := exists_unhashable_of_literalValues hfailure
      exact AsksUnhashable.compileFails ⟨part, .inr hpart, hunhashable⟩ (.type ht)
    | element helement hfailure => exact hfailure.elim
    | members hfailure => exact compileFails_of_members ht hfailure
    | member hopen hmembers hentry hfailure =>
      exact compileFails_of_memberFailed ht hcategory hmembers hentry hfailure
    | complexUnion | reentered | tuple | intersection | unsupported => exact .compilation rfl

/-- Every failure of a compilation is one of the listed ones. -/
theorem compileFails_of_compile (h : (m.model.compile root).outcome = .error failure) :
    m.CompileFails root failure := by
  rcases TypeModel.within_compile m.model root with hfree | ⟨hexhausted, hdeep⟩
  swap
  · obtain rfl := Except.error.inj (h.symm.trans hexhausted)
    exact .exhausted hdeep
  obtain ⟨steps, frames, t, hreached, hcause⟩ := TypeModel.exists_failsAt_of_compile (hfree ▸ h)
  -- No annotation below the root is as deep as the bound on the nesting.
  rcases hcause with ⟨rfl, -⟩ | hfails
  · exact absurd (steps_lt_nesting hreached) (Nat.lt_irrefl _)
  · exact compileFails_of_failsAt hreached.successors hfails

/-- A class that is no model reports all its members with their annotations evaluated, or fails at one of
the annotations. Only some failures are reported for the class; the others escape, and a compilation that
gets to such a class ends with them. Apart from that, a compilation fails with a compilation error, at
something that cannot be looked up, at a length or a count of too many digits, or at a text that nests more
containers than there is room for. -/
theorem failures_of_annotations (hn : n.Built) :
    (∀ (t : Annotation) (number : Nat) (qualname : String) (family : Family),
      t.strip = .cls (.declared number qualname family) →
      n.isModel (.declared number qualname family) = false →
      n.MembersOutcome (.declared number qualname family) (n.members t).outcome) ∧
    ∀ (t : Annotation) (failure : Failure), (n.model.compile t).outcome = .error failure →
      n.CompileFails t failure := by
  refine ⟨fun t number qualname family hshape hmodel ↦ ?_, fun t failure ↦ compileFails_of_compile⟩
  have hmembers : n.members t = n.classMembers (.declared number qualname family) := by
    rw [Module.members, hshape]
  exact hmembers ▸ hn.membersOutcome hmodel

end

end

/-! ## Annotations that are texts -/

open Annotation

attribute [local instance] Environment.plain

def textClass (flavour : Flavour) (text : String) : Declaration where
  name := "T"
  flavour := flavour
  bases := []
  doc := none
  body := [.annotated "x" (.value (.str text)) .none]
  source := .faithful

def withTextClass (flavour : Flavour) (text : String) : Module :=
  Module.empty.declaring "T" (textClass flavour text)

theorem built_withTextClass (flavour : Flavour) (text : String) : (withTextClass flavour text).Built :=
  .declaring .empty fun _ hbase ↦ by cases hbase

/-- A text in a text is evaluated, and an unknown name is reported for the class. -/
theorem failures_of_annotations_texts :
    (withTextClass (.dataclass false) "list['int']").Built ∧
    (∃ members, ((withTextClass (.dataclass false) "list['int']").members
        (.cls (.declared 0 "T" .ordinary))).outcome = .ok members ∧
      (withTextClass (.dataclass false) "list['int']").ReportsAll (.declared 0 "T" .ordinary) members ∧
      (members.map Member.type).all
        (generic (.cls (.builtin "list")) [.cls (.builtin "int")]).same = true) ∧
    (withTextClass (.typedDict true) "Unknown").Built ∧
    ((withTextClass (.typedDict true) "Unknown").model.compile
        (.cls (.declared 0 "T" .typedDict))).outcome =
      .error (.schema (.unsupportedType .unsupported "T")
        "Member annotations of T unresolved: name 'Unknown' is not defined") ∧
    (withTextClass (.typedDict true) "Unknown").CompileFails (.cls (.declared 0 "T" .typedDict))
      (.schema (.unsupportedType .unsupported "T")
        "Member annotations of T unresolved: name 'Unknown' is not defined") := by
  have hlist := built_withTextClass (.dataclass false) "list['int']"
  have hunknown := built_withTextClass (.typedDict true) "Unknown"
  have hmembers := (failures_of_annotations hlist).1 (.cls (.declared 0 "T" .ordinary)) 0 "T" .ordinary
    rfl (by decide +kernel)
  have hreported : ((withTextClass (.dataclass false) "list['int']").members
      (.cls (.declared 0 "T" .ordinary))).outcome.toOption.any (fun members ↦
        (members.map Member.type).all
          (generic (.cls (.builtin "list")) [.cls (.builtin "int")]).same) = true := by
    decide +kernel
  have hfailure : ((withTextClass (.typedDict true) "Unknown").model.compile
      (.cls (.declared 0 "T" .typedDict))).outcome =
        .error (.schema (.unsupportedType .unsupported "T")
          "Member annotations of T unresolved: name 'Unknown' is not defined") :=
    Outcome.eq_error_of_failure? (by decide +kernel)
  refine ⟨hlist, ?_, hunknown, hfailure, (failures_of_annotations hunknown).2 _ _ hfailure⟩
  obtain ⟨members, hok, htypes⟩ := (Option.any_eq_true _ _).mp hreported
  replace hok := Outcome.eq_ok_of_toOption hok
  rw [hok] at hmembers
  cases hmembers with
  | all hall => exact ⟨members, hok, hall, htypes⟩

/-- An unknown attribute of a known object and a text that is no expression are not reported for the
class. -/
theorem failures_of_annotations_escaped :
    ((withTextClass (.typedDict true) "str.nope").members (.cls (.declared 0 "T" .typedDict))).outcome =
      .error (.noAttribute "type object 'str'" "nope") ∧
    ((withTextClass (.typedDict true) "str.nope").model.compile
        (.cls (.declared 0 "T" .typedDict))).outcome =
      .error (.noAttribute "type object 'str'" "nope") ∧
    ((withTextClass (.dataclass false) "list[").members (.cls (.declared 0 "T" .ordinary))).outcome =
      .error .malformedExpression := by
  refine ⟨Outcome.eq_error_of_failure? ?_, Outcome.eq_error_of_failure? ?_,
    Outcome.eq_error_of_failure? ?_⟩ <;> decide +kernel

end Schematic.Module
