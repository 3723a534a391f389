import Schematic.Model.Scripted
import Schematic.Proofs.Classification
import Schematic.Proofs.StackLimits

/-!
# Failures and the texts of tags

The texts of tags have no part in whether a type can be compiled. A model is compared with the one
that has the same tags without their texts: a type fails under both with the same failure, or has a
schema under both, unless there is an integer too long to convert in a length or a count below it, or
a default or an extension that is nested too deep for the stack. The induction is on the bound of the
nesting, for a stack without a limit; a limited one differs from it only where it is exhausted.
-/

namespace Schematic

/-- The symbol with the names of its tags only. -/
def Symbol.withoutTexts (symbol : Symbol) : Symbol :=
  { symbol with tags := symbol.tags.map fun tag ↦ { tag with text := [] } }

def Member.withoutTexts {τ : Type} (member : Member τ) : Member τ :=
  { member with symbol := member.symbol.map Symbol.withoutTexts }

namespace TypeModel

variable {τ ι : Type}

/-- The model in which no tag has a text. -/
def withoutTexts (model : TypeModel τ ι) : TypeModel τ ι :=
  { model with
    symbol := fun type ↦ (model.symbol type).map Symbol.withoutTexts
    members := fun type ↦ do
      let members ← model.members type
      pure (members.map Member.withoutTexts) }

/-- The texts of tags do not shape types. -/
theorem sameShape_withoutTexts (model : TypeModel τ ι) : SameShape model model.withoutTexts := by
  constructor <;> rfl

end TypeModel

/-! ## Results up to values -/

/-- Two results are values or the same failure; or the first one is an integer too long to convert,
for a cause. -/
inductive Outcome.Alike {α β : Type} (cause : Prop) : Except Failure α → Except Failure β → Prop where
  | ok (a : α) (b : β) : Alike cause (.ok a) (.ok b)
  | error (failure : Failure) : Alike cause (.error failure) (.error failure)
  | overlong (h : cause) (other : Except Failure β) : Alike cause (.error .overlongInteger) other

namespace Outcome.Alike

variable {α β γ δ : Type} {cause : Prop}

theorem refl (result : Except Failure α) : Alike cause result result := by
  cases result with
  | ok value => exact .ok value value
  | error failure => exact .error failure

theorem bind {first : Except Failure α} {first' : Except Failure β} {next : α → Except Failure γ}
    {next' : β → Except Failure δ} (h : Alike cause first first')
    (hnext : ∀ a b, first = .ok a → first' = .ok b → Alike cause (next a) (next' b)) :
    Alike cause (first >>= next) (first' >>= next') := by
  cases h with
  | ok a b => exact hnext a b rfl rfl
  | error failure => exact .error failure
  | overlong h other => exact .overlong h _

theorem mapM {f : α → Logged γ} {f' : α → Logged δ} {change : α → α} {xs : List α}
    (h : ∀ x ∈ xs, Alike cause (f x).outcome (f' (change x)).outcome) :
    Alike cause (xs.mapM f).outcome ((xs.map change).mapM f').outcome := by
  induction xs with
  | nil => exact .ok [] []
  | cons x xs ih =>
    obtain ⟨hfirst, hrest⟩ := List.forall_mem_cons.mp h
    rw [List.map_cons, List.mapM_cons, List.mapM_cons]
    simp only [Logged.outcome_bind, Logged.outcome_pure]
    exact hfirst.bind fun y y' _ _ ↦ (ih hrest).bind fun ys ys' _ _ ↦ .ok _ _

/-- Alike results fail alike, unless there is cause for the first one to fail. -/
theorem failures {first : Except Failure α} {second : Except Failure β} (h : Alike cause first second) :
    (∀ failure, first = .error failure ↔ second = .error failure) ∨
      first = .error .overlongInteger ∧ cause := by
  cases h with
  | ok a b => simp
  | error failure => simp
  | overlong h other => exact .inr ⟨rfl, h⟩

end Outcome.Alike

open Outcome (Alike)

/-! ## Tags without texts -/

theorem Symbol.hasTag_withoutTexts (name : String) (symbol : Option Symbol) :
    hasTag name (symbol.map withoutTexts) = hasTag name symbol := by
  cases symbol with
  | none => rfl
  | some symbol => simp [hasTag, withoutTexts, Function.comp_def]

/-- Whether tags can be read does not depend on their texts. -/
theorem Symbol.alike_tagTextsOf (cause : Prop) (symbol : Option Symbol) :
    Alike cause (tagTextsOf symbol) (tagTextsOf (symbol.map withoutTexts)) := by
  cases symbol with
  | none => exact .ok [] []
  | some symbol =>
    have hnamed : symbol.withoutTexts.tags.all (·.name ≠ "") = symbol.tags.all (·.name ≠ "") := by
      simp [withoutTexts, Function.comp_def]
    rw [Option.map_some, tagTextsOf, tagTextsOf, tagTexts, tagTexts, entries, entries, hnamed]
    split
    · exact .ok _ _
    · exact .error _

theorem Symbol.text_withoutTexts {symbol : Option Symbol} {tags : Dict String} {name text : String}
    (h : tagTextsOf (symbol.map withoutTexts) = .ok tags) (hmem : (name, text) ∈ tags) : text = "" := by
  obtain ⟨s, hs, tag, htag, -, htext⟩ := exists_tag_of_mem h hmem
  obtain ⟨symbol', -, rfl⟩ := Option.map_eq_some_iff.mp hs
  obtain ⟨tag', -, rfl⟩ := List.mem_map.mp htag
  exact htext.symm

/-- Where no tag has a text, there is no integer to convert. -/
theorem Symbol.convertible_withoutTexts {symbol : Option Symbol} {tags : Dict String}
    (h : tagTextsOf (symbol.map withoutTexts) = .ok tags) : Constraint.Convertible tags := by
  rintro ⟨name, text⟩ hmem digits hdigits
  rw [text_withoutTexts h hmem] at hdigits
  cases hdigits

/-- A pass with tags without texts succeeds, and any other one fails at nothing but an integer that is
too long to convert. -/
theorem Constraint.alike_applied {cause : Prop} {node node' : Node} {gate gate' : Gate}
    (hgate : Constraint.gate (Dict.get? "type" node) = .ok gate)
    (hgate' : Constraint.gate (Dict.get? "type" node') = .ok gate') {tags tags' : Dict String}
    (htags' : Convertible tags')
    (hcause : ∀ name ∈ lengthTags ++ countTags, ∀ text, Dict.get? name tags = some text →
      IsOverlong text → cause) (description description' : Option String) :
    Alike cause (applied node tags description).outcome
      (applied node' tags' description').outcome := by
  rw [applied_eq_ok hgate' htags' description']
  cases h : (applied node tags description).outcome with
  | ok result => exact .ok _ _
  | error failure =>
    obtain ⟨rfl, name, text, htext, hlong⟩ := exists_overlong hgate h
    exact .overlong (hcause name hlong.mem text htext hlong.isOverlong) _

namespace TypeModel

variable {τ ι : Type}

/-- A length or a count below a type is an integer too long to convert. -/
def DocumentsOverlong (model : TypeModel τ ι) (root : τ) : Prop :=
  ∃ name ∈ ["minLength", "maxLength", "minItems", "maxItems"], ∃ text,
    model.Documented root name text ∧ Constraint.IsOverlong text

/-- A pass with the documentation of a symbol is alike without the texts. -/
theorem Documents.alike_applied {model : TypeModel τ ι} {root : τ} {symbol : Option Symbol}
    (h : model.Documents root symbol) {tags tags' : Dict String}
    (htags : Symbol.tagTextsOf symbol = .ok tags)
    (htags' : Symbol.tagTextsOf (symbol.map Symbol.withoutTexts) = .ok tags') {node node' : Node}
    {gate gate' : Constraint.Gate} (hgate : Constraint.gate (Dict.get? "type" node) = .ok gate)
    (hgate' : Constraint.gate (Dict.get? "type" node') = .ok gate')
    (description description' : Option String) :
    Alike (model.DocumentsOverlong root) (Constraint.applied node tags description).outcome
      (Constraint.applied node' tags' description').outcome :=
  Constraint.alike_applied hgate hgate' (Symbol.convertible_withoutTexts htags')
    (fun name hname text htext hlong ↦ ⟨name, hname, text, ⟨symbol, tags, h, htags, htext⟩, hlong⟩)
    description description'

theorem outcome_members_withoutTexts {model : TypeModel τ ι} (type : τ) :
    (model.withoutTexts.members type).outcome =
      (model.members type).outcome.map (List.map Member.withoutTexts) := by
  change (model.members type >>= fun members ↦
    (pure (members.map Member.withoutTexts) : Logged (List (Member τ)))).outcome = _
  rw [Logged.outcome_bind]
  cases (model.members type).outcome <;> rfl

section

variable {model : TypeModel τ ι} {root type : τ}

/-- A member of a struct below the root is alike without the texts, if its type is. -/
theorem alike_compileMember {compileType compileType' : τ → Logged Node} {member : Member τ}
    (hsymbol : Symbol.hasTag Constraint.ignoreTag member.symbol = false →
      model.Documents root member.symbol)
    (hcompile : Symbol.hasTag Constraint.ignoreTag member.symbol = false →
      Alike (model.DocumentsOverlong root) (compileType member.type).outcome
        (compileType' member.type).outcome)
    (hgate : ∀ node, (compileType member.type).outcome = .ok node →
      ∃ gate, Constraint.gate (Dict.get? "type" node) = .ok gate)
    (hgate' : ∀ node, (compileType' member.type).outcome = .ok node →
      ∃ gate, Constraint.gate (Dict.get? "type" node) = .ok gate) (typeName : String) :
    Alike (model.DocumentsOverlong root) (model.compileMember compileType typeName member).outcome
      (model.withoutTexts.compileMember compileType' typeName member.withoutTexts).outcome := by
  have hoptional : model.withoutTexts.isOptional member.withoutTexts = model.isOptional member := by
    unfold isOptional
    rw [(sameShape_withoutTexts model).resembles.includesUndefined rfl]
    rfl
  unfold compileMember
  simp only [Logged.outcome_bind, Logged.outcome_lift, hoptional]
  refine (Symbol.alike_tagTextsOf _ member.symbol).bind fun tags tags' htags htags' ↦ ?_
  refine (Alike.refl _).bind fun optional optional' hleft hright ↦ ?_
  obtain rfl := Except.ok.inj (hleft.symm.trans hright)
  rw [Symbol.contains_tagTextsOf htags, Symbol.contains_tagTextsOf htags',
    Symbol.hasTag_withoutTexts]
  cases hignored : Symbol.hasTag Constraint.ignoreTag member.symbol with
  | true =>
    cases optional with
    | true => exact .ok none none
    | false => exact .error _
  | false =>
    simp only [Bool.false_eq_true, if_false, Logged.outcome_bind, Logged.outcome_pure]
    refine (hcompile hignored).bind fun node node' hnode hnode' ↦ ?_
    obtain ⟨gate, hgate⟩ := hgate node hnode
    obtain ⟨gate', hgate'⟩ := hgate' node' hnode'
    exact ((hsymbol hignored).alike_applied htags htags' hgate hgate' _ _).bind
      fun _ _ _ _ ↦ .ok _ _

/-- Without texts there is nothing to find room for. -/
theorem not_documentsDeep_withoutTexts [Stack] : ¬ model.withoutTexts.DocumentsDeep root := by
  rintro ⟨symbol, tags, place, hsymbol, htags, entry, hentry, hexceeds⟩
  obtain ⟨own, rfl⟩ : ∃ own : Option Symbol, symbol = own.map Symbol.withoutTexts := by
    cases hsymbol with
    | type => exact ⟨_, rfl⟩
    | @member type _ _ _ _ hmembers hmember =>
      rw [outcome_members_withoutTexts] at hmembers
      cases hown : (model.members type).outcome with
      | error failure =>
        rw [hown] at hmembers
        cases hmembers
      | ok members =>
        rw [hown] at hmembers
        obtain ⟨member, -, rfl⟩ := List.mem_map.mp (Except.ok.inj hmembers ▸ hmember)
        exact ⟨member.symbol, rfl⟩
  obtain ⟨tag, htag⟩ := Constraint.exists_mem_of_mem_valuedEntries hentry
  rw [Symbol.text_withoutTexts htags htag] at hexceeds
  cases (@Json.exceedsRoom_nil (Stack.room place)).symm.trans hexceeds

variable [BEq ι]

/-- A node is built alike without the texts, if its parts are compiled alike. -/
theorem alike_build {compileType compileType' : Open ι → τ → Logged Node} {category : Category}
    (hcategory : model.classify type = .ok category)
    (hbelow : Relation.ReflTransGen model.Successor root type)
    (hcompile : ∀ active part, Relation.ReflTransGen model.Successor root part →
      Alike (model.DocumentsOverlong root) (compileType active part).outcome
        (compileType' active part).outcome)
    (hgate : ∀ active part node, (compileType active part).outcome = .ok node →
      ∃ gate, Constraint.gate (Dict.get? "type" node) = .ok gate)
    (hgate' : ∀ active part node, (compileType' active part).outcome = .ok node →
      ∃ gate, Constraint.gate (Dict.get? "type" node) = .ok gate) (active : Open ι) :
    Alike (model.DocumentsOverlong root) (model.build compileType active type category).outcome
      (model.withoutTexts.build compileType' active type category).outcome := by
  have hshape := (sameShape_withoutTexts model).resembles
  cases category with
  | string | number | boolean | booleanLiteral | null | undefined => exact .ok _ _
  | tuple | intersection | unsupported => exact .error _
  | stringLiteral | numberLiteral => exact Alike.refl (Logged.outcome (do
      pure [("type", _), ("const", ← Logged.lift (model.literal type))]))
  | enum =>
    unfold build
    rw [hshape.enumValues rfl]
    exact .refl _
  | union =>
    unfold build
    rw [hshape.buildUnion rfl]
    exact .refl _
  | array =>
    have hsame : model.withoutTexts.element? type = model.element? type := rfl
    cases helement : model.element? type with
    | none =>
      simp only [build, hsame, helement]
      exact .refl _
    | some element =>
      simp only [build, hsame, helement, Logged.outcome_bind]
      exact (hcompile active element (hbelow.tail (.inl ⟨hcategory, helement⟩))).bind
        fun _ _ _ _ ↦ .ok _ _
  | object =>
    by_cases hopen : IsOpen active (model.identity type)
    · rw [build_object_of_open model hopen, build_object_of_open model.withoutTexts hopen]
      exact .error _
    rw [build_object_of_closed model hopen, build_object_of_closed model.withoutTexts hopen]
    simp only [Logged.outcome_bind, outcome_members_withoutTexts]
    cases hmembers : (model.members type).outcome with
    | error failure => exact .error failure
    | ok members =>
      refine (Alike.mapM fun member hmember ↦ alike_compileMember (fun hkept ↦ ?_)
        (fun hkept ↦ hcompile _ _ ?_) (hgate _ _) (hgate' _ _) _).bind fun _ _ _ _ ↦ .ok _ _
      · exact .member hbelow hcategory hmembers hmember hkept
      · exact hbelow.tail (.inr ⟨hcategory, members, hmembers, member, hmember, hkept, rfl⟩)

/-- Below a root, every type is compiled alike without the texts. -/
theorem alike_compileUnder (depth : Nat) (active : Open ι)
    (hbelow : Relation.ReflTransGen model.Successor root type) :
    Alike (model.DocumentsOverlong root) (model.compileUnder depth active type).outcome
      (model.withoutTexts.compileUnder depth active type).outcome := by
  induction depth generalizing active type with
  | zero => exact .error _
  | succ depth ih =>
    simp only [compileUnder, compileStep, Logged.outcome_bind, Logged.outcome_lift,
      (sameShape_withoutTexts model).resembles.classify rfl]
    refine (Symbol.alike_tagTextsOf _ _).bind fun tags tags' htags htags' ↦ ?_
    cases hcategory : model.classify type with
    | error failure => exact .error failure
    | ok category =>
      have hcategory' : model.withoutTexts.classify type = .ok category := by
        rw [(sameShape_withoutTexts model).resembles.classify rfl, hcategory]
      refine (alike_build hcategory hbelow (fun active part hpart ↦ ih active hpart)
        (fun _ _ _ ↦ exists_gate_of_compileUnder) (fun _ _ _ ↦ exists_gate_of_compileUnder)
        active).bind fun base base' hbase hbase' ↦ ?_
      obtain ⟨gate, hgate⟩ := (build_eq_ok_iff.mp hbase).2.exists_gate
      obtain ⟨gate', hgate'⟩ := (build_eq_ok_iff.mp hbase').2.exists_gate
      exact (Documents.type hbelow).alike_applied htags htags' hgate hgate' _ _

/-- A type is compiled alike without the texts. -/
theorem alike_compile (model : TypeModel τ ι) (type : τ) :
    Alike (model.DocumentsOverlong type) (model.compile type).outcome
      (model.withoutTexts.compile type).outcome := by
  rw [outcome_compile, outcome_compile]
  exact alike_compileUnder (model.depth type) [] .refl

/-- The texts of tags are the cause of two failures only. A pass over a node fails exactly at a length of a
string or a count of an array of more digits than are converted, or else at the text of a default or of an
extension that nests more containers than there is room for. Otherwise a numeric tag, a length or a count of
no use leaves the node as it would be without the tag, and types fail as they would without the texts. -/
theorem failures_of_tagTexts [Stack] (model : TypeModel τ ι) (type : τ) :
    (∀ [Room] (node : Node) (tags : Dict String) (description : Option String),
      Constraint.HasTextType node →
      (∀ failure, (Constraint.applied node tags description).outcome = .error failure ↔
        (failure = .overlongInteger ∧
          ∃ tag text, Dict.get? tag tags = some text ∧ Constraint.Overlong node tag text) ∨
        (failure = .exhausted ∧ Constraint.ExceedsRoom tags ∧
          ¬ ∃ tag text, Dict.get? tag tags = some text ∧ Constraint.Overlong node tag text)) ∧
      ∀ tag text, Dict.get? tag tags = some text → Constraint.isUsable tag text = false →
        ¬ Constraint.Overlong node tag text →
        (Constraint.apply node (Constraint.without tag tags) description).node =
            (Constraint.apply node tags description).node ∧
          (Constraint.apply node (Constraint.without tag tags) description).failure? =
            (Constraint.apply node tags description).failure?) ∧
      ((∀ failure, (model.compile type).outcome = .error failure ↔
          (model.withoutTexts.compile type).outcome = .error failure) ∨
        (model.compile type).outcome = .error .overlongInteger ∧ model.DocumentsOverlong type ∨
        (model.compile type).outcome = .error .exhausted ∧ model.DocumentsDeep type) := by
  refine ⟨fun node tags description hnode ↦ ⟨fun failure ↦ ?_, fun tag text ↦ ?_⟩, ?_⟩
  · exact Constraint.applied_eq_error_iff_limits hnode
  · exact Constraint.apply_without hnode description
  · have hfree := (alike_compile model type).failures
    have hplain := (within_compile model.withoutTexts type).resolve_right
      fun hdeep ↦ not_documentsDeep_withoutTexts hdeep.2
    rw [hplain]
    rcases within_compile model type with hsame | hexhausted
    · rw [hsame]
      exact hfree.imp_right .inl
    · exact .inr (.inr hexhausted)

/-- Where one container has room, a length that is no integer is dropped, the pattern beside it is kept,
and the pass ends at a default that nests two. -/
theorem failures_of_tagTexts_string :
    (∀ failure,
      (@Constraint.applied ⟨some 1⟩ [("type", .str "string")]
        [("minLength", "ten"), ("pattern", "^a"), ("default", "[]")] none).outcome ≠ .error failure) ∧
      (@Constraint.apply ⟨some 1⟩ [("type", .str "string")]
        [("minLength", "ten"), ("pattern", "^a"), ("default", "[]")] none).node =
          [("type", .str "string"), ("pattern", .str "^a"), ("default", .arr [])] ∧
      (@Constraint.applied ⟨some 1⟩ [("type", .str "string")] [("default", "[[]]")] none).outcome =
        .error .exhausted := by
  have hnode : Constraint.HasTextType [("type", .str "string")] :=
    fun type htype ↦ ⟨"string", by simpa [Dict.get?, eq_comm] using htype⟩
  have htags : Constraint.Convertible [("minLength", "ten"), ("pattern", "^a"), ("default", "[]")] := by
    decide
  have hdeep : Constraint.Convertible [("default", "[[]]")] := by decide
  obtain ⟨hpass, -⟩ := failures_of_tagTexts (Scripted.model []) 0
  obtain ⟨hfails, hwithout⟩ := @hpass ⟨some 1⟩ [("type", .str "string")]
    [("minLength", "ten"), ("pattern", "^a"), ("default", "[]")] none hnode
  refine ⟨fun failure h ↦ ?_, ?_, ?_⟩
  · rcases (hfails failure).mp h with ⟨-, tag, text, htext, hlong⟩ | ⟨-, hexceeds, -⟩
    · exact htags.not_isOverlong htext hlong.isOverlong
    · exact absurd hexceeds (by decide)
  · have htext : Dict.get? "minLength" [("minLength", "ten"), ("pattern", "^a"), ("default", "[]")] =
        some "ten" := rfl
    have hshort : ¬ Constraint.Overlong [("type", .str "string")] "minLength" "ten" :=
      fun hlong ↦ htags.not_isOverlong htext hlong.isOverlong
    exact (hwithout "minLength" "ten" htext rfl hshort).1.symm
  · refine ((@hpass ⟨some 1⟩ _ [("default", "[[]]")] none hnode).1 _).mpr (.inr ⟨rfl, by decide, ?_⟩)
    rintro ⟨tag, text, htext, hlong⟩
    exact hdeep.not_isOverlong htext hlong.isOverlong

def lengthTable (text : String) : Scripted.Table :=
  [{ flags := [.string], symbol := some ⟨"", [], [⟨"minLength", [text]⟩]⟩ }]

/-- A string with a length compiles to what the pass makes of it. -/
theorem compile_lengthTable (text : String) :
    ((Scripted.model (lengthTable text)).compile 0).outcome =
      (Constraint.applied [("type", .str "string")] [("minLength", text)] none).outcome := by
  have hjoin : String.join [text] = text := by simp
  have hsymbol : (Scripted.model (lengthTable text)).symbol 0 =
      some ⟨"", [], [⟨"minLength", [text]⟩]⟩ := rfl
  have htags : Symbol.tagTextsOf (some ⟨"", [], [⟨"minLength", [text]⟩]⟩) =
      .ok [("minLength", String.join [text])] := rfl
  have hclassify : (Scripted.model (lengthTable text)).classify 0 = .ok .string := rfl
  have hdepth : (Scripted.model (lengthTable text)).depth 0 = 4 + 1 := rfl
  rw [outcome_compile, hdepth, compileUnder, compileStep]
  simp only [Logged.outcome_bind, Logged.outcome_lift, hsymbol, htags,
    hclassify, hjoin, Outcome.ok_bind, build, Logged.outcome_pure]
  rfl

theorem countDigits?_replicate (n : Nat) :
    Tag.countDigits? (List.replicate (n + 1) '1') = some (false, List.replicate (n + 1) '1') := by
  have hsign : Tag.Numeral.takeSign (Text.trimLeft (List.replicate (n + 1) '1')) =
      (false, List.replicate (n + 1) '1') := by
    rw [List.replicate_succ, Text.trimLeft_of_not_isBlank (by decide)]
    rfl
  have hdigit : Text.isDecimalDigit '1' = true := by decide
  rw [Tag.countDigits?, hsign]
  simp [hdigit]

/-- A pass over a string fails at a least length of too many digits, and so does the compilation. -/
theorem compile_overlong :
    Constraint.HasTextType [("type", .str "string")] ∧
      (Constraint.applied [("type", .str "string")]
        [("minLength", String.ofList (List.replicate 4301 '1'))] none).outcome =
          .error .overlongInteger ∧
      ((Scripted.model (lengthTable (String.ofList (List.replicate 4301 '1')))).compile 0).outcome =
        .error .overlongInteger := by
  have hnode : Constraint.HasTextType [("type", .str "string")] :=
    fun type htype ↦ ⟨"string", by simpa [Dict.get?, eq_comm] using htype⟩
  have hlong : Constraint.IsOverlong (String.ofList (List.replicate 4301 '1')) := by
    refine ⟨(false, List.replicate 4301 '1'), ?_, ?_⟩
    · rw [String.toList_ofList]
      exact countDigits?_replicate 4300
    · rw [List.length_replicate]
      decide
  have hpass : (Constraint.applied [("type", .str "string")]
      [("minLength", String.ofList (List.replicate 4301 '1'))] none).outcome =
        .error .overlongInteger :=
    (Constraint.applied_eq_error_iff_overlong hnode).mpr
      ⟨rfl, "minLength", _, rfl, .length rfl (by decide) hlong⟩
  exact ⟨hnode, hpass, (compile_lengthTable _).trans hpass⟩

end

end TypeModel

end Schematic
