import Schematic.Class.Model
import Schematic.Proofs.ReadingBack
import Schematic.Proofs.StrictDocuments

/-!
# Files that are written

The file of an exported document holds the document: it is the document's text and a newline,
in printable ASCII, and the value read from it is the document that was returned. The integers
of a document that is written are short enough to be read again, since a longer one keeps the
document from being written. Keys are distinct as soon as those of the literals are, as in any
dictionary; the literals of annotations hold no dictionaries at all.
-/

namespace Schematic

open Json (Hereditary)
open Json.Grammar

namespace Json

/-! ## Printable characters -/

def IsPrinted (c : Char) : Prop :=
  c = '\n' ∨ (0x20 ≤ c.toNat ∧ c.toNat ≤ 0x7E)

instance (c : Char) : Decidable (IsPrinted c) := by
  unfold IsPrinted
  infer_instance

theorem isPrinted_of_isDigit {c : Char} (h : c.isDigit = true) : IsPrinted c := by
  obtain ⟨hzero, hnine⟩ := Char.isDigit_iff_toNat.mp h
  have hbounds : '0'.toNat = 48 ∧ '9'.toNat = 57 := ⟨rfl, rfl⟩
  right
  omega

theorem isPrinted_digitChar (n : Nat) : IsPrinted (n % 16).digitChar := by
  have hall : ∀ n < 16, IsPrinted (Nat.digitChar n) := by decide
  exact hall _ (Nat.mod_lt n (by decide))

theorem isPrinted_unitEscape (n : Nat) : ∀ c ∈ unitEscape n, IsPrinted c := by
  refine List.forall_mem_append.mpr ⟨forall_mem_of_all rfl, fun c hc ↦ ?_⟩
  simp only [hex4, List.map_cons, List.map_nil, List.mem_cons, List.not_mem_nil, or_false] at hc
  rcases hc with rfl | rfl | rfl | rfl <;> exact isPrinted_digitChar _

theorem isPrinted_escape (c : Char) : ∀ d ∈ escape c, IsPrinted d := by
  unfold escape
  split
  · rename_i letter hletter
    have hletters : ∀ entry ∈ escapes, IsPrinted entry.1 := by decide
    have hprinted := hletters _ (mem_escapes_of_shortEscape? hletter)
    exact List.forall_mem_cons.mpr ⟨by decide, List.forall_mem_singleton.mpr hprinted⟩
  · split
    · rename_i hprintable
      exact List.forall_mem_singleton.mpr (.inr hprintable)
    · unfold unicodeEscape
      dsimp only
      split
      · exact isPrinted_unitEscape _
      · exact List.forall_mem_append.mpr ⟨isPrinted_unitEscape _, isPrinted_unitEscape _⟩

theorem isPrinted_quoted (cs : List Char) : ∀ d ∈ quoted cs, IsPrinted d := by
  have hquote : ∀ d ∈ ['\x22'], IsPrinted d := forall_mem_of_all rfl
  refine List.forall_mem_append.mpr ⟨List.forall_mem_cons.mpr ⟨hquote _ (.head _), ?_⟩, hquote⟩
  intro d hd
  obtain ⟨c, -, hc⟩ := List.mem_flatMap.mp hd
  exact isPrinted_escape c d hc

theorem isPrinted_numeral {numeral : Numeral} {text : List Char} (h : SpellsNumeral numeral text) :
    ∀ c ∈ text, IsPrinted c :=
  forall_of_spellsNumeral (fun _ ↦ isPrinted_of_isDigit)
    (List.forall_iff_forall_mem.mp (by decide)) h

theorem isPrinted_float (x : Double) : ∀ c ∈ Double.Layout.document.text x, IsPrinted c := by
  cases x with
  | nan => exact forall_mem_of_all rfl
  | infinite negative => cases negative <;> exact forall_mem_of_all rfl
  | finite x =>
    obtain ⟨numeral, hspells, -⟩ := Double.Layout.document.spells_text x
    exact isPrinted_numeral hspells

theorem isPrinted_lineBreak (spacing : Spacing) (depth : Nat) :
    ∀ c ∈ spacing.lineBreak depth, IsPrinted c := by
  cases spacing with
  | inline => exact fun _ hc ↦ absurd hc List.not_mem_nil
  | indented width =>
    refine List.forall_mem_cons.mpr ⟨.inl rfl, fun c hc ↦ ?_⟩
    rw [List.eq_of_mem_replicate hc]
    decide

theorem isPrinted_enclose {spacing : Spacing} {depth : Nat} {opening closing : Char}
    (hopening : IsPrinted opening) (hclosing : IsPrinted closing) {items : List (List Char)}
    (h : ∀ item ∈ items, ∀ c ∈ item, IsPrinted c) :
    ∀ c ∈ spacing.enclose depth opening closing items, IsPrinted c := by
  have hseparator : ∀ c ∈ spacing.separator (depth + 1), IsPrinted c := by
    cases spacing with
    | inline =>
      exact forall_mem_of_all rfl
    | indented width =>
      exact List.forall_mem_cons.mpr ⟨by decide, isPrinted_lineBreak (.indented width) (depth + 1)⟩
  have hitems : ∀ c ∈ (spacing.separator (depth + 1)).intercalate items, IsPrinted c := by
    induction items with
    | nil => exact fun _ hc ↦ absurd hc List.not_mem_nil
    | cons item others ih =>
      obtain ⟨hitem, hothers⟩ := List.forall_mem_cons.mp h
      cases others with
      | nil =>
        rw [List.intercalate_singleton]
        exact hitem
      | cons next others =>
        rw [List.intercalate_cons_cons]
        exact List.forall_mem_append.mpr
          ⟨List.forall_mem_append.mpr ⟨hitem, hseparator⟩, ih hothers⟩
  unfold Spacing.enclose
  split
  · exact List.forall_mem_cons.mpr ⟨hopening, List.forall_mem_singleton.mpr hclosing⟩
  · refine List.forall_mem_append.mpr ⟨?_, List.forall_mem_singleton.mpr hclosing⟩
    refine List.forall_mem_append.mpr ⟨?_, isPrinted_lineBreak spacing depth⟩
    refine List.forall_mem_append.mpr ⟨?_, hitems⟩
    exact List.forall_mem_cons.mpr ⟨hopening, isPrinted_lineBreak spacing (depth + 1)⟩

theorem isPrinted_words : ∀ word ∈ words, ∀ c ∈ word, IsPrinted c := by
  have hall : ∀ word ∈ words, word.all (fun c ↦ IsPrinted c) = true := by decide
  exact fun word hword ↦ forall_mem_of_all (hall word hword)

mutual

/-- A written value consists of printable characters and line breaks. -/
theorem isPrinted_write (spacing : Spacing) (depth : Nat) : ∀ value : Json,
    ∀ c ∈ write spacing depth value, IsPrinted c
  | .null => isPrinted_words _ (.head _)
  | .bool true => isPrinted_words _ (.tail _ (.head _))
  | .bool false => isPrinted_words _ (.tail _ (.tail _ (.head _)))
  | .int n => by
    obtain ⟨numeral, hspells, -⟩ := spells_integerText n
    exact isPrinted_numeral hspells
  | .float x => isPrinted_float x
  | .str s => isPrinted_quoted s.toList
  | .arr items =>
    isPrinted_enclose (by decide) (by decide) (isPrinted_writeItems spacing (depth + 1) items)
  | .obj fields =>
    isPrinted_enclose (by decide) (by decide) (isPrinted_writeFields spacing (depth + 1) fields)

theorem isPrinted_writeItems (spacing : Spacing) (depth : Nat) : ∀ items : List Json,
    ∀ text ∈ writeItems spacing depth items, ∀ c ∈ text, IsPrinted c
  | [] => fun _ htext ↦ absurd htext List.not_mem_nil
  | item :: items =>
    List.forall_mem_cons.mpr
      ⟨isPrinted_write spacing depth item, isPrinted_writeItems spacing depth items⟩

theorem isPrinted_writeFields (spacing : Spacing) (depth : Nat) : ∀ fields : List (String × Json),
    ∀ text ∈ writeFields spacing depth fields, ∀ c ∈ text, IsPrinted c
  | [] => fun _ htext ↦ absurd htext List.not_mem_nil
  | (key, value) :: fields => by
    have hvalue := isPrinted_write spacing depth value
    have hfield : ∀ c ∈ quoted key.toList ++ ':' :: ' ' :: write spacing depth value,
        IsPrinted c := by
      refine List.forall_mem_append.mpr ⟨isPrinted_quoted key.toList, ?_⟩
      exact List.forall_mem_cons.mpr ⟨by decide, List.forall_mem_cons.mpr ⟨by decide, hvalue⟩⟩
    exact List.forall_mem_cons.mpr ⟨hfield, isPrinted_writeFields spacing depth fields⟩

end

end Json

/-! ## Documents -/

namespace Document

/-- Metadata does not repeat a key of the schema. -/
theorem hasDistinctKeys_wrap {node : Node} (h : (Json.obj node).HasDistinctKeys) (config : Config) :
    (Json.obj (wrap node config)).HasDistinctKeys :=
  property_of_wrap Json.hereditary_hasDistinctKeys h config

end Document

namespace Value

mutual

/-- A literal of an annotation holds no dictionary. -/
theorem hasDistinctKeys_toJson : ∀ value : Value, value.toJson.HasDistinctKeys
  | .none => Json.hereditary_hasDistinctKeys.null
  | .bool _ => Json.hereditary_hasDistinctKeys.bool _
  | .int _ => Json.hereditary_hasDistinctKeys.int _
  | .float _ => Json.hasDistinctKeys_float _
  | .complex _ _ | .str _ | .bytes _ | .cls _ => Json.hereditary_hasDistinctKeys.str _
  | .list items | .tuple items =>
    Json.hereditary_hasDistinctKeys.arr (hasDistinctKeys_itemsToJson items)
  | .member _ _ value => hasDistinctKeys_toJson value

theorem hasDistinctKeys_itemsToJson : ∀ items : List Value, ∀ item ∈ itemsToJson items,
    item.HasDistinctKeys
  | [] => fun _ hitem ↦ absurd hitem List.not_mem_nil
  | item :: items =>
    List.forall_mem_cons.mpr ⟨hasDistinctKeys_toJson item, hasDistinctKeys_itemsToJson items⟩

end

end Value

/-- The literals of annotations need not be assumed to have distinct keys. -/
theorem Module.hasDistinctKeys_of_literalBelow [Environment] {m : Module} {root : Annotation} {value : Json}
    (h : m.model.LiteralBelow root value) : value.HasDistinctKeys := by
  have hliteral {t : Annotation} (h : m.model.HasLiteral t value) : value.HasDistinctKeys := by
    obtain ⟨-, -, -, hvalue⟩ := h
    change t.literalValue.map Value.toJson = .ok value at hvalue
    cases hfound : t.literalValue with
    | error failure =>
      rw [hfound] at hvalue
      cases hvalue
    | ok found =>
      rw [hfound] at hvalue
      obtain rfl := Except.ok.inj hvalue
      exact found.hasDistinctKeys_toJson
  cases h with
  | type _ hvalue => exact hliteral hvalue
  | member _ _ hvalue => exact hliteral hvalue

namespace Exported

variable {τ ι : Type} [BEq ι]

/-- A document that is written can be expressed in JSON. -/
theorem isWritable_of_ofType {model : TypeModel τ ι} {type : τ} {path : Path} {config : Config}
    {files : FileSystem} {document : Node}
    (h : (ofType model type (some path) config files).result.outcome = .ok document) :
    (Json.obj document).isWritable = true := by
  unfold ofType at h
  dsimp only at h
  split at h
  · cases h
  · contradiction
  · rename_i hpath
    obtain rfl := Option.some.inj hpath
    have hdocument := (write_eq_ok h).1
    rw [hdocument]
    exact isWritable_of_write h

/-- The file of a document with finite numbers is the document's text and a newline, in printable
ASCII, and is read as the document itself: the same values under the same keys in the same order. -/
theorem ofType_readsBack (model : TypeModel τ ι) (type : τ) (path : Path) (config : Config)
    (files : FileSystem) (document : Node)
    (hliterals : ∀ value, model.LiteralBelow type value → value.HasDistinctKeys)
    (hfinite : (Json.obj document).IsFinite)
    (h : (ofType model type (some path) config files).result.outcome = .ok document) :
    ∃ content, (ofType model type (some path) config files).files.content? path = some content ∧
      content = (Json.obj document).text (Document.spacing config) ++ "\n" ∧
      (∀ c ∈ content.toList, Json.IsPrinted c) ∧
      Json.read? content.toList = some (.obj document) := by
  have hwritable := isWritable_of_ofType h
  obtain ⟨node, hnode, rfl, hcontent⟩ := ofType_eq_ok h
  have hkeys := TypeModel.hasDistinctKeys_compile hliterals hnode
  have hfaithful : Json.Faithful (.obj (Document.wrap node config)) :=
    ⟨hfinite, Document.hasDistinctKeys_wrap hkeys config, hwritable⟩
  refine ⟨_, hcontent path rfl, rfl, ?_, ?_⟩
  · rw [Document.toList_fileText]
    exact List.forall_mem_append.mpr ⟨Json.isPrinted_write _ 0 _, Json.forall_mem_of_all rfl⟩
  · rw [Document.toList_fileText]
    exact Json.read?_write hfaithful _ (List.forall_mem_singleton.mpr rfl)

end Exported

namespace Scripted

/-- A literal of characters that are escaped, with a default that is no integer. -/
def noteTable : Table :=
  [{ name := "Note", flags := [.stringLiteral], value := .str "\"\\\né😀",
     symbol := some ⟨"Note", [], [⟨"default", ["1.5"]⟩]⟩ }]

def noteDocument : Node :=
  [("$schema", .str "https://json-schema.org/draft/2020-12/schema"), ("type", .str "string"),
    ("const", .str "\"\\\né😀"), ("default", .float (.ofDecimal false 15 (-1)))]

theorem ofType_readsBack_note :
    (Exported.ofType (model noteTable) 0 (some ⟨.working, ["note.json"]⟩) {}
        .empty).result.outcome = .ok noteDocument ∧
      ∃ content, (Exported.ofType (model noteTable) 0 (some ⟨.working, ["note.json"]⟩) {}
          .empty).files.content? ⟨.working, ["note.json"]⟩ = some content ∧
        content = (Json.obj noteDocument).text (.indented 2) ++ "\n" ∧
        (∀ c ∈ content.toList, Json.IsPrinted c) ∧
        Json.read? content.toList = some (.obj noteDocument) := by
  have hnote : (model noteTable).classify 0 = .ok .stringLiteral := rfl
  have hname : FileSystem.IsFileName "note.json" := ⟨by simp, by simp, by simp, by decide⟩
  have hsaved (text : String) :
      (FileSystem.save .empty ⟨.working, ["note.json"]⟩ text).error? = none :=
    FileSystem.error?_save_name hname rfl rfl rfl text
  have hnode : ((model noteTable).compile 0).outcome = .ok (noteDocument.drop 1) := rfl
  have hdocument := Exported.ofType_of_save hnode rfl (hsaved (Document.fileText noteDocument {}))
  have hliterals : ∀ value, (model noteTable).LiteralBelow 0 value → value.HasDistinctKeys := by
    intro value hvalue
    rcases hvalue.of_leaf hnote (by decide) with ⟨flags, -, -, hliteral⟩ | ⟨member, hmember, -⟩
    · obtain rfl := Except.ok.inj hliteral
      exact Json.hereditary_hasDistinctKeys.str _
    · cases hmember
  have hfinite : (Json.obj noteDocument).IsFinite := by
    have hstrings (s : String) : (Json.str s).IsFinite := Json.isFinite_str s
    have hdefault : (Json.float (.ofDecimal false 15 (-1))).IsFinite :=
      Json.isFinite_float_iff.mpr rfl
    apply Json.isFinite_obj_iff.mpr
    simp only [noteDocument, List.forall_mem_cons, hstrings, hdefault, true_and]
    exact fun _ hfield ↦ absurd hfield List.not_mem_nil
  exact ⟨hdocument, Exported.ofType_readsBack (model noteTable) 0 ⟨.working, ["note.json"]⟩ {}
    .empty noteDocument hliterals hfinite hdocument⟩

end Scripted

end Schematic
