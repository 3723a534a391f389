import Schematic.Export.Document
import Schematic.Model.Scripted
import Schematic.Proofs.FiniteSchemas
import Schematic.Proofs.Saving
import Schematic.Proofs.Writing

/-!
# Strict documents

An exported document is strict JSON where its schema has finite numbers only: its text is a
JSON text, which has no word for any other number outside its strings, and that text is what
the file holds afterwards. A tag with a numeral beyond the doubles makes a document that is
not JSON.
-/

namespace Schematic

open Json (Hereditary IsFinite)
open Json.Grammar

namespace Document

theorem property_of_wrap {P : Json → Prop} (hP : Hereditary P) {node : Node} (h : P (.obj node))
    (config : Config) : P (.obj (wrap node config)) := by
  refine hP.update ?_ (hP.field h)
  unfold metadata
  split
  · split
    · exact hP.obj (List.nodup_singleton _) (List.forall_mem_singleton.mpr (hP.str _))
    · refine hP.obj (by simp [Dict.keys]) ?_
      exact List.forall_mem_cons.mpr ⟨hP.str _, List.forall_mem_singleton.mpr (hP.str _)⟩
  · exact hP.obj (List.nodup_singleton _) (List.forall_mem_singleton.mpr (hP.str _))

theorem isFinite_wrap {node : Node} (h : IsFinite (.obj node)) (config : Config) :
    IsFinite (.obj (wrap node config)) :=
  property_of_wrap Json.hereditary_isFinite h config

theorem toList_fileText (document : Node) (config : Config) : (fileText document config).toList =
    Json.write (spacing config) 0 (.obj document) ++ ['\n'] := by
  simp [fileText, Json.text]

/-- A document without infinite and undefined numbers, whose text is JSON and has no word for such a
number outside its strings. -/
structure Strict (document : Node) (config : Config) : Prop where
  finite : IsFinite (.obj document)
  text : ∃ numerals, IsText (fileText document config).toList numerals
  words : ∀ word ∈ notFiniteWords,
    ¬ word.toList <:+: outside false (fileText document config).toList

theorem strict_of_isFinite {document : Node} (h : IsFinite (.obj document)) (config : Config) :
    Strict document config := by
  obtain ⟨numerals, hspells⟩ := Json.spells_write (spacing config) 0 h
  have htext : IsText (fileText document config).toList numerals := by
    rw [toList_fileText]
    exact .mk Json.isSpace_nil hspells (List.forall_mem_singleton.mpr rfl)
  exact ⟨h, ⟨numerals, htext⟩, not_infix_of_isText htext⟩

end Document

namespace Exported

variable {τ ι : Type} [BEq ι]

/-- A document that can be expressed is saved. -/
theorem write_of_isWritable {document : Node} (hwritable : (Json.obj document).isWritable = true)
    (path : Path) (config : Config) (files : FileSystem) :
    write document path config files =
      match (files.save path (Document.fileText document config)).error? with
      | some error => ⟨.fail (error.toFailure path),
          (files.save path (Document.fileText document config)).files⟩
      | none => ⟨⟨.ok document, [.exported path.toString document.length]⟩,
          (files.save path (Document.fileText document config)).files⟩ := by
  unfold write
  generalize (Json.obj document).isWritable = writable at hwritable
  subst hwritable
  rfl

/-- A document that is written has no integer too long for a text. -/
theorem isWritable_of_write {document result : Node} {path : Path} {config : Config}
    {files : FileSystem} (h : (write document path config files).result.outcome = .ok result) :
    (Json.obj document).isWritable = true := by
  by_contra hlong
  unfold write at h
  simp only [hlong] at h
  split at h
  · cases h
  · cases h

/-- A write that succeeds leaves the text in the file. -/
theorem write_eq_ok {document result : Node} {path : Path} {config : Config} {files : FileSystem}
    (h : (write document path config files).result.outcome = .ok result) :
    result = document ∧ (write document path config files).files.content? path =
      some (Document.fileText document config) := by
  have hwritable := isWritable_of_write h
  rw [write_of_isWritable hwritable] at h ⊢
  split at h
  · cases h
  · rename_i hsaved
    exact ⟨(Except.ok.inj h).symm, FileSystem.content?_save hsaved⟩

theorem outcome_write {document : Node} {path : Path} {config : Config} {files : FileSystem}
    (hwritable : (Json.obj document).isWritable = true)
    (h : (files.save path (Document.fileText document config)).error? = none) :
    (write document path config files).result.outcome = .ok document := by
  rw [write_of_isWritable hwritable]
  simp only [h]

/-- An export writes what the type compiles to. -/
theorem ofType_of_compiled {model : TypeModel τ ι} {type : τ} {node : Node} (target : Path)
    (config : Config) (files : FileSystem) (hnode : (model.compile type).outcome = .ok node) :
    ofType model type (some target) config files =
      ⟨⟨(write (Document.wrap node config) target config files).result.outcome,
          (model.compile type).events ++
            (write (Document.wrap node config) target config files).result.events⟩,
        (write (Document.wrap node config) target config files).files⟩ := by
  unfold ofType
  dsimp only
  rw [hnode]

/-- An export that succeeds has compiled the type, and has saved the document if a path is given. -/
theorem ofType_eq_ok {model : TypeModel τ ι} {type : τ} {path : Option Path} {config : Config}
    {files : FileSystem} {document : Node}
    (h : (ofType model type path config files).result.outcome = .ok document) :
    ∃ node, (model.compile type).outcome = .ok node ∧ document = Document.wrap node config ∧
      ∀ target, path = some target →
        (ofType model type path config files).files.content? target =
          some (Document.fileText document config) := by
  unfold ofType at h ⊢
  dsimp only at h ⊢
  cases hcompiled : (model.compile type).outcome with
  | error failure =>
    rw [hcompiled] at h
    cases h
  | ok node =>
    rw [hcompiled] at h
    cases path with
    | none =>
      obtain rfl := Except.ok.inj h
      exact ⟨node, rfl, rfl, nofun⟩
    | some path =>
      obtain ⟨rfl, hcontent⟩ := write_eq_ok h
      refine ⟨node, rfl, rfl, ?_⟩
      intro target htarget
      obtain rfl := Option.some.inj htarget
      exact hcontent

theorem ofType_of_save {model : TypeModel τ ι} {type : τ} {path : Path} {config : Config}
    {files : FileSystem} {node : Node} (hnode : (model.compile type).outcome = .ok node)
    (hwritable : (Json.obj (Document.wrap node config)).isWritable = true)
    (hsaved : (files.save path (Document.fileText (Document.wrap node config) config)).error? =
      none) :
    (ofType model type (some path) config files).result.outcome =
      .ok (Document.wrap node config) := by
  rw [ofType_of_compiled path config files hnode]
  exact outcome_write hwritable hsaved

/-- An exported document is strict JSON, and so is the file that is written, as long as the literals
below the type are finite and the tags that are taken as values have their numerals in range. -/
theorem ofType_strict (model : TypeModel τ ι) (type : τ) (path : Option Path) (config : Config)
    (files : FileSystem) (document : Node)
    (hliterals : ∀ value, model.LiteralBelow type value → value.IsFinite)
    (htags : ∀ tag text, model.Documented type tag text → Constraint.TakesValue tag →
      Tag.InRange text)
    (h : (ofType model type path config files).result.outcome = .ok document) :
    Document.Strict document config ∧ ∀ target, path = some target →
      (ofType model type path config files).files.content? target =
        some (Document.fileText document config) := by
  obtain ⟨node, hnode, rfl, hcontent⟩ := ofType_eq_ok h
  have hfinite := TypeModel.isFinite_compile hliterals htags hnode
  exact ⟨Document.strict_of_isFinite (Document.isFinite_wrap hfinite config) config, hcontent⟩

end Exported

namespace Scripted

def rateTable : Table :=
  [{ name := "Rate", flags := [.numberLiteral], value := .int 3,
     symbol := some ⟨"Rate", [], [⟨"default", ["1.5"]⟩]⟩ }]

def rateDocument : Node :=
  [("$schema", .str "https://json-schema.org/draft/2020-12/schema"), ("type", .str "number"),
    ("const", .int 3), ("default", .float (.ofDecimal false 15 (-1)))]

theorem ofType_strict_rate :
    (Exported.ofType (model rateTable) 0 (some ⟨.working, ["rate.json"]⟩) {}
        .empty).result.outcome = .ok rateDocument ∧
      Document.Strict rateDocument {} ∧
      (Exported.ofType (model rateTable) 0 (some ⟨.working, ["rate.json"]⟩) {}
        .empty).files.content? ⟨.working, ["rate.json"]⟩ =
          some (Document.fileText rateDocument {}) := by
  have hrate : (model rateTable).classify 0 = .ok .numberLiteral := rfl
  have hname : FileSystem.IsFileName "rate.json" := ⟨by simp, by simp, by simp, by decide⟩
  have hsaved (text : String) :
      (FileSystem.save .empty ⟨.working, ["rate.json"]⟩ text).error? = none :=
    FileSystem.error?_save_name hname rfl rfl rfl text
  have hnode : ((model rateTable).compile 0).outcome = .ok (rateDocument.drop 1) := rfl
  have hdocument := Exported.ofType_of_save hnode rfl (hsaved (Document.fileText rateDocument {}))
  have hliterals : ∀ value, (model rateTable).LiteralBelow 0 value → value.IsFinite := by
    intro value hvalue
    rcases hvalue.of_leaf hrate (by decide) with ⟨flags, -, -, hliteral⟩ | ⟨member, hmember, -⟩
    · obtain rfl := Except.ok.inj hliteral
      exact Json.isFinite_int 3
    · cases hmember
  have htags : ∀ tag text, (model rateTable).Documented 0 tag text → Constraint.TakesValue tag →
      Tag.InRange text := by
    intro tag text hdocumented _ numerals hnumerals
    have htext : Dict.get? tag [("default", "1.5")] = some text :=
      hdocumented.get?_of_leaf hrate (by decide) rfl
    obtain ⟨-, rfl⟩ : tag = "default" ∧ text = "1.5" := by
      simpa [Dict.get?, eq_comm] using htext
    exact Json.inRange_of_isText hnumerals ⟨by simp, by decide⟩
  obtain ⟨hstrict, hcontent⟩ := Exported.ofType_strict (model rateTable) 0
    (some ⟨.working, ["rate.json"]⟩) {} .empty rateDocument hliterals htags hdocument
  exact ⟨hdocument, hstrict, hcontent _ rfl⟩

def overflowTable : Table :=
  [{ name := "number", flags := [.number],
     symbol := some ⟨"number", [], [⟨"default", ["1e999"]⟩]⟩ }]

def overflowDocument : Node :=
  [("$schema", .str "https://json-schema.org/draft/2020-12/schema"), ("type", .str "number"),
    ("default", .float (.infinite false))]

/-- A numeral beyond the doubles makes a document that is not JSON, without any literal. -/
theorem ofType_not_strict :
    (∀ value, (model overflowTable).LiteralBelow 0 value → value.IsFinite) ∧
      (Exported.ofType (model overflowTable) 0 none {} .empty).result.outcome =
        .ok overflowDocument ∧
      Json.Occurs (.float (.infinite false)) (.obj overflowDocument) ∧
      "Infinity".toList <:+: outside false (Document.fileText overflowDocument {}).toList ∧
      ¬ Document.Strict overflowDocument {} := by
  have hnumber : (model overflowTable).classify 0 = .ok .number := rfl
  have hinfinite : Json.Occurs (.float (.infinite false)) (.obj overflowDocument) :=
    .field (.tail _ (.tail _ (.head _))) .self
  refine ⟨?_, rfl, hinfinite, ?_, fun hstrict ↦ ?_⟩
  · intro value hvalue
    rcases hvalue.of_leaf hnumber (by decide) with
      ⟨flags, hflags, hkind, -⟩ | ⟨member, hmember, -⟩
    · obtain rfl := Except.ok.inj hflags
      cases hkind
    · cases hmember
  · refine ⟨"\x7b\n  \": \",\n  \": \",\n  \": ".toList, "\n\x7d\n".toList, ?_⟩
    rw [Document.toList_fileText]
    rfl
  · cases hstrict.finite _ hinfinite

end Scripted

end Schematic
