import Schematic.Export.Document
import Schematic.Model.Scripted
import Schematic.Proofs.NodeShape
import Schematic.Proofs.StrictDocuments

/-!
# Metadata

A document is the metadata with the compiled schema behind it. The schema is laid over the
metadata, so this needs that no compiled schema has a key of the metadata: a key is a keyword
or an extension, and neither begins with a dollar sign, whatever the tags are called.
-/

namespace Schematic

namespace Node

/-- No tag comes to a schema under a name of the metadata, its key being prefixed. -/
theorem Shape.head?_ne_dollar {node : Node} (h : Shape node) {key : String}
    (hkey : key ∈ Dict.keys node) : key.toList.head? ≠ some '$' := by
  rcases h.known key hkey with hkeyword | ⟨tag, rfl⟩
  · exact (by decide : ∀ keyword ∈ keywords, keyword.toList.head? ≠ some '$') key hkeyword
  · rw [String.toList_append]
    exact (by decide : some 'x' ≠ some '$')

/-- A compiled node has the shape of a schema. -/
theorem shape_compile {τ ι : Type} [BEq ι] {model : TypeModel τ ι} {type : τ} {node : Node}
    (h : (model.compile type).outcome = .ok node) : Shape node := by
  rw [TypeModel.outcome_compile] at h
  exact TypeModel.compileUnder_everywhere shape_of_built shape_of_applied h node .refl

end Node

namespace Document

/-- A configured identifier stands after the address of the meta-schema. -/
theorem metadata_identified {config : Config} {id : String} (hid : config.schemaId = some id)
    (hnonempty : id ≠ "") :
    metadata config = [("$schema", .str config.schemaUri), ("$id", .str id)] := by
  unfold metadata
  rw [hid]
  simp [hnonempty]

theorem metadata_anonymous {config : Config} (h : ∀ id, config.schemaId = some id → id = "") :
    metadata config = [("$schema", .str config.schemaUri)] := by
  unfold metadata
  split
  · rename_i id hid
    rw [if_pos (h id hid)]
  · rfl

theorem keys_metadata (config : Config) :
    Dict.keys (metadata config) = ["$schema"] ∨ Dict.keys (metadata config) = ["$schema", "$id"] := by
  by_cases hanonymous : ∀ id, config.schemaId = some id → id = ""
  · rw [metadata_anonymous hanonymous]
    exact .inl rfl
  · push Not at hanonymous
    obtain ⟨id, hid, hnonempty⟩ := hanonymous
    rw [metadata_identified hid hnonempty]
    exact .inr rfl

theorem nodup_keys_metadata (config : Config) : (Dict.keys (metadata config)).Nodup := by
  rcases keys_metadata config with hkeys | hkeys
  · simp [hkeys]
  · simp [hkeys]

/-- All metadata has keys with a dollar sign, which no schema has. -/
theorem head?_of_mem_keys_metadata {config : Config} {key : String}
    (h : key ∈ Dict.keys (metadata config)) : key.toList.head? = some '$' := by
  rcases keys_metadata config with hkeys | hkeys
  · rw [hkeys] at h
    exact (by decide : ∀ key ∈ ["$schema"], key.toList.head? = some '$') key h
  · rw [hkeys] at h
    exact (by decide : ∀ key ∈ ["$schema", "$id"], key.toList.head? = some '$') key h

/-- The metadata and a schema have no key in common. -/
theorem nodup_keys_append {node : Node} (h : Node.Shape node) (config : Config) :
    (Dict.keys (metadata config) ++ Dict.keys node).Nodup := by
  refine (nodup_keys_metadata config).append h.distinct ?_
  -- A key of the metadata begins with a dollar sign, and a key of the schema does not.
  intro key hmetadata hkey
  exact h.head?_ne_dollar hkey (head?_of_mem_keys_metadata hmetadata)

theorem wrap_eq_append {node : Node} (h : Node.Shape node) (config : Config) :
    wrap node config = metadata config ++ node :=
  Dict.update_of_nodup (nodup_keys_append h config)

/-- A document with the address of the meta-schema in front, then its identifier, which it has exactly
if the configured one is not empty, and then the schema as it is. -/
structure Headed (config : Config) (node document : Node) : Prop where
  identified : ∀ id, config.schemaId = some id → id ≠ "" →
    document = ("$schema", .str config.schemaUri) :: ("$id", .str id) :: node
  anonymous : (∀ id, config.schemaId = some id → id = "") →
    document = ("$schema", .str config.schemaUri) :: node
  distinct : (Dict.keys document).Nodup
  reserved : ∀ key ∈ Dict.keys node, key.toList.head? ≠ some '$'

/-- The document of a schema has the head that its configuration asks for. -/
theorem headed_wrap {node : Node} (h : Node.Shape node) (config : Config) :
    Headed config node (wrap node config) where
  identified := by
    intro id hid hnonempty
    rw [wrap_eq_append h, metadata_identified hid hnonempty]
    rfl
  anonymous := by
    intro hanonymous
    rw [wrap_eq_append h, metadata_anonymous hanonymous]
    rfl
  distinct := by
    rw [wrap_eq_append h]
    simpa [Dict.keys] using nodup_keys_append h config
  reserved := fun _ hkey ↦ h.head?_ne_dollar hkey

end Document

namespace Exported

/-- What is exported is the stand-alone schema of the type with the metadata in front. -/
theorem ofType_headed {τ ι : Type} [BEq ι] (model : TypeModel τ ι) (type : τ) (path : Option Path)
    (config : Config) (files : FileSystem) (document : Node)
    (h : (ofType model type path config files).result.outcome = .ok document) :
    ∃ node, (model.compile type).outcome = .ok node ∧ Document.Headed config node document := by
  obtain ⟨node, hnode, rfl, -⟩ := ofType_eq_ok h
  exact ⟨node, hnode, Document.headed_wrap (Node.shape_compile hnode) config⟩

end Exported

namespace Scripted

/-- A text whose tags have the names of the metadata. -/
def dollarTable : Table :=
  [{ name := "string", flags := [.string],
     symbol := some ⟨"string", [], [⟨"$schema", ["mine"]⟩, ⟨"$id", ["1"]⟩]⟩ }]

def dollarNode : Node := [("type", .str "string"), ("x-$schema", .str "mine"), ("x-$id", .int 1)]

theorem ofType_headed_dollar :
    ((model dollarTable).compile 0).outcome = .ok dollarNode ∧
      (Exported.ofType (model dollarTable) 0 none ⟨"draft", some "text", none⟩
        .empty).result.outcome =
          .ok (("$schema", .str "draft") :: ("$id", .str "text") :: dollarNode) ∧
      Document.Headed ⟨"draft", some "text", none⟩ dollarNode
        (("$schema", .str "draft") :: ("$id", .str "text") :: dollarNode) := by
  have hnode : ((model dollarTable).compile 0).outcome = .ok dollarNode := rfl
  have hdocument : (Exported.ofType (model dollarTable) 0 none ⟨"draft", some "text", none⟩
      .empty).result.outcome =
        .ok (("$schema", .str "draft") :: ("$id", .str "text") :: dollarNode) := rfl
  obtain ⟨node, hcompiled, hheaded⟩ := Exported.ofType_headed (model dollarTable) 0 none
    ⟨"draft", some "text", none⟩ .empty _ hdocument
  obtain rfl := Except.ok.inj (hnode.symm.trans hcompiled)
  exact ⟨hnode, hdocument, hheaded⟩

end Scripted

end Schematic
