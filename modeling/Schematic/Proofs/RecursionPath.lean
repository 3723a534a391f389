import Schematic.Proofs.Rejection

/-!
# The path of a recursion error

A struct is rejected as recursive only if it is open. The open structs are the ones that
the descent has entered and not left, so the reported path is a path of the graph of types
whose last struct stands on it before. Equal names do not make a cycle, and neither does a
type that several members share.
-/

namespace Schematic.Scripted

open Relation TypeModel

/-- A path of structs from a root to a struct that is on the path already. -/
structure Cycle (table : Table) (root : Nat) (frames : List Nat) (last : Nat) : Prop where
  objects : ∀ frame ∈ frames ++ [last], (model table).classify frame = .ok .object
  distinct : frames.Nodup
  closed : last ∈ frames
  entered : ∃ first ∈ (frames ++ [last]).head?, ReflTransGen (model table).ElementStep root first
  steps : (frames ++ [last]).IsChain (model table).StructStep

/-- A struct that is reached while it is open closes a cycle. -/
theorem cycle_of_reached {table : Table} {root steps : Nat} {frames : List Nat} {last : Nat}
    (h : Reached (model table) root steps frames last) (hclosed : last ∈ frames) :
    Cycle table root frames last where
  objects := by
    intro frame hframe
    rcases List.mem_append.mp hframe with hopen | hlast
    · exact h.classify_frame frame hopen
    · obtain rfl := List.mem_singleton.mp hlast
      exact h.classify_frame frame hclosed
  distinct := by simpa [model] using h.nodup_identities
  closed := hclosed
  entered := h.head
  steps := h.isChain

/-- The last struct of such a path leads back to itself. -/
theorem Cycle.transGen {table : Table} {root : Nat} {frames : List Nat} {last : Nat}
    (h : Cycle table root frames last) : TransGen (model table).StructStep last last := by
  have hchain : (frames ++ [last]).IsChain (TransGen (model table).StructStep) :=
    h.steps.imp fun _ _ ↦ .single
  have hpairs := (List.pairwise_append.mp hchain.pairwise).2.2
  exact hpairs last h.closed last (List.mem_singleton_self last)

/-- The path of a recursion error lists the names along a cycle of structs. -/
theorem compile_recursion_path (table : Table) (root : Nat) (name : String) (path : List String)
    (details : String)
    (h : ((model table).compile root).outcome =
      .error (.schema (.recursiveType name path) details)) :
    ∃ frames last, Cycle table root frames last ∧
      path = (frames ++ [last]).map (fun frame ↦ (record table frame).name) ∧
      name = (record table last).name ∧ TransGen (model table).StructStep last last := by
  obtain ⟨steps, frames, last, hreached, ⟨-, hunbounded⟩ | hfails⟩ := exists_failsAt_of_compile h
  · cases hunbounded
  · cases cause_of_failsAt hfails with
    | rejected _ hrejects =>
      cases hrejects with
      | reentered _ hopen =>
        have hcycle := cycle_of_reached hreached hopen
        exact ⟨frames, last, hcycle, rfl, rfl, hcycle.transGen⟩
    | unreadable hunreadable => exact absurd rfl (hunreadable.ne_schema _ _)

/-- The entry of a list shares its leaf, and leads to two types of one name, which lead to each
other. -/
def entryTable : Table :=
  [{ name := "Entry[]", flags := [.object], isArray := true, element := some 1 },
   { name := "Entry", flags := [.object],
     members := [⟨"left", 5, false, none⟩, ⟨"right", 5, false, none⟩, ⟨"nodes", 2, true, none⟩] },
   { name := "Node[]", isArray := true, element := some 3 },
   { name := "Node", flags := [.object],
     members := [⟨"leaf", 5, false, none⟩, ⟨"next", 4, true, none⟩] },
   { name := "Node", flags := [.object], members := [⟨"next", 2, true, none⟩] },
   { name := "Leaf", flags := [.object], members := [⟨"text", 6, false, none⟩] },
   { name := "string", flags := [.string],
     symbol := some ⟨"Text", [], [⟨"minLength", ["12 ", "letters"]⟩]⟩ }]

/-- Types of one name are told apart on the path. -/
theorem compile_recursion_path_entry :
    ((model entryTable).compile 0).outcome = .error (.schema
      (.recursiveType "Node" ["Entry", "Node", "Node", "Node"]) "") ∧
    ∃ frames last, Cycle entryTable 0 frames last ∧
      ["Entry", "Node", "Node", "Node"] =
        (frames ++ [last]).map (fun frame ↦ (record entryTable frame).name) ∧
      "Node" = (record entryTable last).name ∧
      TransGen (model entryTable).StructStep last last := by
  have herror : ((model entryTable).compile 0).outcome = .error (.schema
      (.recursiveType "Node" ["Entry", "Node", "Node", "Node"]) "") := rfl
  exact ⟨herror, compile_recursion_path entryTable 0 _ _ _ herror⟩

end Schematic.Scripted
