import Schematic.Json.Reader

/-!
# Room for nested containers

A reader keeps the containers around the value that it reads on a stack, which has room for so many.
An opening bracket beyond that ends the reading at once; a text that turns out to be malformed before
such a bracket is malformed all the same.
-/

namespace Schematic

/-- How many containers may be open at once while a text is read, if there is a bound. -/
class Room where
  limit : Option Nat

namespace Room

instance unlimited : Room := ⟨none⟩

end Room

namespace Json

namespace Reader

mutual

/-- Whether the value at the front of the text opens a container for which there is no room. -/
def exceeds : Nat → Nat → List Char → Bool
  | 0, _, _ => false
  | fuel + 1, room, cs =>
    match room, cs with
    | 0, '[' :: _ => true
    | 0, '\x7b' :: _ => true
    | room + 1, '[' :: rest =>
      match skipSpace rest with
      | ']' :: _ => false
      | rest => itemsExceed fuel room rest
    | room + 1, '\x7b' :: rest =>
      match skipSpace rest with
      | '\x7d' :: _ => false
      | rest => fieldsExceed fuel room rest
    | _, _ => false

/-- The same for the items of an array, each of which is reached if those before it can be read. -/
def itemsExceed : Nat → Nat → List Char → Bool
  | 0, _, _ => false
  | fuel + 1, room, cs =>
    exceeds fuel room cs ||
      match value fuel cs with
      | none => false
      | some (_, rest) =>
        match skipSpace rest with
        | ',' :: rest => itemsExceed fuel room (skipSpace rest)
        | _ => false

/-- The same for the fields of an object. -/
def fieldsExceed : Nat → Nat → List Char → Bool
  | 0, _, _ => false
  | fuel + 1, room, cs =>
    match cs with
    | '\x22' :: rest =>
      match string rest with
      | none => false
      | some (_, rest) =>
        match skipSpace rest with
        | ':' :: rest =>
          exceeds fuel room (skipSpace rest) ||
            match value fuel (skipSpace rest) with
            | none => false
            | some (_, rest) =>
              match skipSpace rest with
              | ',' :: rest => fieldsExceed fuel room (skipSpace rest)
              | _ => false
        | _ => false
    | _ => false

end

end Reader

/-- Whether reading a text needs more room than there is. -/
def exceedsRoom [room : Room] (cs : List Char) : Bool :=
  match room.limit with
  | none => false
  | some limit => Reader.exceeds (2 * cs.length + 1) limit (Reader.skipSpace cs)

theorem exceedsRoom_nil [room : Room] : exceedsRoom [] = false := by
  unfold exceedsRoom
  cases room.limit with
  | none => rfl
  | some limit => cases limit <;> rfl

end Json

end Schematic
