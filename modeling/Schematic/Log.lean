import Schematic.Error

/-!
# Logged results

An operation yields a value or a failure together with the records it logged on
the way, in order. Records logged before a failure are kept.
-/

namespace Schematic

/-- A record of the log. -/
inductive Event where
  /-- A compilation starts. -/
  | compiling (typeName : String)
  /-- An optional member is left out on demand. -/
  | skippedMember (typeName member : String)
  /-- The text of a tag gives no usable number. -/
  | droppedTag (tag text : String)
  | sourceUnavailable (className : String)
  | sourceMalformed (className : String)
  /-- A document with the given count of keys was written. -/
  | exported (outputPath : String) (keys : Nat)
  deriving DecidableEq, Repr

structure Logged (α : Type) where
  outcome : Except Failure α
  events : List Event

namespace Logged

variable {α β : Type}

def ok (value : α) : Logged α :=
  ⟨.ok value, []⟩

def fail (failure : Failure) : Logged α :=
  ⟨.error failure, []⟩

def record (event : Event) : Logged Unit :=
  ⟨.ok (), [event]⟩

/-- A result without any record. -/
def lift (result : Except Failure α) : Logged α :=
  ⟨result, []⟩

def bind (first : Logged α) (next : α → Logged β) : Logged β :=
  match first.outcome with
  | .ok value =>
    let second := next value
    ⟨second.outcome, first.events ++ second.events⟩
  | .error failure => ⟨.error failure, first.events⟩

instance : Monad Logged where
  pure := ok
  bind := bind

instance : MonadLift (Except Failure) Logged := ⟨lift⟩

instance : MonadExceptOf Failure Logged where
  throw := fail
  tryCatch result handler :=
    match result.outcome with
    | .ok _ => result
    | .error failure =>
      let second := handler failure
      ⟨second.outcome, result.events ++ second.events⟩

end Logged

end Schematic
