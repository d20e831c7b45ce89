import Gateway.Types

/-!
# The processed-blocks history

`HashHistory` is the time-bounded set in which the block processor records the
block hashes it has handled.  Its source file is not part of this repository,
so it is modelled from the specification (§4.A): `Add(key, ttl)` records an
expiration time, and `Exists(key)` holds strictly before that time.  Entries
are keyed by the hash itself; the code keys them by `hash.String()`, which is
injective.  Times are Unix nanoseconds.
-/

namespace Gateway.Services

open Gateway.Types

/-- Modelled from the spec: `HashHistory`, the expiration time of each key. -/
structure HashHistory where
  expiration : SHA256Hash → Option Int

/-- Modelled from the spec: a history with no entries. -/
def HashHistory.empty : HashHistory := ⟨fun _ => none⟩

/-- Modelled from the spec: `HashHistory.Add(key, ttl)` at time `now`. -/
def HashHistory.add (hh : HashHistory) (now : Int) (key : SHA256Hash)
    (ttl : Int) : HashHistory :=
  ⟨Function.update hh.expiration key (some (now + ttl))⟩

/-- Modelled from the spec: `HashHistory.Exists(key)` at time `now`. -/
def HashHistory.«exists» (hh : HashHistory) (now : Int) (key : SHA256Hash) :
    Bool :=
  match hh.expiration key with
  | some expiration => decide (now < expiration)
  | none => false

namespace HashHistory

theorem exists_iff {hh : HashHistory} {now : Int} {key : SHA256Hash} :
    hh.exists now key = true ↔ ∃ e, hh.expiration key = some e ∧ now < e := by
  unfold HashHistory.exists
  split <;> simp_all

@[simp] theorem empty_exists (now : Int) (key : SHA256Hash) :
    empty.exists now key = false := rfl

@[simp] theorem add_expiration_self (hh : HashHistory) (now : Int)
    (key : SHA256Hash) (ttl : Int) :
    (hh.add now key ttl).expiration key = some (now + ttl) := by
  simp [add]

@[simp] theorem add_expiration_of_ne (hh : HashHistory) (now : Int)
    {key other : SHA256Hash} (ttl : Int) (h : other ≠ key) :
    (hh.add now key ttl).expiration other = hh.expiration other := by
  simp [add, h]

end HashHistory

end Gateway.Services
