/-!
# Maps that keep what was used recently

A map of bounded size. A lookup and an insertion make the entry of a key the most recently used one,
and a full map drops the least recently used entry to make room for a new key.
-/

namespace RelMap

/-- A map of bounded size. -/
structure Lru (κ α : Type) where
  /-- How many entries it holds at most. -/
  capacity : Nat
  /-- The entries, the most recently used first. -/
  entries : List (κ × α) := []

namespace Lru

variable {κ α : Type}

/-- How many entries a map holds. -/
def size (m : Lru κ α) : Nat := m.entries.length

/-- The map with another capacity, and with its most recently used entries as far as they fit. -/
def resize (m : Lru κ α) (capacity : Nat) : Lru κ α := ⟨capacity, m.entries.take capacity⟩

variable [DecidableEq κ]

/-- The entries without the one of a key. -/
def without (key : κ) (entries : List (κ × α)) : List (κ × α) := entries.filter (·.1 != key)

/-- The value of a key, whose entry becomes the most recently used one. -/
def get (m : Lru κ α) (key : κ) : Option α × Lru κ α :=
  match m.entries.lookup key with
  | some a => (some a, { m with entries := (key, a) :: without key m.entries })
  | none => (none, m)

/--
The map with an entry as the most recently used one, and the entry that had to go: the one that the
key had, or the least recently used one of a full map.
-/
def push (m : Lru κ α) (key : κ) (a : α) : Option (κ × α) × Lru κ α :=
  match m.entries.lookup key with
  | some old => (some (key, old), { m with entries := (key, a) :: without key m.entries })
  | none =>
    if m.size < m.capacity then (none, { m with entries := (key, a) :: m.entries })
    else (m.entries.getLast?, { m with entries := (key, a) :: m.entries.dropLast })

end Lru

end RelMap
