/-!
Tables that remember the order in which their keys first came.

Writing a key that is already present replaces its value and leaves the key where it stands; a new
key goes to the end. Schemas, programs and directories are all tables of this kind.
-/

namespace Keypath

structure Table (κ : Type) (α : Type) where
  entries : List (κ × α)
deriving Repr

namespace Table

variable {κ α : Type}

def empty : Table κ α := ⟨[]⟩

instance : EmptyCollection (Table κ α) := ⟨empty⟩

def keys (table : Table κ α) : List κ := table.entries.map Prod.fst

def values (table : Table κ α) : List α := table.entries.map Prod.snd

def size (table : Table κ α) : Nat := table.entries.length

def isEmpty (table : Table κ α) : Bool := table.entries.isEmpty

variable [DecidableEq κ]

def lookup? (key : κ) : List (κ × α) → Option α
  | [] => none
  | (k, a) :: rest => if k = key then some a else lookup? key rest

def write (key : κ) (value : α) : List (κ × α) → List (κ × α)
  | [] => [(key, value)]
  | (k, a) :: rest => if k = key then (k, value) :: rest else (k, a) :: write key value rest

def get? (table : Table κ α) (key : κ) : Option α := lookup? key table.entries

def insert (table : Table κ α) (key : κ) (value : α) : Table κ α := ⟨write key value table.entries⟩

def erase (table : Table κ α) (key : κ) : Table κ α :=
  ⟨table.entries.filter fun pair => pair.1 ≠ key⟩

def position? (table : Table κ α) (key : κ) : Option Nat :=
  table.keys.findIdx? (· = key)

/-- Write every pair of `other`, in its order, into `table`. -/
def merge (table other : Table κ α) : Table κ α :=
  other.entries.foldl (fun merged pair => merged.insert pair.1 pair.2) table

def ofList (pairs : List (κ × α)) : Table κ α := empty.merge ⟨pairs⟩

/-! Keys after a write: unchanged when the key was there, one longer when it was not. -/

theorem keys_write (key : κ) (value : α) (pairs : List (κ × α)) :
    (write key value pairs).map Prod.fst =
      if key ∈ pairs.map Prod.fst then pairs.map Prod.fst else pairs.map Prod.fst ++ [key] := by
  induction pairs with
  | nil => simp [write]
  | cons pair rest ih =>
      obtain ⟨k, a⟩ := pair
      by_cases hk : k = key
      · simp [write, hk]
      · have hk' : ¬key = k := fun h => hk h.symm
        simp only [write, hk, if_false, List.map_cons, ih, List.mem_cons, hk', false_or]
        split <;> simp

theorem keys_insert (table : Table κ α) (key : κ) (value : α) :
    (table.insert key value).keys =
      if key ∈ table.keys then table.keys else table.keys ++ [key] :=
  keys_write key value table.entries

theorem nodup_keys_insert {table : Table κ α} (key : κ) (value : α) (h : table.keys.Nodup) :
    (table.insert key value).keys.Nodup := by
  rw [keys_insert]
  split
  · exact h
  · rename_i hkey
    refine List.nodup_append.2 ⟨h, by simp, ?_⟩
    intro a ha b hb
    have hb' : b = key := by simpa using hb
    subst hb'
    exact fun hab => hkey (hab ▸ ha)

theorem lookup?_write (key other : κ) (value : α) (pairs : List (κ × α)) :
    lookup? other (write key value pairs) =
      if other = key then some value else lookup? other pairs := by
  induction pairs with
  | nil =>
      by_cases h : other = key
      · simp [write, lookup?, h]
      · have h' : ¬key = other := fun e => h e.symm
        simp [write, lookup?, h, h']
  | cons pair rest ih =>
      obtain ⟨k, a⟩ := pair
      by_cases hk : k = key
      · subst hk
        by_cases h : other = k
        · simp [write, lookup?, h]
        · have h' : ¬k = other := fun e => h e.symm
          simp [write, lookup?, h, h']
      · by_cases h : k = other
        · subst h
          simp [write, lookup?, hk]
        · simp only [write, hk, if_false, lookup?, h, ih]

theorem get?_insert (table : Table κ α) (key other : κ) (value : α) :
    (table.insert key value).get? other =
      if other = key then some value else table.get? other :=
  lookup?_write key other value table.entries

end Table

end Keypath
