import Mathlib.Data.List.Induction
import Mathlib.Data.List.Nodup
import Keypath.Table

/-!
What a table holds after writes and merges.
-/

namespace Keypath.Table

variable {κ α : Type} [DecidableEq κ]

theorem mem_write {key : κ} {value : α} {pair : κ × α} {pairs : List (κ × α)}
    (h : pair ∈ write key value pairs) : pair = (key, value) ∨ pair ∈ pairs := by
  induction pairs with
  | nil =>
      left
      simpa [write] using h
  | cons first rest ih =>
      obtain ⟨k, a⟩ := first
      by_cases hk : k = key
      · subst hk
        simp only [write, if_true, List.mem_cons] at h
        rcases h with h | h
        · exact .inl h
        · exact .inr (by simp [h])
      · simp only [write, hk, if_false, List.mem_cons] at h
        rcases h with h | h
        · exact .inr (by simp [h])
        · rcases ih h with h | h
          · exact .inl h
          · exact .inr (by simp [h])

theorem write_of_notMem {key : κ} {pairs : List (κ × α)} (h : key ∉ pairs.map Prod.fst)
    (value : α) : write key value pairs = pairs ++ [(key, value)] := by
  induction pairs with
  | nil => rfl
  | cons first rest ih =>
      obtain ⟨k, a⟩ := first
      simp only [List.map_cons, List.mem_cons, not_or] at h
      rw [write, if_neg (Ne.symm h.1), ih h.2, List.cons_append]

theorem map_write_of_findIdx? {β : Type} {property : α → β} {key : κ} {value : α} {place : Nat}
    {pairs : List (κ × α)} (hplace : (pairs.map Prod.fst).findIdx? (· = key) = some place)
    (hvalue : (pairs.map fun pair => property pair.2)[place]? = some (property value)) :
    (write key value pairs).map (fun pair => property pair.2) =
      pairs.map fun pair => property pair.2 := by
  induction pairs generalizing place with
  | nil => cases hplace
  | cons first rest ih =>
      obtain ⟨k, a⟩ := first
      by_cases hk : k = key
      · simp only [List.map_cons, List.findIdx?_cons, hk, decide_true, if_true,
          Option.some.injEq] at hplace
        subst hplace
        simp only [List.map_cons, List.getElem?_cons_zero, Option.some.injEq] at hvalue
        simp [write, hk, hvalue]
      · simp only [List.map_cons, List.findIdx?_cons, hk, decide_false, Bool.false_eq_true,
          if_false] at hplace
        obtain ⟨later, hlater, rfl⟩ := Option.map_eq_some_iff.1 hplace
        simp only [List.map_cons, List.getElem?_cons_succ] at hvalue
        simp only [write, hk, if_false, List.map_cons, ih hlater hvalue]

theorem mem_of_lookup? {key : κ} {value : α} {pairs : List (κ × α)}
    (h : lookup? key pairs = some value) : (key, value) ∈ pairs := by
  induction pairs with
  | nil => cases h
  | cons first rest ih =>
      obtain ⟨k, a⟩ := first
      by_cases hk : k = key
      · simp only [lookup?, hk, if_true, Option.some.injEq] at h
        simp [hk, h]
      · simp only [lookup?, hk, if_false] at h
        exact List.mem_cons_of_mem _ (ih h)

theorem mem_of_get? {table : Table κ α} {key : κ} {value : α} (h : table.get? key = some value) :
    (key, value) ∈ table.entries :=
  mem_of_lookup? h

theorem lookup?_of_mem {key : κ} {value : α} {pairs : List (κ × α)}
    (hnodup : (pairs.map Prod.fst).Nodup) (h : (key, value) ∈ pairs) :
    lookup? key pairs = some value := by
  induction pairs with
  | nil => cases h
  | cons first rest ih =>
      obtain ⟨k, a⟩ := first
      obtain ⟨hnew, hrest⟩ := List.nodup_cons.1 hnodup
      rcases List.mem_cons.1 h with heq | h
      · cases heq
        simp [lookup?]
      · have hk : k ≠ key := by
          rintro rfl
          exact hnew (List.mem_map.2 ⟨_, h, rfl⟩)
        rw [lookup?, if_neg hk]
        exact ih hrest h

theorem sizeOf_lookup? [SizeOf κ] [SizeOf α] {key : κ} {value : α} {pairs : List (κ × α)}
    (h : lookup? key pairs = some value) : sizeOf value < sizeOf pairs := by
  induction pairs with
  | nil => cases h
  | cons pair rest ih =>
      obtain ⟨k, a⟩ := pair
      rw [List.cons.sizeOf_spec, Prod.mk.sizeOf_spec]
      rw [lookup?] at h
      split at h
      · obtain rfl := Option.some.inj h
        omega
      · have hrest := ih h
        omega

theorem get?_of_entries_append {table other : Table κ α} {pairs : List (κ × α)}
    (hentries : other.entries = table.entries ++ pairs) {key : κ} {value : α}
    (h : table.get? key = some value) : other.get? key = some value := by
  obtain ⟨entries⟩ := table
  change lookup? key other.entries = some value
  rw [hentries]
  change lookup? key entries = some value at h
  clear hentries
  induction entries with
  | nil => cases h
  | cons pair rest ih =>
      obtain ⟨k, a⟩ := pair
      simp only [List.cons_append, lookup?] at h ⊢
      split at h
      case isTrue hkey => rwa [if_pos hkey]
      case isFalse hkey => rw [if_neg hkey]; exact ih h

theorem get?_isSome_iff {table : Table κ α} {key : κ} :
    (table.get? key).isSome = true ↔ key ∈ table.keys := by
  obtain ⟨pairs⟩ := table
  induction pairs with
  | nil => simp [get?, lookup?, keys]
  | cons first rest ih =>
      obtain ⟨k, a⟩ := first
      simp only [get?, keys, lookup?, List.map_cons, List.mem_cons] at ih ⊢
      by_cases hk : k = key
      · simp [hk]
      · simp [hk, ih, Ne.symm hk]

theorem getElem?_write {key : κ} {value : α} {place : Nat} {pair : κ × α} {pairs : List (κ × α)}
    (hnodup : (pairs.map Prod.fst).Nodup) (hplace : pairs[place]? = some pair) :
    (write key value pairs)[place]? = some (if pair.1 = key then (key, value) else pair) := by
  induction pairs generalizing place with
  | nil => cases hplace
  | cons first rest ih =>
      obtain ⟨k, a⟩ := first
      obtain ⟨hnew, hrest⟩ := List.nodup_cons.1 hnodup
      cases place with
      | zero =>
          obtain rfl := Option.some.inj hplace
          by_cases hk : k = key
          · simp [write, hk]
          · simp [write, hk]
      | succ place =>
          rw [List.getElem?_cons_succ] at hplace
          by_cases hk : k = key
          · -- the key stands in front, so it is not the one at this place
            have hpair : pair.1 ≠ key := by
              intro hpair
              exact hnew (List.mem_map.2 ⟨pair, List.mem_of_getElem? hplace, hpair.trans hk.symm⟩)
            rw [write, if_pos hk, List.getElem?_cons_succ, hplace, if_neg hpair]
          · rw [write, if_neg hk, List.getElem?_cons_succ, ih hrest hplace]

theorem get?_erase (table : Table κ α) (key other : κ) :
    (table.erase key).get? other = if other = key then none else table.get? other := by
  obtain ⟨pairs⟩ := table
  simp only [erase, get?]
  induction pairs with
  | nil => simp [lookup?]
  | cons first rest ih =>
      obtain ⟨k, a⟩ := first
      by_cases hk : k = key
      · subst hk
        rw [List.filter_cons_of_neg (by simp), ih, lookup?]
        split
        · rfl
        · rename_i hother
          rw [if_neg (Ne.symm hother)]
      · rw [List.filter_cons_of_pos (by simpa using hk), lookup?, lookup?, ih]
        by_cases hother : k = other
        · rw [if_pos hother, if_pos hother, if_neg (hother ▸ hk)]
        · rw [if_neg hother, if_neg hother]

theorem mem_insert {table : Table κ α} {key : κ} {value : α} {pair : κ × α}
    (h : pair ∈ (table.insert key value).entries) :
    pair = (key, value) ∨ pair ∈ table.entries :=
  mem_write h

def single (key : κ) (value : α) : Table κ α := ⟨[(key, value)]⟩

def joined (tables : List (Table κ α)) : Table κ α := tables.foldl merge ∅

theorem mem_merge {table other : Table κ α} {pair : κ × α}
    (h : pair ∈ (table.merge other).entries) : pair ∈ table.entries ∨ pair ∈ other.entries := by
  obtain ⟨pairs⟩ := other
  unfold merge at h
  induction pairs generalizing table with
  | nil => exact .inl h
  | cons first rest ih =>
      rcases ih h with h | h
      · rcases mem_insert h with rfl | h
        · exact .inr (by simp)
        · exact .inl h
      · exact .inr (List.mem_cons_of_mem _ h)

theorem mem_foldl_merge {table : Table κ α} {tables : List (Table κ α)} {pair : κ × α}
    (h : pair ∈ (tables.foldl merge table).entries) :
    pair ∈ table.entries ∨ ∃ other ∈ tables, pair ∈ other.entries := by
  induction tables generalizing table with
  | nil => exact .inl h
  | cons first rest ih =>
      rcases ih h with h | ⟨other, hother, h⟩
      · rcases mem_merge h with h | h
        · exact .inl h
        · exact .inr ⟨first, by simp, h⟩
      · exact .inr ⟨other, by simp [hother], h⟩

theorem mem_joined {tables : List (Table κ α)} {pair : κ × α}
    (h : pair ∈ (joined tables).entries) : ∃ table ∈ tables, pair ∈ table.entries := by
  rcases mem_foldl_merge h with h | h
  · cases h
  · exact h

theorem mem_keys_insert {table : Table κ α} {key other : κ} {value : α} :
    other ∈ (table.insert key value).keys ↔ other ∈ table.keys ∨ other = key := by
  rw [keys_insert]
  split
  · rename_i hkey
    constructor
    · exact .inl
    · intro hresult
      rcases hresult with h | rfl
      · exact h
      · exact hkey
  · simp

theorem mem_keys_merge {table other : Table κ α} {key : κ}
    (h : key ∈ table.keys ∨ key ∈ other.keys) : key ∈ (table.merge other).keys := by
  obtain ⟨pairs⟩ := other
  unfold merge
  induction pairs generalizing table with
  | nil => simpa [keys] using h
  | cons first rest ih =>
      apply ih
      rw [mem_keys_insert]
      simp only [keys, List.map_cons, List.mem_cons] at h ⊢
      rw [or_assoc]
      exact h

theorem mem_keys_foldl_merge {table : Table κ α} {tables : List (Table κ α)} {key : κ}
    (h : key ∈ table.keys ∨ ∃ other ∈ tables, key ∈ other.keys) :
    key ∈ (tables.foldl merge table).keys := by
  induction tables generalizing table with
  | nil => simpa using h
  | cons first rest ih =>
      apply ih
      rcases h with h | ⟨other, hother, h⟩
      · exact .inl (mem_keys_merge (.inl h))
      · rcases List.mem_cons.1 hother with rfl | hother
        · exact .inl (mem_keys_merge (.inr h))
        · exact .inr ⟨other, hother, h⟩

theorem mem_keys_joined {tables : List (Table κ α)} {table : Table κ α} {key : κ}
    (htable : table ∈ tables) (h : key ∈ table.keys) : key ∈ (joined tables).keys :=
  mem_keys_foldl_merge (.inr ⟨table, htable, h⟩)

/-! The keys of merged tables are the first occurrences of their keys. -/

theorem eraseDups_of_nodup {keys : List κ} (h : keys.Nodup) : keys.eraseDups = keys := by
  induction keys with
  | nil => rfl
  | cons key rest ih =>
      obtain ⟨hnew, hrest⟩ := List.nodup_cons.1 h
      have hall : (rest.filter fun other => !other == key) = rest := by
        refine List.filter_eq_self.2 fun other hother => ?_
        have hne : other ≠ key := fun heq => hnew (heq ▸ hother)
        simpa using hne
      rw [List.eraseDups_cons, hall, ih hrest]

theorem removeAll_congr {keys others others' : List κ} (h : ∀ key, key ∈ others ↔ key ∈ others') :
    keys.removeAll others = keys.removeAll others' := by
  refine List.filter_congr fun key _ => ?_
  simp [List.elem_eq_contains, h key]

theorem eraseDups_append_congr {first first' : List κ} (rest : List κ)
    (h : first.eraseDups = first'.eraseDups) :
    (first ++ rest).eraseDups = (first' ++ rest).eraseDups := by
  have hmem : ∀ key, key ∈ first ↔ key ∈ first' := fun key => by
    rw [← List.mem_eraseDups, h, List.mem_eraseDups]
  rw [List.eraseDups_append, List.eraseDups_append, h, removeAll_congr hmem]

theorem eraseDups_append_of_subset {keys others : List κ} (h : ∀ key ∈ others, key ∈ keys) :
    (keys ++ others).eraseDups = keys.eraseDups := by
  have hnone : others.removeAll keys = [] := by
    refine List.filter_eq_nil_iff.2 fun key hkey => ?_
    simpa [List.elem_eq_contains] using h key hkey
  rw [List.eraseDups_append, hnone, List.eraseDups_nil, List.append_nil]

theorem eraseDups_concat (keys : List κ) (key : κ) :
    (keys ++ [key]).eraseDups =
      if key ∈ keys then keys.eraseDups else keys.eraseDups ++ [key] := by
  split
  · rename_i hkey
    exact eraseDups_append_of_subset fun other hother => List.mem_singleton.1 hother ▸ hkey
  · rename_i hkey
    have hnew : [key].removeAll keys = [key] := by
      simp [List.removeAll, hkey]
    rw [List.eraseDups_append, hnew]
    rfl

theorem nodup_eraseDups (keys : List κ) : keys.eraseDups.Nodup := by
  induction keys using List.reverseRecOn with
  | nil => exact .nil
  | append_singleton keys key ih =>
      rw [eraseDups_concat]
      split
      · exact ih
      · rename_i hkey
        rw [← List.mem_eraseDups] at hkey
        refine List.nodup_append.2 ⟨ih, List.nodup_singleton _, ?_⟩
        intro other hother key' hkey' heq
        exact hkey (List.mem_singleton.1 hkey' ▸ heq ▸ hother)

omit [DecidableEq κ] in
theorem nodup_keys_empty : (∅ : Table κ α).keys.Nodup := List.nodup_nil

theorem nodup_keys_merge {table : Table κ α} (h : table.keys.Nodup) (other : Table κ α) :
    (table.merge other).keys.Nodup := by
  obtain ⟨pairs⟩ := other
  unfold merge
  induction pairs generalizing table with
  | nil => exact h
  | cons first rest ih => exact ih (nodup_keys_insert first.1 first.2 h)

theorem keys_merge {table : Table κ α} (h : table.keys.Nodup) (other : Table κ α) :
    (table.merge other).keys = (table.keys ++ other.keys).eraseDups := by
  obtain ⟨pairs⟩ := other
  unfold merge
  induction pairs generalizing table with
  | nil =>
      change table.keys = (table.keys ++ []).eraseDups
      rw [List.append_nil, eraseDups_of_nodup h]
  | cons first rest ih =>
      obtain ⟨key, value⟩ := first
      change _ = (table.keys ++ key :: (Table.mk rest).keys).eraseDups
      rw [List.append_cons, List.foldl_cons, ih (nodup_keys_insert key value h), keys_insert]
      split
      · rename_i hkey
        apply eraseDups_append_congr
        rw [eraseDups_append_of_subset (by simpa using hkey)]
      · rfl

theorem keys_foldl_merge {table : Table κ α} (h : table.keys.Nodup) (tables : List (Table κ α)) :
    (tables.foldl merge table).keys = (table.keys ++ tables.flatMap keys).eraseDups := by
  induction tables generalizing table with
  | nil => simp [eraseDups_of_nodup h]
  | cons first rest ih =>
      have hmerge : (table.merge first).keys.eraseDups = (table.keys ++ first.keys).eraseDups := by
        rw [eraseDups_of_nodup (nodup_keys_merge h first), keys_merge h]
      rw [List.foldl_cons, ih (nodup_keys_merge h first), List.flatMap_cons, ← List.append_assoc]
      exact eraseDups_append_congr _ hmerge

theorem keys_joined (tables : List (Table κ α)) :
    (joined tables).keys = (tables.flatMap keys).eraseDups :=
  keys_foldl_merge nodup_keys_empty tables

/-! Tables without a key do not change what stands under it. -/

theorem get?_merge_of_notMem {table other : Table κ α} {key : κ} (h : key ∉ other.keys) :
    (table.merge other).get? key = table.get? key := by
  obtain ⟨pairs⟩ := other
  unfold merge
  induction pairs generalizing table with
  | nil => rfl
  | cons first rest ih =>
      obtain ⟨hne, hrest⟩ : key ≠ first.1 ∧ key ∉ (Table.mk rest).keys := by
        simpa [keys] using h
      rw [List.foldl_cons, ih hrest, get?_insert, if_neg hne]

theorem get?_foldl_merge_of_notMem {table : Table κ α} {tables : List (Table κ α)} {key : κ}
    (h : ∀ other ∈ tables, key ∉ other.keys) :
    (tables.foldl merge table).get? key = table.get? key := by
  induction tables generalizing table with
  | nil => rfl
  | cons first rest ih =>
      rw [List.foldl_cons, ih fun other hother => h other (by simp [hother]),
        get?_merge_of_notMem (h first (by simp))]

/-! Merging is associative, and merging again changes nothing. -/

theorem lookup?_eq_none {key : κ} {pairs : List (κ × α)} (h : key ∉ pairs.map Prod.fst) :
    lookup? key pairs = none := by
  cases hfound : lookup? key pairs with
  | none => rfl
  | some value => exact absurd (List.mem_map_of_mem (mem_of_lookup? hfound)) h

theorem eq_of_lookup?_eq {pairs others : List (κ × α)}
    (hkeys : pairs.map Prod.fst = others.map Prod.fst) (hnodup : (pairs.map Prod.fst).Nodup)
    (h : ∀ key, lookup? key pairs = lookup? key others) : pairs = others := by
  induction pairs generalizing others with
  | nil => exact (List.map_eq_nil_iff.1 hkeys.symm).symm
  | cons first rest ih =>
      obtain ⟨key, value⟩ := first
      obtain ⟨⟨key', value'⟩, rest', rfl, hkey, hrest⟩ := List.map_eq_cons_iff.1 hkeys.symm
      obtain rfl : key' = key := hkey
      obtain ⟨hnew, hnodup⟩ := List.nodup_cons.1 hnodup
      have hvalue : value = value' := by simpa [lookup?] using h key'
      rw [hvalue, ih hrest.symm hnodup fun other => ?_]
      by_cases hother : other = key'
      · rw [hother, lookup?_eq_none hnew, lookup?_eq_none (hrest ▸ hnew)]
      · simpa [lookup?, Ne.symm hother] using h other

theorem eq_of_get?_eq {table other : Table κ α} (hnodup : table.keys.Nodup)
    (hkeys : table.keys = other.keys) (h : ∀ key, table.get? key = other.get? key) :
    table = other :=
  congrArg Table.mk (eq_of_lookup?_eq hkeys hnodup h)

theorem get?_merge (table : Table κ α) {other : Table κ α} (h : other.keys.Nodup) (key : κ) :
    (table.merge other).get? key = (other.get? key).or (table.get? key) := by
  obtain ⟨pairs⟩ := other
  unfold merge
  induction pairs generalizing table with
  | nil => rfl
  | cons first rest ih =>
      obtain ⟨hnew, hrest⟩ := List.nodup_cons.1 h
      rw [List.foldl_cons, ih _ hrest, get?_insert]
      by_cases hkey : key = first.1
      · rw [if_pos hkey, hkey]
        change (lookup? first.1 rest).or _ = (lookup? first.1 (first :: rest)).or _
        rw [lookup?_eq_none hnew]
        simp [lookup?]
      · rw [if_neg hkey]
        change _ = (lookup? key (first :: rest)).or _
        simp only [lookup?, if_neg (Ne.symm hkey)]
        rfl

theorem merge_insert {table other : Table κ α} (h : table.keys.Nodup) (hother : other.keys.Nodup)
    (key : κ) (value : α) :
    table.merge (other.insert key value) = (table.merge other).insert key value := by
  by_cases hkey : key ∈ other.keys
  · have hkeys : (other.insert key value).keys = other.keys := by rw [keys_insert, if_pos hkey]
    have hmem : key ∈ (table.merge other).keys := mem_keys_merge (.inr hkey)
    refine eq_of_get?_eq (nodup_keys_merge h _) ?_ fun wanted => ?_
    · rw [keys_insert, if_pos hmem, keys_merge h, keys_merge h, hkeys]
    · rw [get?_merge table (nodup_keys_insert key value hother), get?_insert, get?_insert,
        get?_merge table hother]
      split
      · rfl
      · rfl
  · have hentries : other.insert key value = ⟨other.entries ++ [(key, value)]⟩ :=
      congrArg Table.mk (write_of_notMem hkey value)
    rw [hentries]
    exact List.foldl_append

theorem merge_assoc {table other : Table κ α} (h : table.keys.Nodup) (hother : other.keys.Nodup)
    (last : Table κ α) : table.merge (other.merge last) = (table.merge other).merge last := by
  obtain ⟨pairs⟩ := last
  unfold merge
  induction pairs generalizing other with
  | nil => rfl
  | cons first rest ih =>
      rw [List.foldl_cons, List.foldl_cons]
      have hinsert := merge_insert h hother first.1 first.2
      unfold merge at hinsert
      rw [ih (nodup_keys_insert first.1 first.2 hother), hinsert]

theorem merge_merge_self {table other : Table κ α} (h : table.keys.Nodup)
    (hother : other.keys.Nodup) : (table.merge other).merge other = table.merge other := by
  have hmerge := nodup_keys_merge h other
  refine eq_of_get?_eq (nodup_keys_merge hmerge other) ?_ fun key => ?_
  · rw [keys_merge hmerge, eraseDups_append_of_subset fun key hkey => mem_keys_merge (.inr hkey),
      eraseDups_of_nodup hmerge]
  · rw [get?_merge _ hother, get?_merge _ hother]
    cases other.get? key with
    | none => rfl
    | some value => rfl

theorem nodup_keys_foldl_merge {table : Table κ α} (h : table.keys.Nodup)
    (tables : List (Table κ α)) : (tables.foldl merge table).keys.Nodup := by
  induction tables generalizing table with
  | nil => exact h
  | cons first rest ih => exact ih (nodup_keys_merge h first)

theorem nodup_keys_joined (tables : List (Table κ α)) : (joined tables).keys.Nodup :=
  nodup_keys_foldl_merge nodup_keys_empty tables

theorem empty_merge {table : Table κ α} (h : table.keys.Nodup) : merge ∅ table = table := by
  refine eq_of_get?_eq (nodup_keys_merge nodup_keys_empty table) ?_ fun key => ?_
  · exact (keys_merge nodup_keys_empty table).trans (eraseDups_of_nodup h)
  · exact (get?_merge ∅ h key).trans (Option.or_none)

theorem merge_joined {table : Table κ α} (h : table.keys.Nodup) (tables : List (Table κ α)) :
    table.merge (joined tables) = tables.foldl merge table := by
  have hfold : ∀ {start : Table κ α}, start.keys.Nodup →
      table.merge (tables.foldl merge start) = tables.foldl merge (table.merge start) := by
    induction tables with
    | nil => exact fun _ => rfl
    | cons first rest ih =>
        intro start hstart
        rw [List.foldl_cons, List.foldl_cons, ih (nodup_keys_merge hstart first),
          merge_assoc h hstart]
  exact hfold nodup_keys_empty

/-- What was joined may be joined once more among its own pieces. -/
theorem joined_absorbs (earlier later : List (Table κ α)) :
    joined (earlier ++ joined (earlier ++ later) :: later) = joined (earlier ++ later) := by
  have hearlier := nodup_keys_joined earlier
  have hself : earlier.foldl merge (joined earlier) = joined earlier := by
    have hmerge := merge_merge_self nodup_keys_empty hearlier
    rwa [empty_merge hearlier, merge_joined hearlier] at hmerge
  have hlater : later.foldl merge (later.foldl merge (joined earlier)) =
      later.foldl merge (joined earlier) := by
    rw [← merge_joined hearlier, ← merge_joined (nodup_keys_merge hearlier _),
      merge_merge_self hearlier (nodup_keys_joined later)]
  have hjoined : joined (earlier ++ later) = later.foldl merge (joined earlier) :=
    List.foldl_append
  change (earlier ++ joined (earlier ++ later) :: later).foldl merge ∅ = _
  rw [List.foldl_append, List.foldl_cons]
  change later.foldl merge ((joined earlier).merge _) = _
  rw [merge_joined hearlier, List.foldl_append, hself, hlater, hjoined]

theorem foldl_merge_joined {table : Table κ α} (h : table.keys.Nodup)
    (groups : List (List (Table κ α))) :
    (groups.map joined).foldl merge table = groups.flatten.foldl merge table := by
  induction groups generalizing table with
  | nil => rfl
  | cons group rest ih =>
      rw [List.map_cons, List.foldl_cons, merge_joined h, ih (nodup_keys_foldl_merge h group),
        List.flatten_cons, List.foldl_append]

theorem joined_groups (groups : List (List (Table κ α))) (rest : List (Table κ α)) :
    joined (groups.map joined ++ rest) = joined (groups.flatten ++ rest) := by
  have hgroups := foldl_merge_joined nodup_keys_empty groups
  change (groups.map joined ++ rest).foldl merge ∅ = (groups.flatten ++ rest).foldl merge ∅
  rw [List.foldl_append, List.foldl_append, hgroups]

theorem joined_filterMap_absorbs {ι : Type} {given given' : ι → Option (Table κ α)}
    {whole : Table κ α} {items : List ι}
    (hgiven : ∀ item ∈ items, given' item = given item ∨
      given item = none ∧ given' item = some whole)
    (earlier : List (Table κ α)) {later : List (Table κ α)}
    (h : joined (earlier ++ (items.filterMap given ++ later)) = whole) :
    joined (earlier ++ (items.filterMap given' ++ later)) = whole := by
  induction items generalizing earlier with
  | nil => exact h
  | cons item rest ih =>
      obtain ⟨hitem, hrest⟩ := List.forall_mem_cons.1 hgiven
      have hsame : ∀ next : Option (Table κ α),
          joined (earlier ++ (next.toList ++ (rest.filterMap given ++ later))) = whole →
          joined (earlier ++ (next.toList ++ (rest.filterMap given' ++ later))) = whole := by
        intro next hjoined
        rw [← List.append_assoc] at hjoined ⊢
        exact ih hrest _ hjoined
      have hcons (f : ι → Option (Table κ α)) :
          (item :: rest).filterMap f = (f item).toList ++ rest.filterMap f := by
        rw [List.filterMap_cons]
        cases f item <;> rfl
      rw [hcons, List.append_assoc] at h ⊢
      rcases hitem with heq | ⟨hnone, hwhole⟩
      · rw [heq]
        exact hsame _ h
      · rw [hwhole]
        refine hsame _ ?_
        rw [hnone] at h
        have habsorbs := joined_absorbs earlier (rest.filterMap given ++ later)
        rw [show joined (earlier ++ (rest.filterMap given ++ later)) = whole from h] at habsorbs
        exact habsorbs

end Keypath.Table
