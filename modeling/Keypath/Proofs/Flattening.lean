import Keypath.Suggestion
import Keypath.Proofs.Schema.Provenance

/-!
Schemas as lists of dotted paths.

Keys without dots can be read back from a path, so what stands below an entry is known by its path
alone. The suggestions below an entry stand right behind it, and from them the entries can be put
together again.
-/

namespace Keypath

open Entry (suggestionsOfEntries)

/-- The entries below an entry, in their order; a leaf has none. -/
def Entry.nested (entry : Entry) : List (String × Entry) :=
  match entry.children with
  | some children => children.entries
  | none => []

theorem Entry.sizeOf_nested_lt (entry : Entry) : sizeOf entry.nested < sizeOf entry := by
  obtain ⟨kind, elementKind, children, detail⟩ := entry
  match children with
  | none =>
      simp [nested]
      omega
  | some ⟨entries⟩ =>
      simp [nested]
      omega

/-- Induction on entries side by side: over what stands below the first, and over the others. -/
theorem entries_induction {motive : List (String × Entry) → Prop} (nil : motive [])
    (cons : ∀ key entry rest, motive entry.nested → motive rest → motive ((key, entry) :: rest)) :
    ∀ entries, motive entries
  | [] => nil
  | (key, entry) :: rest =>
      cons key entry rest (entries_induction nil cons entry.nested)
        (entries_induction nil cons rest)
termination_by entries => sizeOf entries
decreasing_by
  · have := entry.sizeOf_nested_lt
    simp only [List.cons.sizeOf_spec, Prod.mk.sizeOf_spec]
    omega
  · simp only [List.cons.sizeOf_spec, Prod.mk.sizeOf_spec]
    omega

@[simp] theorem suggestionsOfEntries_nil (base : String) : suggestionsOfEntries base [] = [] := by
  rw [suggestionsOfEntries]

@[simp] theorem suggestionsOfEntries_cons (base key : String) (entry : Entry)
    (rest : List (String × Entry)) :
    suggestionsOfEntries base ((key, entry) :: rest) =
      entry.suggestion (dotted base key) ::
        (suggestionsOfEntries (dotted base key) entry.nested ++
          suggestionsOfEntries base rest) := by
  obtain ⟨kind, elementKind, children, detail⟩ := entry
  match children with
  | none | some ⟨entries⟩ =>
      simp [suggestionsOfEntries, Entry.suggestionsAt, Entry.suggestionsOfChildren, Entry.nested]

theorem suggestionsOfEntries_append (base : String) (entries others : List (String × Entry)) :
    suggestionsOfEntries base (entries ++ others) =
      suggestionsOfEntries base entries ++ suggestionsOfEntries base others := by
  induction entries with
  | nil => simp
  | cons pair rest ih =>
      obtain ⟨key, entry⟩ := pair
      simp [ih]

theorem Entry.isLeaf_eq_false_iff {entry : Entry} {path : String} :
    (entry.suggestion path).isLeaf = false ↔ entry.nested ≠ [] := by
  obtain ⟨kind, elementKind, children, detail⟩ := entry
  match children with
  | none | some ⟨entries⟩ =>
      simp [Entry.suggestion, Entry.hasChildren, Entry.nested, Table.isEmpty]

/-! Dotted paths. -/

/-- A key that can be told from what stands around it in a dotted path. -/
def Dotless (key : String) : Prop := key ≠ "" ∧ '.' ∉ key.toList

/-- What may stand behind a key in a path: nothing, or a dot and more. -/
def Trails (tail : String) : Prop := tail = "" ∨ ∃ rest, tail = "." ++ rest

theorem dotted_empty (key : String) : dotted "" key = key := by
  rw [dotted, if_pos rfl]

theorem dotted_of_ne_empty {base : String} (h : base ≠ "") (key : String) :
    dotted base key = base ++ "." ++ key := by
  rw [dotted, if_neg h]

theorem dotted_ne_empty (base : String) {key : String} (h : key ≠ "") : dotted base key ≠ "" := by
  unfold dotted
  split
  · exact h
  · simp

theorem takeWhile_of_trails {key tail : String} (hkey : Dotless key) (htail : Trails tail) :
    (key.toList ++ tail.toList).takeWhile (· ≠ '.') = key.toList := by
  have hall : ∀ c ∈ key.toList, decide (c ≠ '.') = true := by
    intro c hc
    exact decide_eq_true fun hdot => hkey.2 (hdot ▸ hc)
  rw [List.takeWhile_append_of_pos hall]
  rcases htail with rfl | ⟨rest, rfl⟩ <;> simp

/-- Below one base, a path tells which key it starts with and what stands behind it. -/
theorem dotted_append_inj {base key other tail more : String} (hkey : Dotless key)
    (hother : Dotless other) (htail : Trails tail) (hmore : Trails more)
    (h : dotted base key ++ tail = dotted base other ++ more) : key = other ∧ tail = more := by
  have hlists : key.toList ++ tail.toList = other.toList ++ more.toList := by
    have := congrArg String.toList h
    unfold dotted at this
    split at this <;> simpa using this
  have hsame : key.toList = other.toList := by
    rw [← takeWhile_of_trails hkey htail, ← takeWhile_of_trails hother hmore, hlists]
  rw [hsame, List.append_cancel_left_eq] at hlists
  exact ⟨String.toList_injective hsame, String.toList_injective hlists⟩

def LiesBelow (path base : String) : Prop := ∃ tail, path = base ++ "." ++ tail

theorem not_liesBelow_self (path : String) : ¬LiesBelow path path := by
  rintro ⟨tail, h⟩
  have := congrArg (List.length ∘ String.toList) h
  simp at this

theorem exists_trails_foldl {base : String} (h : base ≠ "") (keys : List String) :
    ∃ tail, Trails tail ∧ keys.foldl dotted base = base ++ tail := by
  induction keys generalizing base with
  | nil => exact ⟨"", .inl rfl, by simp⟩
  | cons key rest ih =>
      have hbase : dotted base key ≠ "" := by simp [dotted_of_ne_empty h]
      obtain ⟨tail, _, htail⟩ := ih hbase
      refine ⟨"." ++ (key ++ tail), .inr ⟨_, rfl⟩, ?_⟩
      rw [List.foldl_cons, htail, dotted_of_ne_empty h]
      simp [String.append_assoc]

theorem foldl_dotted_of_ne_empty {base : String} (h : base ≠ "") (keys : List String) :
    keys.foldl dotted base = ".".intercalate (base :: keys) := by
  induction keys generalizing base with
  | nil => simp
  | cons key rest ih =>
      have hbase : base ++ "." ++ key ≠ "" := by simp
      rw [List.foldl_cons, dotted_of_ne_empty h, ih hbase, String.intercalate_cons_append,
        String.intercalate_cons_cons]

theorem foldl_dotted {keys : List String} (h : ∀ key ∈ keys, Dotless key) :
    keys.foldl dotted "" = ".".intercalate keys := by
  cases keys with
  | nil => simp
  | cons key rest =>
      rw [List.foldl_cons, dotted_empty]
      exact foldl_dotted_of_ne_empty (h key (by simp)).1 rest

/-! Schemas whose keys can be told apart. -/

/-- At every depth the keys are without dots, and entries side by side have different ones. -/
structure Schema.Plain (schema : Schema) : Prop where
  dotless : ∀ keys entry, Leads schema keys entry → ∀ key ∈ keys, Dotless key
  distinct : schema.keys.Nodup
  distinct_below : ∀ keys entry children, Leads schema keys entry →
    entry.children = some children → children.keys.Nodup

abbrev schemaOf (entries : List (String × Entry)) : Schema := ⟨entries⟩

theorem Entry.children_of_mem_nested {entry : Entry} {pair : String × Entry}
    (h : pair ∈ entry.nested) : ∃ children, entry.children = some children ∧
      entry.nested = children.entries := by
  unfold nested at h ⊢
  cases hchildren : entry.children with
  | none => simp [hchildren] at h
  | some children => exact ⟨children, rfl, rfl⟩

theorem Leads.of_nested {schema : Schema} {key : String} {keys : List String}
    {outer entry : Entry} (hkey : (key, outer) ∈ schema.entries)
    (h : Leads (schemaOf outer.nested) keys entry) : Leads schema (key :: keys) entry := by
  have hsome : ∃ pair, pair ∈ outer.nested := by
    cases h with
    | last hmem | next hmem => exact ⟨_, hmem⟩
  obtain ⟨pair, hpair⟩ := hsome
  obtain ⟨children, hchildren, hnested⟩ := Entry.children_of_mem_nested hpair
  rw [schemaOf, hnested] at h
  exact .next hkey hchildren h

theorem Leads.mono {entries others : List (String × Entry)} {keys : List String} {entry : Entry}
    (h : Leads (schemaOf entries) keys entry) (hsubset : entries ⊆ others) :
    Leads (schemaOf others) keys entry := by
  cases h with
  | last hkey => exact .last (hsubset hkey)
  | next hkey hchildren hkeys => exact .next (hsubset hkey) hchildren hkeys

theorem Leads.uncons {schema : Schema} {key : String} {keys : List String} {entry : Entry}
    (h : Leads schema (key :: keys) entry) : ∃ outer, (key, outer) ∈ schema.entries ∧
      (keys = [] ∧ entry = outer ∨ Leads (schemaOf outer.nested) keys entry) := by
  cases h with
  | last hkey => exact ⟨entry, hkey, .inl ⟨rfl, rfl⟩⟩
  | next hkey hchildren hkeys =>
      refine ⟨_, hkey, .inr ?_⟩
      rw [schemaOf, Entry.nested, hchildren]
      exact hkeys

theorem Leads.exists_head {schema : Schema} {keys : List String} {entry : Entry}
    (h : Leads schema keys entry) : ∃ pair ∈ schema.entries, ∃ rest, keys = pair.1 :: rest := by
  cases h with
  | last hkey => exact ⟨_, hkey, [], rfl⟩
  | next hkey => exact ⟨_, hkey, _, rfl⟩

theorem Leads.of_cons {key : String} {entry inner : Entry} {rest : List (String × Entry)}
    {keys : List String} (h : Leads (schemaOf ((key, entry) :: rest)) keys inner) :
    (keys = [key] ∧ inner = entry) ∨
      (∃ more, keys = key :: more ∧ Leads (schemaOf entry.nested) more inner) ∨
      Leads (schemaOf rest) keys inner := by
  obtain ⟨_, _, more, rfl⟩ := h.exists_head
  obtain ⟨outer, hmem, hmore⟩ := h.uncons
  rcases List.mem_cons.1 hmem with heq | hmem
  · obtain ⟨rfl, rfl⟩ := Prod.mk.inj heq
    rcases hmore with ⟨rfl, rfl⟩ | hmore
    · exact .inl ⟨rfl, rfl⟩
    · exact .inr (.inl ⟨more, rfl, hmore⟩)
  · rcases hmore with ⟨rfl, rfl⟩ | hmore
    · exact .inr (.inr (.last hmem))
    · exact .inr (.inr (.of_nested hmem hmore))

namespace Schema.Plain

variable {entries others : List (String × Entry)} {key : String} {entry : Entry}

theorem sublist (h : (schemaOf others).Plain) (hsub : entries.Sublist others) :
    (schemaOf entries).Plain where
  dotless keys entry hkeys := h.dotless keys entry (hkeys.mono hsub.subset)
  distinct := h.distinct.sublist (hsub.map Prod.fst)
  distinct_below keys entry children hkeys :=
    h.distinct_below keys entry children (hkeys.mono hsub.subset)

theorem nested {schema : Schema} (h : schema.Plain) (hkey : (key, entry) ∈ schema.entries) :
    (schemaOf entry.nested).Plain where
  dotless keys inner hkeys step hstep :=
    h.dotless _ inner (.of_nested hkey hkeys) step (List.mem_cons_of_mem _ hstep)
  distinct := by
    unfold Entry.nested
    cases hchildren : entry.children with
    | none => exact List.nodup_nil
    | some children => exact h.distinct_below [key] entry children (.last hkey) hchildren
  distinct_below keys inner children hkeys :=
    h.distinct_below _ inner children (.of_nested hkey hkeys)

theorem nested_of_leads {schema : Schema} (h : schema.Plain) {keys : List String}
    (hkeys : Leads schema keys entry) : (schemaOf entry.nested).Plain := by
  induction hkeys with
  | last hkey => exact h.nested hkey
  | next hkey hchildren _ ih =>
      have hinner := h.nested hkey
      rw [Entry.nested, hchildren] at hinner
      exact ih hinner

theorem dotless_of_mem {schema : Schema} (h : schema.Plain) (hkey : (key, entry) ∈ schema.entries) :
    Dotless key :=
  h.dotless [key] entry (.last hkey) key (List.mem_singleton_self key)

theorem path_ne_empty {schema : Schema} (h : schema.Plain) {keys : List String}
    (hkeys : Leads schema keys entry) (base : String) : keys.foldl dotted base ≠ "" := by
  obtain ⟨pair, hpair, rest, rfl⟩ := hkeys.exists_head
  have hfilled := dotted_ne_empty base (h.dotless_of_mem hpair).1
  obtain ⟨tail, _, htail⟩ := exists_trails_foldl hfilled rest
  rw [List.foldl_cons, htail]
  simp [hfilled]

theorem empty : (schemaOf []).Plain where
  dotless _ _ hkeys := by cases hkeys <;> contradiction
  distinct := List.nodup_nil
  distinct_below _ _ _ hkeys := by cases hkeys <;> contradiction

theorem cons {rest : List (String × Entry)} (hkey : Dotless key) (hnew : key ∉ rest.map Prod.fst)
    (hnested : (schemaOf entry.nested).Plain) (hrest : (schemaOf rest).Plain) :
    (schemaOf ((key, entry) :: rest)).Plain where
  dotless keys inner hkeys := by
    rcases hkeys.of_cons with ⟨rfl, _⟩ | ⟨more, rfl, hmore⟩ | hmore
    · simpa using hkey
    · exact List.forall_mem_cons.2 ⟨hkey, hnested.dotless _ _ hmore⟩
    · exact hrest.dotless _ _ hmore
  distinct := List.nodup_cons.2 ⟨hnew, hrest.distinct⟩
  distinct_below keys inner children hkeys hchildren := by
    rcases hkeys.of_cons with ⟨_, rfl⟩ | ⟨more, _, hmore⟩ | hmore
    · have := hnested.distinct
      rwa [Entry.nested, hchildren] at this
    · exact hnested.distinct_below _ _ _ hmore hchildren
    · exact hrest.distinct_below _ _ _ hmore hchildren

theorem liesBelow_of_leads {schema : Schema} (h : schema.Plain) {keys : List String}
    (hkeys : Leads schema keys entry) {base : String} (hbase : base ≠ "") :
    LiesBelow (keys.foldl dotted base) base := by
  obtain ⟨pair, hpair, rest, rfl⟩ := hkeys.exists_head
  obtain ⟨tail, _, htail⟩ :=
    exists_trails_foldl (dotted_ne_empty base (h.dotless_of_mem hpair).1) rest
  exact ⟨pair.1 ++ tail, by
    rw [List.foldl_cons, htail, dotted_of_ne_empty hbase, String.append_assoc]⟩

theorem key_ne {earlier later : List (String × Entry)}
    (h : (schemaOf (earlier ++ (key, entry) :: later)).Plain) {pair : String × Entry}
    (hpair : pair ∈ earlier ++ later) : pair.1 ≠ key := by
  have hdistinct := h.distinct
  rw [Table.keys, List.map_append, List.map_cons, List.nodup_middle, List.nodup_cons,
    ← List.map_append] at hdistinct
  exact fun heq => hdistinct.1 (List.mem_map.2 ⟨pair, hpair, heq⟩)

theorem key_ne_of_cons {rest : List (String × Entry)}
    (h : (schemaOf ((key, entry) :: rest)).Plain) : ∀ pair ∈ rest, pair.1 ≠ key := by
  have hfirst : (schemaOf ([] ++ (key, entry) :: rest)).Plain := h
  exact fun pair hpair => hfirst.key_ne hpair

theorem head {rest : List (String × Entry)} (h : (schemaOf ((key, entry) :: rest)).Plain) :
    (schemaOf entry.nested).Plain :=
  h.nested List.mem_cons_self

theorem tail {rest : List (String × Entry)} (h : (schemaOf ((key, entry) :: rest)).Plain) :
    (schemaOf rest).Plain :=
  h.sublist (List.sublist_cons_self _ _)

end Schema.Plain

section Suggestions

variable {base : String} {entries : List (String × Entry)} {suggestion : Suggestion}

theorem exists_leads_of_mem (h : suggestion ∈ suggestionsOfEntries base entries) :
    ∃ keys entry, Leads (schemaOf entries) keys entry ∧
      suggestion = entry.suggestion (keys.foldl dotted base) := by
  induction entries using entries_induction generalizing base with
  | nil => simp at h
  | cons key entry rest ihNested ihRest =>
      rw [suggestionsOfEntries_cons, List.mem_cons, List.mem_append] at h
      rcases h with rfl | h | h
      · exact ⟨[key], entry, .last List.mem_cons_self, rfl⟩
      · obtain ⟨keys, inner, hkeys, rfl⟩ := ihNested h
        exact ⟨key :: keys, inner, .of_nested List.mem_cons_self hkeys, rfl⟩
      · obtain ⟨keys, inner, hkeys, rfl⟩ := ihRest h
        exact ⟨keys, inner, hkeys.mono (List.subset_cons_self _ _), rfl⟩

theorem exists_key_of_mem (hplain : (schemaOf entries).Plain)
    (h : suggestion ∈ suggestionsOfEntries base entries) :
    ∃ pair ∈ entries, ∃ tail, Trails tail ∧ suggestion.path = dotted base pair.1 ++ tail := by
  obtain ⟨keys, entry, hkeys, rfl⟩ := exists_leads_of_mem h
  obtain ⟨pair, hpair, rest, rfl⟩ := hkeys.exists_head
  have hkey := hplain.dotless_of_mem hpair
  obtain ⟨tail, htrails, htail⟩ := exists_trails_foldl (dotted_ne_empty base hkey.1) rest
  exact ⟨pair, hpair, tail, htrails, htail⟩

theorem liesBelow_of_mem (hplain : (schemaOf entries).Plain) (hbase : base ≠ "")
    (h : suggestion ∈ suggestionsOfEntries base entries) : LiesBelow suggestion.path base := by
  obtain ⟨keys, entry, hkeys, rfl⟩ := exists_leads_of_mem h
  exact hplain.liesBelow_of_leads hkeys hbase

/-- No suggestion of other entries has a path that begins with the key. -/
theorem path_ne_of_mem {key tail : String} (hplain : (schemaOf entries).Plain)
    (hkey : Dotless key) (hother : ∀ pair ∈ entries, pair.1 ≠ key) (htail : Trails tail)
    (h : suggestion ∈ suggestionsOfEntries base entries) :
    suggestion.path ≠ dotted base key ++ tail := by
  obtain ⟨pair, hpair, more, hmore, hpath⟩ := exists_key_of_mem hplain h
  intro heq
  exact hother pair hpair
    (dotted_append_inj (hplain.dotless_of_mem hpair) hkey hmore htail (hpath.symm.trans heq)).1

theorem not_liesBelow_of_mem {key tail : String} (hplain : (schemaOf entries).Plain)
    (hkey : Dotless key) (hother : ∀ pair ∈ entries, pair.1 ≠ key) (htail : Trails tail)
    (h : suggestion ∈ suggestionsOfEntries base entries) :
    ¬LiesBelow suggestion.path (dotted base key ++ tail) := by
  rintro ⟨rest, hpath⟩
  have htrails : Trails (tail ++ "." ++ rest) := by
    rcases htail with rfl | ⟨more, rfl⟩
    · exact .inr ⟨rest, by simp⟩
    · exact .inr ⟨more ++ "." ++ rest, by simp [String.append_assoc]⟩
  exact path_ne_of_mem hplain hkey hother htrails h
    (by rw [hpath, String.append_assoc, String.append_assoc, String.append_assoc])

theorem liesBelow_of_cons {key : String} {entry : Entry} {rest : List (String × Entry)}
    (hplain : (schemaOf ((key, entry) :: rest)).Plain) (base : String) :
    ∀ inner ∈ suggestionsOfEntries (dotted base key) entry.nested,
      LiesBelow inner.path (dotted base key) := fun _ hinner =>
  have hkey : Dotless key := hplain.dotless_of_mem List.mem_cons_self
  liesBelow_of_mem hplain.head (dotted_ne_empty base hkey.1) hinner

theorem not_liesBelow_of_cons {key : String} {entry : Entry} {rest : List (String × Entry)}
    (hplain : (schemaOf ((key, entry) :: rest)).Plain) (base : String) :
    ∀ other ∈ suggestionsOfEntries base rest, ¬LiesBelow other.path (dotted base key) := by
  intro other hother
  have hkey : Dotless key := hplain.dotless_of_mem List.mem_cons_self
  simpa using not_liesBelow_of_mem hplain.tail hkey hplain.key_ne_of_cons (.inl rfl) hother

theorem nodup_paths (hplain : (schemaOf entries).Plain) :
    ((suggestionsOfEntries base entries).map Suggestion.path).Nodup := by
  induction entries using entries_induction generalizing base with
  | nil => simp
  | cons key entry rest ihNested ihRest =>
      have hkey : Dotless key := hplain.dotless_of_mem List.mem_cons_self
      have hbelow := liesBelow_of_cons hplain base
      have hapart : ∀ other ∈ suggestionsOfEntries base rest, ∀ tail, Trails tail →
          other.path ≠ dotted base key ++ tail := fun other hother tail htail =>
        path_ne_of_mem hplain.tail hkey hplain.key_ne_of_cons htail hother
      rw [suggestionsOfEntries_cons, List.map_cons, List.map_append, List.nodup_cons,
        List.nodup_append]
      refine ⟨?_, ihNested hplain.head, ihRest hplain.tail, ?_⟩
      · rw [List.mem_append, List.mem_map, List.mem_map]
        rintro (⟨inner, hinner, heq⟩ | ⟨other, hother, heq⟩)
        · exact not_liesBelow_self _ (heq ▸ hbelow inner hinner)
        · exact hapart other hother "" (.inl rfl) (heq.trans (by simp [Entry.suggestion]))
      · simp only [List.mem_map]
        rintro _ ⟨inner, hinner, rfl⟩ _ ⟨other, hother, rfl⟩ heq
        obtain ⟨tail, htail⟩ := hbelow inner hinner
        exact hapart other hother ("." ++ tail) (.inr ⟨tail, rfl⟩)
          (by rw [← heq, htail, String.append_assoc])

/-- Only one chain of keys leads along a path, and to one entry. -/
theorem leads_unique {schema : Schema} (hplain : schema.Plain) {keys others : List String}
    {entry other : Entry} (h : Leads schema keys entry) (hother : Leads schema others other)
    (hpath : keys.foldl dotted base = others.foldl dotted base) :
    keys = others ∧ entry = other := by
  induction keys generalizing schema base others with
  | nil => cases h
  | cons key rest ih =>
      obtain ⟨⟨key', _⟩, _, rest', rfl⟩ := hother.exists_head
      obtain ⟨outer, hkey, hrest⟩ := h.uncons
      obtain ⟨twin, htwin, hrest'⟩ := hother.uncons
      have hdotless := hplain.dotless_of_mem hkey
      have hdotless' := hplain.dotless_of_mem htwin
      have hfilled := dotted_ne_empty base hdotless.1
      obtain ⟨tail, htail, hsplit⟩ := exists_trails_foldl hfilled rest
      obtain ⟨tail', htail', hsplit'⟩ :=
        exists_trails_foldl (dotted_ne_empty base hdotless'.1) rest'
      rw [List.foldl_cons, List.foldl_cons] at hpath
      obtain ⟨rfl, rfl⟩ := dotted_append_inj hdotless hdotless' htail htail'
        (hsplit.symm.trans (hpath.trans hsplit'))
      obtain rfl : outer = twin := Option.some.inj
        ((Table.lookup?_of_mem hplain.distinct hkey).symm.trans
          (Table.lookup?_of_mem hplain.distinct htwin))
      rcases hrest with ⟨rfl, rfl⟩ | hrest <;> rcases hrest' with ⟨rfl, rfl⟩ | hrest'
      · exact ⟨rfl, rfl⟩
      · exact absurd (hpath ▸ (hplain.nested hkey).liesBelow_of_leads hrest' hfilled)
          (not_liesBelow_self _)
      · exact absurd (hpath ▸ (hplain.nested hkey).liesBelow_of_leads hrest hfilled)
          (not_liesBelow_self _)
      · obtain ⟨rfl, rfl⟩ := ih (hplain.nested hkey) hrest hrest' hpath
        exact ⟨rfl, rfl⟩

/-- What stands around one of the entries and what stands below it, and that nothing around it has a
path that begins with its key and goes on. -/
theorem exists_around {schema : Schema} (hplain : schema.Plain) {key : String} {entry : Entry}
    (hkey : (key, entry) ∈ schema.entries) (base : String) :
    ∃ before after, suggestionsOfEntries base schema.entries =
        before ++ entry.suggestion (dotted base key) ::
          (suggestionsOfEntries (dotted base key) entry.nested ++ after) ∧
      ∀ tail, Trails tail → ∀ other ∈ before ++ after,
        ¬LiesBelow other.path (dotted base key ++ tail) := by
  obtain ⟨earlier, later, hentries⟩ := List.append_of_mem hkey
  have hsplit : (schemaOf (earlier ++ (key, entry) :: later)).Plain := hentries ▸ hplain
  have hothers := hsplit.sublist
    ((List.Sublist.refl earlier).append (List.sublist_cons_self (key, entry) later))
  refine ⟨suggestionsOfEntries base earlier, suggestionsOfEntries base later, ?_, ?_⟩
  · rw [hentries, suggestionsOfEntries_append, suggestionsOfEntries_cons]
  · rw [← suggestionsOfEntries_append]
    intro tail htail other hother
    exact not_liesBelow_of_mem hothers (hplain.dotless_of_mem hkey) (fun _ => hsplit.key_ne)
      htail hother

/-- The suggestions below an entry stand right behind it and nowhere else. -/
theorem exists_split {schema : Schema} (hplain : schema.Plain) {keys : List String} {entry : Entry}
    (h : Leads schema keys entry) (base : String) :
    ∃ before after, suggestionsOfEntries base schema.entries =
        before ++ entry.suggestion (keys.foldl dotted base) ::
          (suggestionsOfEntries (keys.foldl dotted base) entry.nested ++ after) ∧
      ∀ other ∈ before ++ after, ¬LiesBelow other.path (keys.foldl dotted base) := by
  induction h generalizing base with
  | last hkey =>
      obtain ⟨before, after, hsplit, hout⟩ := exists_around hplain hkey base
      exact ⟨before, after, hsplit, by simpa using hout "" (.inl rfl)⟩
  | @next schema children key keys outer entry hkey hchildren hkeys ih =>
      have hnested : outer.nested = children.entries := by simp [Entry.nested, hchildren]
      have hinner : children.Plain := by simpa [schemaOf, hnested] using hplain.nested hkey
      have hfilled := dotted_ne_empty base (hplain.dotless_of_mem hkey).1
      obtain ⟨tail, htrails, hpath⟩ := exists_trails_foldl hfilled keys
      obtain ⟨before, after, hsplit, hout⟩ := exists_around hplain hkey base
      obtain ⟨before', after', hsplit', hout'⟩ := ih hinner (dotted base key)
      refine ⟨before ++ outer.suggestion (dotted base key) :: before', after' ++ after, ?_, ?_⟩
      · rw [hsplit, hnested, hsplit']
        simp
      · intro other hother
        have hcases : other ∈ before ++ after ∨ other = outer.suggestion (dotted base key) ∨
            other ∈ before' ++ after' := by
          simp only [List.mem_append, List.mem_cons] at hother ⊢
          tauto
        rcases hcases with hother | rfl | hother
        · rw [List.foldl_cons, hpath]
          exact hout tail htrails other hother
        · -- the entry itself has a shorter path
          rintro ⟨rest, hlonger⟩
          rw [List.foldl_cons, hpath] at hlonger
          have := congrArg (List.length ∘ String.toList) hlonger
          simp [Entry.suggestion] at this
        · exact hout' other hother

theorem sublist_suggestionsOfEntries (base : String) (entries : List (String × Entry)) :
    (entries.map fun pair => pair.2.suggestion (dotted base pair.1)).Sublist
      (suggestionsOfEntries base entries) := by
  induction entries with
  | nil => simp
  | cons pair rest ih =>
      obtain ⟨key, entry⟩ := pair
      rw [suggestionsOfEntries_cons, List.map_cons]
      exact (ih.trans (List.sublist_append_right _ _)).cons_cons _

/-! What stands below an entry shows in the suggestion behind it. -/

theorem isLeaf_eq_false_iff_liesBelow {schema : Schema} (hplain : schema.Plain) {place : Nat}
    (h : (schema.suggestions "")[place]? = some suggestion) :
    suggestion.isLeaf = false ↔ ∃ next, (schema.suggestions "")[place + 1]? = some next ∧
      LiesBelow next.path suggestion.path := by
  obtain ⟨keys, entry, hkeys, rfl⟩ := exists_leads_of_mem (List.mem_of_getElem? h)
  obtain ⟨before, after, hsplit, hout⟩ := exists_split hplain hkeys ""
  have hbelow : ∀ inner ∈ suggestionsOfEntries (keys.foldl dotted "") entry.nested,
      LiesBelow inner.path (keys.foldl dotted "") := fun inner hinner =>
    liesBelow_of_mem (hplain.nested_of_leads hkeys) (hplain.path_ne_empty hkeys "") hinner
  have hplace : place = before.length := by
    have hnodup : (schema.suggestions "").Nodup := .of_map _ (nodup_paths hplain)
    refine (List.getElem?_inj (List.getElem?_eq_some_iff.1 h).1 hnodup).1 (h.trans ?_)
    rw [Schema.suggestions, hsplit]
    simp
  have hnext : (schema.suggestions "")[place + 1]? =
      (suggestionsOfEntries (keys.foldl dotted "") entry.nested ++ after).head? := by
    rw [hplace, Schema.suggestions, hsplit, List.getElem?_append_right (by omega)]
    simp [List.head?_eq_getElem?]
  rw [Entry.isLeaf_eq_false_iff, hnext]
  cases hnested : entry.nested with
  | nil =>
      simp only [ne_eq, not_true_eq_false, suggestionsOfEntries_nil, List.nil_append, false_iff]
      rintro ⟨next, hfirst, hlies⟩
      exact hout next (List.mem_append_right _ (List.mem_of_mem_head? hfirst)) hlies
  | cons pair rest =>
      obtain ⟨key, inner⟩ := pair
      rw [hnested, suggestionsOfEntries_cons] at hbelow
      simp only [ne_eq, reduceCtorEq, not_false_eq_true, suggestionsOfEntries_cons, true_iff]
      exact ⟨_, rfl, hbelow _ List.mem_cons_self⟩

end Suggestions

/-! Paths below a base. -/

def Suggestion.under (base : String) (suggestion : Suggestion) : Suggestion :=
  { suggestion with path := base ++ "." ++ suggestion.path }

theorem suggestionsOfEntries_under_dotted (base : String) {inner : String} (h : inner ≠ "")
    (entries : List (String × Entry)) :
    suggestionsOfEntries (base ++ "." ++ inner) entries =
      (suggestionsOfEntries inner entries).map (Suggestion.under base) := by
  induction entries using entries_induction generalizing inner with
  | nil => simp
  | cons key entry rest ihNested ihRest =>
      have hkey : dotted (base ++ "." ++ inner) key = base ++ "." ++ dotted inner key := by
        rw [dotted_of_ne_empty (by simp), dotted_of_ne_empty h]
        simp [String.append_assoc]
      have hinner : dotted inner key ≠ "" := by simp [dotted_of_ne_empty h]
      rw [suggestionsOfEntries_cons, suggestionsOfEntries_cons, List.map_cons, List.map_append,
        hkey, ihNested hinner, ihRest h]
      rfl

theorem suggestionsOfEntries_under {base : String} (h : base ≠ "")
    {entries : List (String × Entry)} (hkeys : ∀ pair ∈ entries, pair.1 ≠ "") :
    suggestionsOfEntries base entries =
      (suggestionsOfEntries "" entries).map (Suggestion.under base) := by
  induction entries with
  | nil => simp
  | cons pair rest ih =>
      obtain ⟨key, entry⟩ := pair
      obtain ⟨hkey, hrest⟩ := List.forall_mem_cons.1 hkeys
      rw [suggestionsOfEntries_cons, suggestionsOfEntries_cons, List.map_cons, List.map_append,
        dotted_empty, dotted_of_ne_empty h, suggestionsOfEntries_under_dotted base hkey, ih hrest]
      rfl

/-! Putting the entries together again. -/

/-- Entries with the same keys in the same order, of the same kinds and details, and so at every
depth. The kinds of elements may differ, and no children may stand for an empty table of them. -/
inductive EntriesAlike : List (String × Entry) → List (String × Entry) → Prop where
  | nil : EntriesAlike [] []
  | cons {key : String} {entry twin : Entry} {rest others : List (String × Entry)}
      (hkind : entry.kind = twin.kind) (hdetail : entry.detail = twin.detail)
      (hnested : EntriesAlike entry.nested twin.nested) (hrest : EntriesAlike rest others) :
      EntriesAlike ((key, entry) :: rest) ((key, twin) :: others)

theorem EntriesAlike.eq_nil_iff {entries others : List (String × Entry)}
    (h : EntriesAlike entries others) : entries = [] ↔ others = [] := by
  cases h <;> simp

theorem EntriesAlike.suggestions_eq {entries others : List (String × Entry)}
    (h : EntriesAlike entries others) (base : String) :
    suggestionsOfEntries base entries = suggestionsOfEntries base others := by
  induction h generalizing base with
  | nil => rfl
  | @cons key entry twin rest others hkind hdetail hnested _ ihNested ihRest =>
      have hleaf : (entry.suggestion (dotted base key)).isLeaf =
          (twin.suggestion (dotted base key)).isLeaf := by
        rw [Bool.eq_iff_iff, ← not_iff_not, Bool.not_eq_true, Bool.not_eq_true,
          Entry.isLeaf_eq_false_iff, Entry.isLeaf_eq_false_iff, ne_eq, ne_eq, hnested.eq_nil_iff]
      have hfirst : entry.suggestion (dotted base key) = twin.suggestion (dotted base key) := by
        simp only [Entry.suggestion, Suggestion.mk.injEq, true_and] at hleaf ⊢
        exact ⟨hleaf, hkind, hdetail⟩
      rw [suggestionsOfEntries_cons, suggestionsOfEntries_cons, hfirst, ihNested, ihRest]

theorem append_inj_of_forall {α : Type} {P : α → Prop} {front back front' back' : List α}
    (hfront : ∀ x ∈ front, P x) (hback : ∀ x ∈ back, ¬P x) (hfront' : ∀ x ∈ front', P x)
    (hback' : ∀ x ∈ back', ¬P x) (h : front ++ back = front' ++ back') :
    front = front' ∧ back = back' := by
  classical
  have hpart : ∀ {front back : List α}, (∀ x ∈ front, P x) → (∀ x ∈ back, ¬P x) →
      (front ++ back).filter (fun x => P x) = front := by
    intro front back hfront hback
    rw [List.filter_append, List.filter_eq_self.2 (by simpa using hfront),
      List.filter_eq_nil_iff.2 (by simpa using hback), List.append_nil]
  have hsame : front = front' := by rw [← hpart hfront hback, h, hpart hfront' hback']
  exact ⟨hsame, List.append_cancel_left (hsame ▸ h)⟩

theorem entriesAlike_of_suggestions_eq {base : String} {entries others : List (String × Entry)}
    (hplain : (schemaOf entries).Plain) (hothers : (schemaOf others).Plain)
    (h : suggestionsOfEntries base entries = suggestionsOfEntries base others) :
    EntriesAlike entries others := by
  induction entries using entries_induction generalizing base others with
  | nil =>
      cases others with
      | nil => exact .nil
      | cons pair _ => simp [suggestionsOfEntries_cons base pair.1 pair.2] at h
  | cons key entry rest ihNested ihRest =>
      cases others with
      | nil => simp at h
      | cons pair others =>
          obtain ⟨other, twin⟩ := pair
          rw [suggestionsOfEntries_cons, suggestionsOfEntries_cons] at h
          obtain ⟨hfirst, hafter⟩ := List.cons.inj h
          obtain ⟨hpath, _, hkind, hdetail⟩ := Suggestion.mk.inj hfirst
          obtain ⟨rfl, _⟩ := dotted_append_inj (hplain.dotless_of_mem List.mem_cons_self)
            (hothers.dotless_of_mem List.mem_cons_self) (.inl rfl) (.inl rfl)
            (congrArg (· ++ "") hpath)
          -- the suggestions below the first entry end where they no longer lie below its path
          obtain ⟨hnested, hrest⟩ := append_inj_of_forall (liesBelow_of_cons hplain base)
            (not_liesBelow_of_cons hplain base) (liesBelow_of_cons hothers base)
            (not_liesBelow_of_cons hothers base) hafter
          exact .cons hkind hdetail (ihNested hplain.head hothers.head hnested)
            (ihRest hplain.tail hothers.tail hrest)

/-- Every entry is listed once, in front of all that stands below it, and entries side by side are
listed in their order. -/
structure Schema.ListedBy (schema : Schema) (suggestions : List Suggestion) : Prop where
  mem_iff : ∀ suggestion, suggestion ∈ suggestions ↔ ∃ keys entry, Leads schema keys entry ∧
    suggestion = entry.suggestion (".".intercalate keys)
  unique : ∀ keys entry others other, Leads schema keys entry → Leads schema others other →
    ".".intercalate keys = ".".intercalate others → keys = others ∧ entry = other
  nodup : (suggestions.map Suggestion.path).Nodup
  block : ∀ keys entry, Leads schema keys entry → ∃ before after,
    suggestions = before ++ entry.suggestion (".".intercalate keys) ::
      ((schemaOf entry.nested).suggestions (".".intercalate keys) ++ after) ∧
    (∀ inner ∈ (schemaOf entry.nested).suggestions (".".intercalate keys),
      LiesBelow inner.path (".".intercalate keys)) ∧
    ∀ other ∈ before ++ after, ¬LiesBelow other.path (".".intercalate keys)
  inOrder : (schema.entries.map fun pair => pair.2.suggestion pair.1).Sublist suggestions
  inOrder_below : ∀ keys entry, Leads schema keys entry →
    (entry.nested.map fun pair =>
      pair.2.suggestion (".".intercalate keys ++ "." ++ pair.1)).Sublist suggestions

namespace Schema.Plain

variable {schema : Schema} {keys : List String} {entry : Entry}

theorem path_eq (hplain : schema.Plain) (hkeys : Leads schema keys entry) :
    keys.foldl dotted "" = ".".intercalate keys :=
  foldl_dotted (hplain.dotless _ _ hkeys)

theorem intercalate_ne_empty (hplain : schema.Plain) (hkeys : Leads schema keys entry) :
    ".".intercalate keys ≠ "" :=
  hplain.path_eq hkeys ▸ hplain.path_ne_empty hkeys ""

theorem exists_block (hplain : schema.Plain) (hkeys : Leads schema keys entry) :
    ∃ before after, schema.suggestions "" =
        before ++ entry.suggestion (".".intercalate keys) ::
          ((schemaOf entry.nested).suggestions (".".intercalate keys) ++ after) ∧
      ∀ other ∈ before ++ after, ¬LiesBelow other.path (".".intercalate keys) := by
  rw [← hplain.path_eq hkeys]
  exact exists_split hplain hkeys ""

end Schema.Plain

theorem listedBy_suggestions {schema : Schema} (hplain : schema.Plain) :
    schema.ListedBy (schema.suggestions "") where
  mem_iff suggestion := by
    constructor
    · intro h
      obtain ⟨keys, entry, hkeys, rfl⟩ := exists_leads_of_mem h
      exact ⟨keys, entry, hkeys, by rw [hplain.path_eq hkeys]⟩
    · rintro ⟨keys, entry, hkeys, rfl⟩
      obtain ⟨before, after, hsplit, _⟩ := hplain.exists_block hkeys
      rw [hsplit]
      exact List.mem_append_right _ List.mem_cons_self
  unique keys entry others other hkeys hother heq := by
    rw [← hplain.path_eq hkeys, ← hplain.path_eq hother] at heq
    exact leads_unique hplain hkeys hother heq
  nodup := nodup_paths hplain
  block keys entry hkeys := by
    obtain ⟨before, after, hsplit, hout⟩ := hplain.exists_block hkeys
    refine ⟨before, after, hsplit, fun inner hinner => ?_, hout⟩
    exact liesBelow_of_mem (hplain.nested_of_leads hkeys) (hplain.intercalate_ne_empty hkeys)
      hinner
  inOrder := by
    have hsub := sublist_suggestionsOfEntries "" schema.entries
    simp only [dotted_empty] at hsub
    exact hsub
  inOrder_below keys entry hkeys := by
    obtain ⟨before, after, hsplit, _⟩ := hplain.exists_block hkeys
    have hsub := sublist_suggestionsOfEntries (".".intercalate keys) entry.nested
    simp only [dotted_of_ne_empty (hplain.intercalate_ne_empty hkeys)] at hsub
    rw [hsplit]
    refine (hsub.trans ?_).trans (List.sublist_append_right _ _)
    exact (List.sublist_append_left _ _).cons _

/-- The suggestions of a schema list its entries, and tell them: which ones have entries below,
where they stand below a base, and up to the kinds of elements the whole schema. -/
theorem suggestions_faithful {schema : Schema} (hplain : schema.Plain) :
    schema.ListedBy (schema.suggestions "") ∧
    (∀ place suggestion, (schema.suggestions "")[place]? = some suggestion →
      (suggestion.isLeaf = false ↔ ∃ next, (schema.suggestions "")[place + 1]? = some next ∧
        LiesBelow next.path suggestion.path)) ∧
    (∀ base, base ≠ "" → schema.suggestions base =
      (schema.suggestions "").map (Suggestion.under base)) ∧
    ∀ other : Schema, other.Plain →
      (schema.suggestions "" = other.suggestions "" ↔
        EntriesAlike schema.entries other.entries) :=
  ⟨listedBy_suggestions hplain, fun _ _ => isLeaf_eq_false_iff_liesBelow hplain,
    fun _ hbase => suggestionsOfEntries_under hbase fun _ hpair => (hplain.dotless_of_mem hpair).1,
    fun _ hother => ⟨entriesAlike_of_suggestions_eq hplain hother, fun h => h.suggestions_eq ""⟩⟩

/-- `a` with two keys below it, and a key that `a` begins. -/
def twoLevels (elementKind : Option TypeKind) (children : Option Schema) : Schema :=
  let list : Entry := ⟨some .array, elementKind, none, some "string[]"⟩
  let literal : Entry := ⟨some .objectLiteral, none, children, none⟩
  ⟨[("a", ⟨some .reference, none, some ⟨[("ab", list), ("b", literal)]⟩, some "A"⟩),
    ("ab", ⟨none, none, none, none⟩)]⟩

theorem plain_twoLevels (elementKind : Option TypeKind) {children : Option Schema}
    (h : children = none ∨ children = some .empty) : (twoLevels elementKind children).Plain := by
  have hkey : ∀ key ∈ ["a", "ab", "b"], Dotless key := by simp [Dotless]
  have hliteral : (schemaOf (Entry.nested ⟨some .objectLiteral, none, children, none⟩)).Plain := by
    rcases h with rfl | rfl <;> exact .empty
  refine .cons (hkey _ (by simp)) (by simp) (.cons (hkey _ (by simp)) (by simp) .empty ?_) ?_
  · exact .cons (hkey _ (by simp)) (by simp) hliteral .empty
  · exact .cons (hkey _ (by simp)) (by simp) .empty .empty

theorem suggestions_faithful_twoLevels :
    let schema := twoLevels (some .primitive) none
    let other := twoLevels none (some .empty)
    schema.Plain ∧ other.Plain ∧
      (schema.suggestions "").map Suggestion.path = ["a", "a.ab", "a.b", "ab"] ∧
      schema.ListedBy (schema.suggestions "") ∧
      schema.suggestions "p" = (schema.suggestions "").map (Suggestion.under "p") ∧
      EntriesAlike schema.entries other.entries := by
  intro schema other
  have hplain : schema.Plain := plain_twoLevels _ (.inl rfl)
  have hother : other.Plain := plain_twoLevels _ (.inr rfl)
  obtain ⟨hlisted, _, hunder, halike⟩ := suggestions_faithful hplain
  exact ⟨hplain, hother, by decide +kernel, hlisted, hunder "p" (by decide),
    (halike other hother).1 (by decide +kernel)⟩

end Keypath
