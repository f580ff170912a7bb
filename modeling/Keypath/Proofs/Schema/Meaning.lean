import Keypath.Proofs.Schema.Induction
import Keypath.Proofs.Outline

/-!
The meaning of a node, and that expansions give it.

`meaning` is plain recursion along references: no record, no declarations under way. It is defined
where references lead nowhere in a circle. There an expansion gives the meaning whatever was
expanded before, because every record of such a declaration is its meaning and nothing that is under
way can be reached from it.
-/

namespace Keypath

open Keypath.Tree

section Meaning

variable (lookup : Lookup) (meaning : Site → Schema)

def entryMeaning (property : Site) : Entry :=
  match property.writtenType? with
  | none => ⟨none, none, none, none⟩
  | some written =>
      if written.typeKind = .reference then
        match (lookup property).sites with
        | [] => ⟨none, none, none, some written.text⟩
        | declarations =>
            ⟨some .reference, none, some (.joined (declarations.map meaning)), some written.text⟩
      else
        ⟨some written.typeKind, written.elementKind?,
          if written.bare.has .typeLiteral then some (meaning written.bare) else none,
          some written.text⟩

/-- The schemas that one shape of a node stands for, in the order they are merged. -/
def shapeMeaning (site : Site) : Shape → List Schema
  | .interface => (site.heritageEntries ++ site.members).map meaning
  | .property =>
      site.propertyName?.toList.map fun name => .single name (entryMeaning lookup meaning site)
  | .importing | .heritage => (lookup site).sites.map meaning
  | .typeLiteral => site.members.map meaning
  | .typeAlias => site.aliasLiteral?.toList.map meaning
  | .arrayType => []

def meaningWith (site : Site) : Schema :=
  .joined (Site.contributing.flatMap fun shape =>
    if site.has shape then shapeMeaning lookup meaning site shape else [])

end Meaning

open Classical in
/-- The meaning of a node from which references lead nowhere in a circle. -/
noncomputable def meaning (lookup : Lookup) (site : Site) : Schema :=
  if acyclic : Acyclic lookup site then
    Acc.rec (motive := fun _ _ => Schema)
      (fun site _ before => meaningWith lookup (fun next =>
        if refers : Site.Refers lookup site next then before next refers else ∅) site)
      acyclic
  else ∅

/-! The meaning part by part. -/

section Parts

variable {lookup : Lookup}

def partMeaning (lookup : Lookup) (meaning : Site → Schema) : Part → Schema
  | .visit site => meaning site
  | .follow declaration => meaning declaration
  | .key property name => .single name (entryMeaning lookup meaning property)

theorem shapeMeaning_eq_map (meaning : Site → Schema) (site : Site) (shape : Shape) :
    shapeMeaning lookup meaning site shape =
      (site.partsOf lookup shape).map (partMeaning lookup meaning) := by
  cases shape <;> simp [shapeMeaning, Site.partsOf, partMeaning, Function.comp_def]

theorem meaningWith_eq_joined (meaning : Site → Schema) (site : Site) :
    meaningWith lookup meaning site =
      .joined ((site.parts lookup).map (partMeaning lookup meaning)) := by
  unfold meaningWith Site.parts
  rw [List.map_flatMap]
  congr 1
  apply List.flatMap_congr
  intro shape _
  split
  · exact shapeMeaning_eq_map meaning site shape
  · rfl

theorem entryMeaning_congr {first second : Site → Schema} {property : Site}
    (hliteral : ∀ next ∈ property.literal?.toList, first next = second next)
    (hnamed : ∀ next ∈ property.named lookup, first next = second next) :
    entryMeaning lookup first property = entryMeaning lookup second property := by
  unfold entryMeaning
  cases hwritten : property.writtenType? with
  | none => rfl
  | some written =>
      by_cases hkind : written.typeKind = .reference
      · have hmap : (lookup property).sites.map first = (lookup property).sites.map second :=
          List.map_congr_left fun next hnext =>
            hnamed next (by simpa [Site.named, hwritten, hkind] using hnext)
        simp only [hkind, if_true]
        split
        · rfl
        · rw [hmap]
      · by_cases hhas : written.bare.has .typeLiteral = true
        · have hbare := hliteral written.bare (by simp [Site.literal?, hwritten, hhas])
          simp [hkind, hhas, hbare]
        · simp [hkind, hhas]

theorem meaningWith_congr {first second : Site → Schema} {site : Site}
    (h : ∀ next, Site.Refers lookup site next → first next = second next) :
    meaningWith lookup first site = meaningWith lookup second site := by
  rw [meaningWith_eq_joined, meaningWith_eq_joined]
  congr 1
  apply List.map_congr_left
  intro part hpart
  have hvisits : ∀ next ∈ part.visits, first next = second next :=
    fun next hnext => h next (.inl (List.mem_flatMap.2 ⟨part, hpart, hnext⟩))
  have hfollows : ∀ next ∈ part.follows lookup, first next = second next :=
    fun next hnext => h next (.inr (List.mem_flatMap.2 ⟨part, hpart, hnext⟩))
  cases part with
  | visit next => exact hvisits next (by simp [Part.visits])
  | follow declaration => exact hfollows declaration (by simp [Part.follows])
  | key property name =>
      simp only [partMeaning]
      rw [entryMeaning_congr hvisits hfollows]

theorem meaning_eq {site : Site} (h : Acyclic lookup site) :
    meaning lookup site = meaningWith lookup (meaning lookup) site := by
  have hnext : ∀ next, Site.Refers lookup site next → Acyclic lookup next :=
    fun next hrefers => h.inv hrefers
  rw [meaning, dif_pos h]
  cases h with
  | intro _ before =>
      apply meaningWith_congr
      intro next hrefers
      simp only [hrefers, dif_pos, meaning, hnext next hrefers]

theorem eq_map_of_forall₂ {α β : Type} {value : α → β} {items : List α} {found : List β}
    (h : List.Forall₂ (fun item other => other = value item) items found) :
    found = items.map value := by
  induction h with
  | nil => rfl
  | cons hfirst _ ih => rw [hfirst, ih, List.map_cons]

theorem childrenOf_map_some {items : List Site} (value : Site → Schema) (h : items ≠ []) :
    childrenOf (items.map fun item => some (value item)) = some (.joined (items.map value)) := by
  have hreduce : (items.map fun item => some (value item)).reduceOption = items.map value := by
    simp [List.reduceOption, List.filterMap_map]
  unfold childrenOf
  rw [hreduce]
  cases items with
  | nil => exact absurd rfl h
  | cons first rest => rfl

abbrev ComposedOf (lookup : Lookup) (meaning : Site → Schema) : Site → Schema → Prop :=
  Composed lookup (fun next schema => schema = meaning next)
    fun next found => found = some (meaning next)

theorem Described.eq_entryMeaning {meaning : Site → Schema} {property : Site} {entry : Entry}
    (h : Described lookup (fun next schema => schema = meaning next)
      (fun next found => found = some (meaning next)) property entry) :
    entry = entryMeaning lookup meaning property := by
  unfold entryMeaning
  cases h with
  | untyped hwritten => simp [hwritten]
  | unresolved hwritten hkind hnone => simp [hwritten, hkind, hnone]
  | reference hwritten hkind hsome hfound =>
      rw [eq_map_of_forall₂ hfound, childrenOf_map_some meaning hsome]
      simp [hwritten, hkind]
  | literal hwritten hkind hliteral hchildren => simp [hwritten, hkind, hliteral, hchildren]
  | leaf hwritten hkind hliteral => simp [hwritten, hkind, hliteral]

theorem ComposedOf.eq_meaningWith {meaning : Site → Schema} {site : Site} {schema : Schema}
    (h : ComposedOf lookup meaning site schema) :
    schema = meaningWith lookup meaning site := by
  obtain ⟨found, hfound, rfl⟩ := h
  have hgiven : found =
      (site.parts lookup).map fun part => some (partMeaning lookup meaning part) := by
    apply eq_map_of_forall₂
    refine hfound.imp ?_
    intro part given hgiven
    cases part with
    | visit next =>
        obtain ⟨schema, rfl, rfl⟩ := hgiven
        rfl
    | follow declaration => exact hgiven
    | key property name =>
        obtain ⟨entry, rfl, hentry⟩ := hgiven
        rw [hentry.eq_entryMeaning]
        rfl
  rw [meaningWith_eq_joined, hgiven]
  simp [List.reduceOption, List.filterMap_map]

end Parts

namespace Expand

theorem inductive_meaning {program : Program} {lookup : Lookup} (hprogram : program.Built)
    (hlookup : lookup.Within program) :
    InductiveAnywhere program lookup fun site schema =>
      Acyclic lookup site → schema = meaning lookup site := by
  intro outer site hsite haround schema hcomposed hacyclic
  rw [meaning_eq hacyclic]
  apply ComposedOf.eq_meaningWith
  refine hcomposed.imp ?_ ?_
  · intro next hvisited _ hnext
    exact hnext (hacyclic.inv (.inl hvisited))
  · intro next hfollowed found hfound
    have hrefers : Site.Refers lookup site next := .inr hfollowed
    cases found with
    | none =>
        have hback := (nesting_leading program lookup).reaches_inside hprogram hsite haround
          (hrefers.mem_sites hlookup hsite) hfound
        exact absurd hacyclic (not_acyclic_of_refers hrefers hback)
    | some schema =>
        obtain ⟨⟨_, _, hschema⟩, _⟩ := hfound
        rw [hschema (hacyclic.inv hrefers)]

/-! Acyclic nodes of a program are expanded within its budget. -/

section Depth

variable {program : Program} {lookup : Lookup}

def endsWithin (lookup : Lookup) : Nat → Site → Bool
  | 0, _ => false
  | depth + 1, site =>
      (site.visits lookup ++ site.follows lookup).all (endsWithin lookup depth)

theorem endsWithin_succ {depth : Nat} {site : Site} :
    endsWithin lookup (depth + 1) site = true ↔
      ∀ next, Site.Refers lookup site next → endsWithin lookup depth next = true := by
  simp only [endsWithin, List.all_eq_true, List.mem_append, Site.Refers]

theorem endsWithin_mono {depth deeper : Nat} {site : Site} (hle : depth ≤ deeper)
    (h : endsWithin lookup depth site = true) : endsWithin lookup deeper site = true := by
  induction depth generalizing deeper site with
  | zero => simp [endsWithin] at h
  | succ depth ih =>
      obtain ⟨deeper, rfl⟩ : ∃ less, deeper = less + 1 := ⟨deeper - 1, by omega⟩
      rw [endsWithin_succ] at h ⊢
      exact fun next hrefers => ih (by omega) (h next hrefers)

theorem acyclic_of_endsWithin (depth : Nat) {site : Site}
    (h : endsWithin lookup depth site = true) : Acyclic lookup site := by
  induction depth generalizing site with
  | zero => simp [endsWithin] at h
  | succ depth ih => exact .intro site fun next hrefers => ih (endsWithin_succ.1 h next hrefers)

open Classical in
noncomputable def reachable (program : Program) (lookup : Lookup) (site : Site) : Nat :=
  program.sites.countP fun other => decide (Site.Reaches lookup site other)

open Classical in
theorem reachable_lt {site next : Site} (hsite : site ∈ program.sites)
    (hacyclic : Acyclic lookup site) (hrefers : Site.Refers lookup site next) :
    reachable program lookup next < reachable program lookup site := by
  refine countP_lt_countP ?_ hsite (decide_eq_true .refl) ?_
  · intro other _ hother
    exact decide_eq_true (.head hrefers (of_decide_eq_true hother))
  · exact decide_eq_false fun hback => not_acyclic_of_refers hrefers hback hacyclic

open Classical in
theorem endsWithin_reachable (hlookup : lookup.Within program) {site : Site}
    (hsite : site ∈ program.sites) (hacyclic : Acyclic lookup site) :
    endsWithin lookup (reachable program lookup site) site = true := by
  induction hacyclic with
  | intro site hbefore ih =>
      have hpos : 0 < reachable program lookup site :=
        List.countP_pos_iff.2 ⟨site, hsite, decide_eq_true .refl⟩
      obtain ⟨count, hcount⟩ : ∃ count, reachable program lookup site = count + 1 :=
        ⟨_, (Nat.succ_pred_eq_of_pos hpos).symm⟩
      rw [hcount, endsWithin_succ]
      intro next hrefers
      have hless := reachable_lt hsite (.intro site hbefore) hrefers
      exact endsWithin_mono (by omega) (ih next hrefers (hrefers.mem_sites hlookup hsite))

theorem outcome_node_of_endsWithin {budget : Nat} {site : Site} (progress : Progress)
    (h : endsWithin lookup budget site = true) :
    Outcome False (fun _ _ => True) (node lookup budget site progress) := by
  induction budget generalizing site progress with
  | zero => simp [endsWithin] at h
  | succ budget ih =>
      have hnext := endsWithin_succ.1 h
      have hvisits : KeptByVisits False (fun _ => True) (fun _ _ => True) (node lookup budget)
          (site.visits lookup) := by
        intro next hvisited before _
        exact (ih before (hnext next (.inl hvisited))).imp fun _ _ _ => ⟨trivial, trivial⟩
      have hfollows : KeptByFollows False (fun _ => True) (fun _ _ => True) (node lookup budget)
          (site.follows lookup) := by
        intro declaration hfollowed before _
        apply outcome_followWith
        · exact fun _ _ => ⟨trivial, trivial⟩
        · exact fun _ _ _ => ⟨trivial, trivial⟩
        · intro _ _
          exact (ih before (hnext declaration (.inr hfollowed))).imp
            fun _ _ _ => ⟨trivial, trivial⟩
      have hnode : Outcome False _ (node lookup (budget + 1) site progress) :=
        outcome_nodeWith (fun _ _ _ _ => trivial) hvisits hfollows trivial
      exact hnode.imp fun _ _ _ => trivial

theorem exists_node_of_acyclic (hlookup : lookup.Within program) {site : Site}
    (hsite : site ∈ program.sites) (hacyclic : Acyclic lookup site) (progress : Progress) :
    ∃ schema after, node lookup program.budget site progress = some (schema, after) := by
  have hcount : reachable program lookup site ≤ program.sites.length := List.countP_le_length
  have hbudget : program.sites.length ≤ program.budget := by
    unfold Program.budget
    rw [Nat.succ_mul]
    omega
  have hends := endsWithin_mono (Nat.le_trans hcount hbudget)
    (endsWithin_reachable hlookup hsite hacyclic)
  obtain ⟨schema, after, hsome, _⟩ := (outcome_node_of_endsWithin progress hends).exists_some
  exact ⟨schema, after, hsome⟩

end Depth

/-- Whatever was expanded before, the expansion of a node from which references lead nowhere in a
circle gives the meaning of the node and reports no circle. -/
theorem node_eq_meaning {program : Program} {lookup : Lookup} {site : Site} {progress : Progress}
    (hprogram : program.Built) (hlookup : lookup.Within program) (hsite : site ∈ program.sites)
    (hacyclic : Acyclic lookup site) (hprogress : LeftBy program lookup progress) :
    ∃ events after, node lookup program.budget site progress = some (meaning lookup site, after) ∧
      after.events = progress.events ++ events ∧ ∀ event ∈ events, event.isCycle = false := by
  obtain ⟨schema, after, hsome⟩ := exists_node_of_acyclic hlookup hsite hacyclic progress
  obtain ⟨hschema, events, heq, hevents⟩ :=
    hprogress.good hprogram hlookup (inductive_meaning hprogram hlookup) hsite hsome
  rw [hschema hacyclic] at hsome
  exact ⟨events, after, hsome, heq, hevents hacyclic⟩

/-- `N` has a key of its own type; from `A` references lead nowhere in a circle. -/
def acyclicSample : List Outline :=
  [⟨'A', none, [⟨'b', some 'B'⟩, ⟨'c', some 'C'⟩]⟩, ⟨'B', none, [⟨'s', none⟩]⟩,
   ⟨'C', some 'B', []⟩, ⟨'N', none, [⟨'n', some 'N'⟩, ⟨'b', some 'B'⟩]⟩]

set_option maxRecDepth 10000 in
theorem node_eq_meaning_after_cycle :
    let program := Outline.program acyclicSample
    let first := Outline.site acyclicSample ⟨3, by decide +kernel⟩
    let site := Outline.site acyclicSample ⟨0, by decide +kernel⟩
    ∃ schema earlier events after,
      node program.lookup program.budget first .start = some (schema, earlier) ∧
      earlier.events.any Event.isCycle = true ∧
      node program.lookup program.budget site earlier = some (meaning program.lookup site, after) ∧
      after.events = earlier.events ++ events ∧ ∀ event ∈ events, event.isCycle = false := by
  intro program first site
  have hfirst : (node program.lookup program.budget first .start).any
      (fun pair => pair.2.events.any Event.isCycle) = true := by decide +kernel
  obtain ⟨⟨schema, earlier⟩, hnode, hcycle⟩ := (Option.any_eq_true _ _).1 hfirst
  have hacyclic : Acyclic program.lookup site := acyclic_of_endsWithin 9 (by decide +kernel)
  obtain ⟨events, after, hsite, hevents⟩ :=
    node_eq_meaning (Outline.built_program _) program.lookup_within
      (Outline.site_mem_sites _ _) hacyclic (.node .start (Outline.site_mem_sites _ _) hnode)
  exact ⟨schema, earlier, events, after, hnode, hcycle, hsite, hevents⟩

end Expand

end Keypath
