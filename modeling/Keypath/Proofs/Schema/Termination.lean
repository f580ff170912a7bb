import Mathlib.Data.Prod.Lex
import Keypath.Proofs.Relocation
import Keypath.Proofs.Schema.Requests

/-!
Every expansion ends, and within the budget of its program.

Between two declarations an expansion goes down a tree. It opens a declaration only while that is
neither under way nor on record, and what is once known of a declaration stays known, so that the
declarations not yet known run out. `measure` puts the two together, and `descent` is the recursion
of `node` with the measure in place of the budget.
-/

namespace Keypath

open Keypath.Tree

theorem countP_lt_countP {α : Type} {items : List α} {less more : α → Bool} {item : α}
    (himp : ∀ other ∈ items, less other = true → more other = true) (hmem : item ∈ items)
    (hmore : more item = true) (hless : less item = false) :
    items.countP less < items.countP more := by
  obtain ⟨before, after, rfl⟩ := List.append_of_mem hmem
  have hbefore : before.countP less ≤ before.countP more :=
    List.countP_mono_left fun other hother => himp other (by simp [hother])
  have hafter : after.countP less ≤ after.countP more :=
    List.countP_mono_left fun other hother => himp other (by simp [hother])
  simp only [List.countP_append, List.countP_cons, hmore, hless, if_true]
  simp only [Bool.false_eq_true, if_false]
  omega

namespace Progress

def knows (progress : Progress) (id : NodeId) : Bool :=
  progress.expanding.contains id || (progress.expanded.get? id).isSome

theorem knows_iff {progress : Progress} {id : NodeId} :
    progress.knows id = true ↔
      id ∈ progress.expanding ∨ (progress.expanded.get? id).isSome = true := by
  simp [knows]

theorem knows_opened {progress : Progress} {id : NodeId} (site : Site)
    (h : progress.knows id = true) : (progress.opened site).knows id = true := by
  rw [knows_iff] at h ⊢
  rcases h with h | h
  · exact .inl ((mem_expanding_opened progress site).2 (.inl h))
  · exact .inr (by simpa using h)

theorem knows_opened_self {progress : Progress} {site : Site} (h : site.isDeclaration = true) :
    (progress.opened site).knows site.id = true :=
  knows_iff.2 (.inl ((mem_expanding_opened progress site).2 (.inr ⟨h, rfl⟩)))

theorem knows_closed {progress : Progress} {id : NodeId} (site : Site) (schema : Schema)
    (h : progress.knows id = true) : (progress.closed site schema).knows id = true := by
  rw [knows_iff, mem_expanding_closed, get?_expanded_closed]
  by_cases hself : site.isDeclaration = true ∧ id = site.id
  · exact .inr (by simp [hself])
  · rcases knows_iff.1 h with h | h
    · exact .inl ⟨h, hself⟩
    · exact .inr (by simpa [hself] using h)

def Retains (before after : Progress) : Prop :=
  ∀ id, before.knows id = true → after.knows id = true

theorem Retains.trans {first second third : Progress} (h : Retains first second)
    (h' : Retains second third) : Retains first third :=
  fun id hid => h' id (h id hid)

def fresh (program : Program) (progress : Progress) : Nat :=
  program.declarations.countP fun declaration => !progress.knows declaration.id

theorem Retains.fresh_le (program : Program) {before after : Progress}
    (h : Retains before after) : after.fresh program ≤ before.fresh program := by
  apply List.countP_mono_left
  intro declaration _ hfresh
  cases hknows : before.knows declaration.id with
  | false => rfl
  | true => simp [h _ hknows] at hfresh

theorem fresh_opened_lt {program : Program} {progress : Progress} {declaration : Site}
    (hmem : declaration ∈ program.declarations) (hfresh : progress.knows declaration.id = false) :
    (progress.opened declaration).fresh program < progress.fresh program := by
  refine countP_lt_countP ?_ hmem (by simp [hfresh]) ?_
  · intro other _ hother
    cases hknows : progress.knows other.id with
    | false => rfl
    | true => simp [knows_opened declaration hknows] at hother
  · simp [knows_opened_self (Program.mem_declarations.1 hmem).2]

end Progress

theorem Site.size_pos (site : Site) : 0 < site.size := by
  unfold Site.size Focus.size
  cases site.focus.node
  simp [Node.size]

namespace Expand

/-- The declarations that are neither under way nor on record once the node itself is under way,
and then the size of its subtree. -/
def measure (program : Program) (site : Site) (progress : Progress) : Nat ×ₗ Nat :=
  toLex ((progress.opened site).fresh program, site.size)

section Measure

variable {program : Program} {site next : Site} {progress after : Progress}

theorem measure_lt_of_holds (hnext : Site.Holds site next)
    (hafter : (progress.opened site).Retains after) :
    measure program next after < measure program site progress := by
  have hopened : after.Retains (after.opened next) := fun _ => Progress.knows_opened next
  have hfresh := (hafter.trans hopened).fresh_le program
  rw [measure, measure, Prod.Lex.toLex_lt_toLex]
  rcases Nat.lt_or_eq_of_le hfresh with hless | heq
  · exact .inl hless
  · exact .inr ⟨heq, hnext.size_lt⟩

theorem measure_lt_of_fresh (hnext : next ∈ program.declarations)
    (hfresh : after.knows next.id = false) (hafter : (progress.opened site).Retains after) :
    measure program next after < measure program site progress := by
  rw [measure, measure, Prod.Lex.toLex_lt_toLex]
  left
  calc (after.opened next).fresh program
      < after.fresh program := Progress.fresh_opened_lt hnext hfresh
    _ ≤ (progress.opened site).fresh program := hafter.fresh_le program

/-- The nested steps that a node may need: a walk down a tree for each declaration not yet known,
and one down its own subtree. -/
def need (program : Program) (site : Site) (progress : Progress) : Nat :=
  (progress.opened site).fresh program * (program.sites.length + 1) + site.size

theorem need_lt_of_measure_lt (hnext : next ∈ program.sites)
    (h : measure program next after < measure program site progress) :
    need program next after < need program site progress := by
  have hsize := Program.size_le_length_sites hnext
  rw [measure, measure, Prod.Lex.toLex_lt_toLex] at h
  unfold need
  simp only at h
  rcases h with hless | ⟨heq, hless⟩
  · have hproduct := Nat.mul_le_mul_right (program.sites.length + 1) hless
    rw [Nat.succ_mul] at hproduct
    have hpos := site.size_pos
    omega
  · rw [heq]
    omega

theorem need_le_budget (hsite : site ∈ program.sites) (progress : Progress) :
    need program site progress ≤ program.budget := by
  have hfresh : (progress.opened site).fresh program ≤ program.declarations.length :=
    List.countP_le_length
  have hproduct := Nat.mul_le_mul_right (program.sites.length + 1) hfresh
  have hsize := Program.size_le_length_sites hsite
  unfold need Program.budget
  rw [Nat.succ_mul]
  omega

end Measure

section Descent

variable {program : Program} {lookup : Lookup} {site : Site} {progress : Progress}

theorem outcome_nodeWith_of_measure (hlookup : lookup.Declares program)
    (hsite : site ∈ program.sites) {recurse : Site → Expand Schema}
    (hrecurse : ∀ next ∈ program.sites, ∀ before,
      measure program next before < measure program site progress →
      Outcome False (fun _ after => before.Retains after) (recurse next before)) :
    Outcome False (fun _ after => progress.Retains after)
      (nodeWith lookup recurse site progress) := by
  let Inv := (progress.opened site).Retains
  have hvisits : KeptByVisits False Inv (fun _ _ => True) recurse (site.visits lookup) := by
    intro next hvisited before hbefore
    have hholds := Site.holds_of_mem_visits hvisited
    refine (hrecurse next (hholds.mem_sites hsite) before (measure_lt_of_holds hholds hbefore)).imp
      ?_
    exact fun _ after hafter => ⟨hbefore.trans hafter, trivial⟩
  have hfollows : KeptByFollows False Inv (fun _ _ => True) recurse (site.follows lookup) := by
    intro declaration hfollowed before hbefore
    have hdeclaration : declaration ∈ program.declarations :=
      hlookup site hsite declaration (Site.mem_sites_of_mem_follows hfollowed)
    apply outcome_followWith
    · exact fun _ _ => ⟨hbefore, trivial⟩
    · exact fun _ _ _ => ⟨hbefore, trivial⟩
    · intro hrecord hexpanding
      have hfresh : before.knows declaration.id = false := by
        simp [Progress.knows, hrecord, hexpanding]
      refine (hrecurse declaration (Program.mem_declarations.1 hdeclaration).1 before
        (measure_lt_of_fresh hdeclaration hfresh hbefore)).imp ?_
      exact fun _ after hafter => ⟨hbefore.trans hafter, trivial⟩
  refine (outcome_nodeWith (fun _ _ _ h => h) hvisits hfollows fun _ h => h).imp ?_
  intro schema after hresult
  obtain ⟨done, hdone, _, rfl⟩ := hresult
  intro id hid
  exact Progress.knows_closed site schema (hdone id (Progress.knows_opened site hid))

theorem outcome_node_of_need_le (hlookup : lookup.Declares program) {budget : Nat}
    (hsite : site ∈ program.sites) (hneed : need program site progress ≤ budget) :
    Outcome False (fun _ after => progress.Retains after)
      (node lookup budget site progress) := by
  induction budget generalizing site progress with
  | zero =>
      have hpos := site.size_pos
      unfold need at hneed
      omega
  | succ budget ih =>
      refine outcome_nodeWith_of_measure hlookup hsite fun next hnext before hless => ?_
      have hneed' := need_lt_of_measure_lt hnext hless
      exact ih hnext (by omega)

/-- Within the budget of its program, the expansion of a node gives a schema, whatever the progress
it begins with. -/
theorem exists_node (hlookup : lookup.Declares program) (hsite : site ∈ program.sites)
    (progress : Progress) :
    ∃ schema after, node lookup program.budget site progress = some (schema, after) := by
  have hrun := outcome_node_of_need_le hlookup hsite (need_le_budget hsite progress)
  obtain ⟨schema, after, hsome, _⟩ := hrun.exists_some
  exact ⟨schema, after, hsome⟩

/-- The schema of a node without a budget. A request is answered only where the measure gets
smaller. -/
def descent (program : Program) (lookup : Lookup) (site : Site) (progress : Progress) :
    Option (Schema × Progress) :=
  nodeWith lookup (fun next before =>
    if _hless : measure program next before < measure program site progress then
      descent program lookup next before
    else none) site progress
termination_by measure program site progress
decreasing_by exact _hless

theorem outcome_descent (hlookup : lookup.Declares program) {site : Site}
    (hsite : site ∈ program.sites) (progress : Progress) :
    Outcome False (fun _ after => progress.Retains after)
      (descent program lookup site progress) := by
  rw [descent]
  refine outcome_nodeWith_of_measure hlookup hsite fun next hnext before hless => ?_
  rw [dif_pos hless]
  exact outcome_descent hlookup hnext before
termination_by measure program site progress
decreasing_by exact hless

theorem node_eq_of_descent (hlookup : lookup.Within program) {budget : Nat} {schema : Schema}
    {after : Progress} (hsite : site ∈ program.sites)
    (hneed : need program site progress ≤ budget)
    (h : descent program lookup site progress = some (schema, after)) :
    node lookup budget site progress = some (schema, after) := by
  induction budget generalizing site progress schema after with
  | zero =>
      have hpos := site.size_pos
      unfold need at hneed
      omega
  | succ budget ih =>
      rw [descent] at h
      refine refines_nodeWith (fun next hrefers before result hrun => ?_) progress _ h
      have hnext := hrefers.mem_sites hlookup hsite
      split at hrun
      · rename_i hless
        have hneed' := need_lt_of_measure_lt hnext hless
        exact ih hnext (by omega) hrun
      · cases hrun

/-- Whatever is under way and on record, the expansion of a node ends: a recursion that answers a
request only where the measure gets smaller refuses none, and no budget from that of the program on
runs out. -/
theorem node_terminates (hlookup : lookup.Declares program) (hsite : site ∈ program.sites)
    (progress : Progress) :
    ∃ schema after, descent program lookup site progress = some (schema, after) ∧
      nodeWith lookup (descent program lookup) site progress = some (schema, after) ∧
      ∀ budget, program.budget ≤ budget →
        node lookup budget site progress = some (schema, after) := by
  obtain ⟨schema, after, hdescent, _⟩ :=
    (outcome_descent hlookup hsite progress).exists_some
  refine ⟨schema, after, hdescent, ?_, ?_⟩
  · rw [descent] at hdescent
    refine refines_nodeWith (fun next _ before result hrun => ?_) progress _ hdescent
    split at hrun
    · exact hrun
    · cases hrun
  · intro budget hbudget
    have hneed := Nat.le_trans (need_le_budget hsite progress) hbudget
    exact node_eq_of_descent hlookup.within hsite hneed hdescent

/-- `A` and `B` extend each other and have keys of each other's types. -/
def mutualSample : List Outline :=
  [⟨'A', some 'B', [⟨'b', some 'B'⟩]⟩, ⟨'B', some 'A', [⟨'a', some 'A'⟩]⟩]

set_option maxRecDepth 10000 in
theorem node_terminates_under_way :
    let program := Outline.program mutualSample
    let site := Outline.site mutualSample ⟨0, by decide +kernel⟩
    let other := Outline.site mutualSample ⟨1, by decide +kernel⟩
    program.lookup.Declares program ∧ site ∈ program.sites ∧
    ∃ schema after,
      descent program program.lookup site (Progress.start.enter other.id) = some (schema, after) ∧
      ∀ budget, program.budget ≤ budget →
        node program.lookup budget site (Progress.start.enter other.id) = some (schema, after) := by
  intro program site other
  have hlookup : program.lookup.Declares program :=
    Program.lookup_declares_of_wellLaid (Outline.built_program _) (by decide +kernel)
  have hsite : site ∈ program.sites := Outline.site_mem_sites _ _
  obtain ⟨schema, after, hdescent, _, hnode⟩ :=
    node_terminates hlookup hsite (Progress.start.enter other.id)
  exact ⟨hlookup, hsite, schema, after, hdescent, hnode⟩

end Descent

end Expand

end Keypath
