import Keypath.Proofs.Schema.Termination

/-!
The budget of a program suffices for every expansion that ends.

A look-up may answer nodes that declare nothing. References to such nodes are never cut, so they may
lead an expansion in circles. In a run that ends they do not: every node it has come to is settled,
and from settled nodes the nodes that are entered without being declarations run out. The measure of
an expansion then holds with their number in place of the size of a subtree.
-/

namespace Keypath

open Keypath.Tree

namespace Site

/-- Expanding the node expands the other one, whatever is known of declarations by then. -/
def Enters (lookup : Lookup) (site next : Site) : Prop :=
  next ∈ site.visits lookup ∨ next ∈ site.follows lookup ∧ next.isDeclaration = false

def Ends (lookup : Lookup) (site : Site) : Prop :=
  Acc (fun next site => Enters lookup site next) site

theorem Enters.refers {lookup : Lookup} {site next : Site} (h : Enters lookup site next) :
    Refers lookup site next :=
  h.imp_right And.left

theorem Ends.of_chain {lookup : Lookup} {site next : Site} (h : Ends lookup site)
    (hchain : Relation.ReflTransGen (Enters lookup) site next) : Ends lookup next := by
  induction hchain with
  | refl => exact h
  | tail _ hnext ih => exact ih.inv hnext

theorem Ends.not_back {lookup : Lookup} {site next : Site} (h : Ends lookup site)
    (hnext : Enters lookup site next) :
    ¬Relation.ReflTransGen (Enters lookup) next site := by
  intro hback
  induction h generalizing next with
  | intro site _ ih =>
      rcases Relation.ReflTransGen.cases_head hback with rfl | ⟨middle, hmiddle, hrest⟩
      · exact ih next hnext hnext .refl
      · exact ih next hnext hmiddle (hrest.tail hnext)

end Site

namespace Expand

/-- The expansion of the node has come to an end: every declaration that it leads to is known. -/
structure Settled (lookup : Lookup) (progress : Progress) (site : Site) : Prop where
  ends : site.Ends lookup
  known : ∀ usage, Relation.ReflTransGen (Site.Enters lookup) site usage →
    ∀ declaration ∈ usage.follows lookup, declaration.isDeclaration = true →
      progress.knows declaration.id = true

def Answered (lookup : Lookup) (progress : Progress) : Request → Prop
  | .visit site => Settled lookup progress site
  | .follow declaration =>
      (declaration.isDeclaration = true → progress.knows declaration.id = true) ∧
      (declaration.isDeclaration = false → Settled lookup progress declaration)

/-- Only declarations are known, and those on record are settled. -/
structure Grounded (program : Program) (lookup : Lookup) (progress : Progress) : Prop where
  plain : ∀ site ∈ program.sites, progress.knows site.id = true → site.isDeclaration = true
  settled : ∀ site ∈ program.sites, (progress.expanded.get? site.id).isSome = true →
    Settled lookup progress site

structure Advances (program : Program) (lookup : Lookup) (before after : Progress) : Prop where
  retains : before.Retains after
  expanding : ∀ id ∈ after.expanding, id ∈ before.expanding
  grounded : Grounded program lookup after

section Settled

variable {program : Program} {lookup : Lookup} {before middle after progress : Progress}
variable {site : Site}

theorem Settled.retained (h : Settled lookup before site) (hretains : before.Retains after) :
    Settled lookup after site :=
  ⟨h.ends, fun usage husage declaration hdeclaration hkind =>
    hretains _ (h.known usage husage declaration hdeclaration hkind)⟩

theorem Answered.retained {request : Request} (h : Answered lookup before request)
    (hretains : before.Retains after) : Answered lookup after request := by
  cases request with
  | visit site => exact Settled.retained h hretains
  | follow declaration =>
      exact ⟨fun hkind => hretains _ (h.1 hkind), fun hkind => (h.2 hkind).retained hretains⟩

theorem settled_of_answered
    (h : ∀ request ∈ site.requests lookup, Answered lookup progress request) :
    Settled lookup progress site := by
  have hnext : ∀ next, Site.Enters lookup site next → Settled lookup progress next := by
    intro next henters
    rcases henters with hvisit | ⟨hfollow, hkind⟩
    · exact h (.visit next) (Site.visit_mem_requests.2 hvisit)
    · exact (h (.follow next) (Site.follow_mem_requests.2 hfollow)).2 hkind
  refine ⟨.intro site fun next henters => (hnext next henters).ends, ?_⟩
  intro usage husage declaration hdeclaration
  rcases Relation.ReflTransGen.cases_head husage with rfl | ⟨next, henters, hrest⟩
  · exact (h (.follow declaration) (Site.follow_mem_requests.2 hdeclaration)).1
  · exact (hnext next henters).known usage hrest declaration hdeclaration

theorem grounded_start : Grounded program lookup .start :=
  ⟨fun _ _ h => absurd h Bool.false_ne_true, fun _ _ h => nomatch h⟩

theorem Grounded.report (h : Grounded program lookup progress) (events : List Event) :
    Grounded program lookup (progress.report events) :=
  ⟨h.plain, fun site hsite hrecord =>
    (h.settled site hsite hrecord).retained fun _ hknows => hknows⟩

theorem Grounded.opened (hprogram : program.Built) (hsite : site ∈ program.sites)
    (h : Grounded program lookup progress) :
    Grounded program lookup (progress.opened site) := by
  refine ⟨fun other hother hknows => ?_, fun other hother hrecord => ?_⟩
  · rw [Progress.knows_iff, Progress.mem_expanding_opened, Progress.expanded_opened] at hknows
    rcases hknows with (hopen | ⟨hkind, hid⟩) | hrecord
    · exact h.plain other hother (Progress.knows_iff.2 (.inl hopen))
    · obtain rfl := hprogram.eq_of_id_eq hother hsite hid
      exact hkind
    · exact h.plain other hother (Progress.knows_iff.2 (.inr hrecord))
  · rw [Progress.expanded_opened] at hrecord
    exact (h.settled other hother hrecord).retained fun _ => Progress.knows_opened site

theorem Grounded.closed (hprogram : program.Built) (hsite : site ∈ program.sites)
    (h : Grounded program lookup progress) (hsettled : Settled lookup progress site)
    (schema : Schema) : Grounded program lookup (progress.closed site schema) := by
  have hretains : progress.Retains (progress.closed site schema) :=
    fun _ => Progress.knows_closed site schema
  refine ⟨fun other hother hknows => ?_, fun other hother hrecord => ?_⟩
  · rw [Progress.knows_iff, Progress.mem_expanding_closed, Progress.get?_expanded_closed] at hknows
    rcases hknows with ⟨hopen, _⟩ | hrecord
    · exact h.plain other hother (Progress.knows_iff.2 (.inl hopen))
    · split at hrecord
      · rename_i hself
        obtain rfl := hprogram.eq_of_id_eq hother hsite hself.2
        exact hself.1
      · exact h.plain other hother (Progress.knows_iff.2 (.inr hrecord))
  · rw [Progress.get?_expanded_closed] at hrecord
    split at hrecord
    · rename_i hself
      obtain rfl := hprogram.eq_of_id_eq hother hsite hself.2
      exact hsettled.retained hretains
    · exact (h.settled other hother hrecord).retained hretains

theorem Advances.trans (h : Advances program lookup before middle)
    (h' : Advances program lookup middle after) : Advances program lookup before after :=
  ⟨h.retains.trans h'.retains, fun id hid => h.expanding id (h'.expanding id hid), h'.grounded⟩

theorem answered_cons {request : Request} {requests : List Request}
    (hfirst : Answered lookup middle request) (hadvances : Advances program lookup middle after)
    (hrest : ∀ other ∈ requests, Answered lookup after other) :
    ∀ other ∈ request :: requests, Answered lookup after other :=
  List.forall_mem_cons.2 ⟨hfirst.retained hadvances.retains, hrest⟩

end Settled

section Run

variable {program : Program} {lookup : Lookup}

/-- What is left behind by a run of the node. -/
def Settles (program : Program) (lookup : Lookup) (site : Site) (before after : Progress) : Prop :=
  Advances program lookup before after ∧ Settled lookup after site ∧
    (site.isDeclaration = true → after.knows site.id = true)

theorem Steps.settles {recurse : Site → Expand Schema} {requests : List Request}
    {before after : Progress} (h : Steps recurse requests before after)
    (hsites : ∀ request ∈ requests, request.site ∈ program.sites)
    (hrecurse : ∀ next ∈ program.sites, ∀ before schema after,
      Grounded program lookup before → recurse next before = some (schema, after) →
      Settles program lookup next before after)
    (hbefore : Grounded program lookup before) :
    Advances program lookup before after ∧
      ∀ request ∈ requests, Answered lookup after request := by
  induction h with
  | done progress => exact ⟨⟨fun _ h => h, fun _ h => h, hbefore⟩, by simp⟩
  | report _ _ ih =>
      obtain ⟨hadvances, hanswered⟩ := ih hsites (hbefore.report _)
      exact ⟨⟨hadvances.retains, hadvances.expanding, hadvances.grounded⟩, hanswered⟩
  | visit hvisit _ ih =>
      obtain ⟨hsite, hothers⟩ := List.forall_mem_cons.1 hsites
      obtain ⟨hfirst, hsettled, _⟩ := hrecurse _ hsite _ _ _ hbefore hvisit
      obtain ⟨hrest, hanswered⟩ := ih hothers hfirst.grounded
      exact ⟨hfirst.trans hrest, answered_cons hsettled hrest hanswered⟩
  | @recorded requests declaration schema before after hrecord _ ih =>
      obtain ⟨hsite, hothers⟩ := List.forall_mem_cons.1 hsites
      obtain ⟨hrest, hanswered⟩ := ih hothers hbefore
      have hknows : before.knows declaration.id = true :=
        Progress.knows_iff.2 (.inr (by simp [hrecord]))
      have hkind := hbefore.plain declaration hsite hknows
      refine ⟨hrest, answered_cons ⟨fun _ => hknows, fun hplain => ?_⟩ hrest hanswered⟩
      rw [hkind] at hplain
      cases hplain
  | @cut requests declaration name before after hrecord hopen _ ih =>
      obtain ⟨hsite, hothers⟩ := List.forall_mem_cons.1 hsites
      obtain ⟨hrest, hanswered⟩ := ih hothers (hbefore.report _)
      have hknows : before.knows declaration.id = true := Progress.knows_iff.2 (.inl hopen)
      have hkind := hbefore.plain declaration hsite hknows
      have hadvances : Advances program lookup before after :=
        ⟨hrest.retains, hrest.expanding, hrest.grounded⟩
      refine ⟨hadvances, answered_cons ⟨fun _ => hknows, fun hplain => ?_⟩ hadvances hanswered⟩
      rw [hkind] at hplain
      cases hplain
  | opened _ _ hvisit _ ih =>
      obtain ⟨hsite, hothers⟩ := List.forall_mem_cons.1 hsites
      obtain ⟨hfirst, hsettled, hknows⟩ := hrecurse _ hsite _ _ _ hbefore hvisit
      obtain ⟨hrest, hanswered⟩ := ih hothers hfirst.grounded
      exact ⟨hfirst.trans hrest, answered_cons ⟨hknows, fun _ => hsettled⟩ hrest hanswered⟩

theorem node_settles (hprogram : program.Built) (hlookup : lookup.Within program) (budget : Nat)
    {site : Site} {before after : Progress} {schema : Schema} (hsite : site ∈ program.sites)
    (hbefore : Grounded program lookup before)
    (h : node lookup budget site before = some (schema, after)) :
    Settles program lookup site before after := by
  induction budget generalizing site before after schema with
  | zero => cases h
  | succ budget ih =>
      obtain ⟨done, hsteps, rfl⟩ := steps_of_nodeWith h
      have hsites : ∀ request ∈ site.requests lookup, request.site ∈ program.sites := by
        intro request hrequest
        exact (Site.refers_iff_mem_requests.2 ⟨request, hrequest, rfl⟩).mem_sites hlookup hsite
      obtain ⟨hadvances, hanswered⟩ := hsteps.settles hsites
        (fun next hnext _ _ _ hgrounded hrun => ih hnext hgrounded hrun)
        (hbefore.opened hprogram hsite)
      have hsettled := settled_of_answered hanswered
      have hretains : done.Retains (done.closed site schema) :=
        fun _ => Progress.knows_closed site schema
      refine ⟨⟨?_, ?_, hadvances.grounded.closed hprogram hsite hsettled schema⟩,
        hsettled.retained hretains, ?_⟩
      · exact fun id hid => hretains id (hadvances.retains id (Progress.knows_opened site hid))
      · intro id hid
        obtain ⟨hopen, hother⟩ := (Progress.mem_expanding_closed done site schema).1 hid
        have hopened := hadvances.expanding id hopen
        rw [Progress.mem_expanding_opened] at hopened
        exact hopened.resolve_right hother
      · intro hkind
        exact hretains _ (hadvances.retains _ (Progress.knows_opened_self hkind))

theorem ends_of_node (hprogram : program.Built) (hlookup : lookup.Within program)
    {budget : Nat} {root : Site} {schema : Schema} {after : Progress}
    (hroot : root ∈ program.sites)
    (h : node lookup budget root .start = some (schema, after)) {site : Site}
    (hreaches : Site.Reaches lookup root site) : site.Ends lookup := by
  obtain ⟨hadvances, hsettled, _⟩ := node_settles hprogram hlookup budget hroot grounded_start h
  have hhome : ∃ home, Settled lookup after home ∧
      Relation.ReflTransGen (Site.Enters lookup) home site := by
    induction hreaches with
    | refl => exact ⟨root, hsettled, .refl⟩
    | @tail middle next hmiddle hrefers ih =>
        obtain ⟨home, hhome, hchain⟩ := ih
        have hnext := Site.Reaches.mem_sites (hmiddle.tail hrefers) hlookup hroot
        rcases hrefers with hvisit | hfollow
        · exact ⟨home, hhome, hchain.tail (.inl hvisit)⟩
        · cases hkind : next.isDeclaration with
          | false => exact ⟨home, hhome, hchain.tail (.inr ⟨hfollow, hkind⟩)⟩
          | true =>
              rcases Progress.knows_iff.1 (hhome.known middle hchain next hfollow hkind) with
                hopen | hrecord
              · cases hadvances.expanding _ hopen
              · exact ⟨next, hadvances.grounded.settled next hnext hrecord, .refl⟩
  obtain ⟨home, hhome, hchain⟩ := hhome
  exact hhome.ends.of_chain hchain

end Run

/-! The nodes that are entered take the place of the size of a subtree. -/

section Entered

variable {program : Program} {lookup : Lookup} {site next : Site} {progress after : Progress}

open Classical in
noncomputable def entered (program : Program) (lookup : Lookup) (site : Site) : Nat :=
  program.sites.countP fun other => decide (Relation.ReflTransGen (Site.Enters lookup) site other)

open Classical in
theorem entered_lt (hsite : site ∈ program.sites) (hends : site.Ends lookup)
    (henters : Site.Enters lookup site next) :
    entered program lookup next < entered program lookup site := by
  refine countP_lt_countP ?_ hsite (decide_eq_true .refl) ?_
  · intro other _ hother
    exact decide_eq_true (.head henters (of_decide_eq_true hother))
  · exact decide_eq_false (hends.not_back henters)

open Classical in
theorem entered_pos (hsite : site ∈ program.sites) : 0 < entered program lookup site :=
  List.countP_pos_iff.2 ⟨site, hsite, decide_eq_true .refl⟩

noncomputable def depth (program : Program) (lookup : Lookup) (site : Site)
    (progress : Progress) : Nat :=
  (progress.opened site).fresh program * (program.sites.length + 1) + entered program lookup site

theorem depth_le_budget : depth program lookup site progress ≤ program.budget := by
  have hfresh : (progress.opened site).fresh program ≤ program.declarations.length :=
    List.countP_le_length
  have hproduct := Nat.mul_le_mul_right (program.sites.length + 1) hfresh
  have hentered : entered program lookup site ≤ program.sites.length := List.countP_le_length
  unfold depth Program.budget
  rw [Nat.succ_mul]
  omega

theorem depth_lt_of_enters (hsite : site ∈ program.sites) (hends : site.Ends lookup)
    (henters : Site.Enters lookup site next) (hafter : (progress.opened site).Retains after) :
    depth program lookup next after < depth program lookup site progress := by
  have hopened : after.Retains (after.opened next) := fun _ => Progress.knows_opened next
  have hfresh := (hafter.trans hopened).fresh_le program
  have hproduct := Nat.mul_le_mul_right (program.sites.length + 1) hfresh
  have hless := entered_lt hsite hends henters
  unfold depth
  omega

theorem depth_lt_of_fresh (hsite : site ∈ program.sites) (hnext : next ∈ program.declarations)
    (hfresh : after.knows next.id = false) (hafter : (progress.opened site).Retains after) :
    depth program lookup next after < depth program lookup site progress := by
  have hless : (after.opened next).fresh program < (progress.opened site).fresh program :=
    Nat.lt_of_lt_of_le (Progress.fresh_opened_lt hnext hfresh) (hafter.fresh_le program)
  have hproduct := Nat.mul_le_mul_right (program.sites.length + 1) hless
  have hentered : entered program lookup next ≤ program.sites.length := List.countP_le_length
  rw [Nat.succ_mul] at hproduct
  have hpos : 0 < entered program lookup site := entered_pos hsite
  unfold depth
  omega

theorem outcome_node_of_depth_le (hlookup : lookup.Within program) {budget : Nat}
    (hsite : site ∈ program.sites)
    (hends : ∀ next, Site.Reaches lookup site next → next.Ends lookup)
    (hdepth : depth program lookup site progress ≤ budget) :
    Outcome False (fun _ after => progress.Retains after)
      (node lookup budget site progress) := by
  induction budget generalizing site progress with
  | zero =>
      have hpos : 0 < entered program lookup site := entered_pos hsite
      unfold depth at hdepth
      omega
  | succ budget ih =>
      let Inv := (progress.opened site).Retains
      have hstep : ∀ next, Site.Refers lookup site next → ∀ before, Inv before →
          depth program lookup next before < depth program lookup site progress →
          Outcome False (fun _ after => Inv after ∧ True) (node lookup budget next before) := by
        intro next hrefers before hbefore hless
        refine (ih (hrefers.mem_sites hlookup hsite)
          (fun other hother => hends other (.head hrefers hother)) (by omega)).imp ?_
        exact fun _ after hafter => ⟨hbefore.trans hafter, trivial⟩
      have hentered : ∀ next, Site.Enters lookup site next → ∀ before, Inv before →
          Outcome False (fun _ after => Inv after ∧ True) (node lookup budget next before) :=
        fun next henters before hbefore => hstep next henters.refers before hbefore
          (depth_lt_of_enters hsite (hends site .refl) henters hbefore)
      have hvisits : KeptByVisits False Inv (fun _ _ => True) (node lookup budget)
          (site.visits lookup) :=
        fun next hvisit before hbefore => hentered next (.inl hvisit) before hbefore
      have hfollows : KeptByFollows False Inv (fun _ _ => True) (node lookup budget)
          (site.follows lookup) := by
        intro next hfollow before hbefore
        apply outcome_followWith
        · exact fun _ _ => ⟨hbefore, trivial⟩
        · exact fun _ _ _ => ⟨hbefore, trivial⟩
        · intro hrecord hopen
          -- only a declaration goes on record, so any other node counts as entered
          cases hkind : next.isDeclaration with
          | false => exact hentered next (.inr ⟨hfollow, hkind⟩) before hbefore
          | true =>
              have hrefers : Site.Refers lookup site next := .inr hfollow
              have hnext := Program.mem_declarations.2 ⟨hrefers.mem_sites hlookup hsite, hkind⟩
              have hfresh : before.knows next.id = false := by
                simp [Progress.knows, hrecord, hopen]
              exact hstep next hrefers before hbefore
                (depth_lt_of_fresh hsite hnext hfresh hbefore)
      have hnode : Outcome False _ (node lookup (budget + 1) site progress) :=
        outcome_nodeWith (fun _ _ _ h => h) hvisits hfollows fun _ h => h
      refine hnode.imp ?_
      intro schema after hresult
      obtain ⟨done, hdone, _, rfl⟩ := hresult
      intro id hid
      exact Progress.knows_closed site schema (hdone id (Progress.knows_opened site hid))

end Entered

theorem refines_node_of_le {lookup : Lookup} {budget more : Nat} (h : budget ≤ more)
    (site : Site) : Refines (node lookup budget site) (node lookup more site) := by
  induction budget generalizing more site with
  | zero => exact fun _ _ hrun => nomatch hrun
  | succ budget ih =>
      obtain ⟨more, rfl⟩ : ∃ less, more = less + 1 := ⟨more - 1, by omega⟩
      exact refines_nodeWith fun next _ => ih (by omega) next

/-- A result that some budget gives is given by the budget of the program. -/
theorem node_budget_eq_some {program : Program} {lookup : Lookup} (hprogram : program.Built)
    (hlookup : lookup.Within program) {root : Site} (hroot : root ∈ program.sites) {budget : Nat}
    {result : Schema × Progress} (h : node lookup budget root .start = some result) :
    node lookup program.budget root .start = some result := by
  obtain ⟨schema, after⟩ := result
  have hends : ∀ next, Site.Reaches lookup root next → next.Ends lookup :=
    fun _ => ends_of_node hprogram hlookup hroot h
  obtain ⟨schema', after', hbudget, _⟩ :=
    (outcome_node_of_depth_le hlookup hroot hends depth_le_budget).exists_some
  have hfirst := refines_node_of_le (Nat.le_max_left budget program.budget) root _ _ h
  have hsecond := refines_node_of_le (Nat.le_max_right budget program.budget) root _ _ hbudget
  rw [hbudget, ← hsecond, hfirst]

end Expand

end Keypath
