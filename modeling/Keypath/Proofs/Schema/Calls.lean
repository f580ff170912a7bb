import Keypath.Proofs.Schema.Budget
import Keypath.Proofs.Schema.Cycles

/-!
The calls of an expansion, in the order in which they are made.

`Expand.calls` goes along with the run of a node and takes down what is called: nodes that are
expanded, with what they give, questions to the look-up, and references to declarations, with the
progress that they find and the nodes that are being expanded around them. `Logged` is the same list
put together piece by piece, for inductions.
-/

namespace Keypath

open Keypath.Tree

inductive Call where
  | build (site : Site)
  | ask (usage : Site)
  /-- A reference leads to a declaration, while the nodes of `around` are being expanded. -/
  | follow (around : List Site) (declaration : Site) (progress : Progress)
  | give (site : Site) (schema : Schema)

namespace Call

def built? : Call → Option Site
  | build site => some site
  | _ => none

def asked? : Call → Option Site
  | ask usage => some usage
  | _ => none

def given? : Call → Option (Site × Schema)
  | give site schema => some (site, schema)
  | _ => none

/-- A declaration that is named while it is under way. -/
def cut? : Call → Option NodeId
  | follow _ declaration progress =>
      if declaration.id ∈ progress.expanding then some declaration.id else none
  | _ => none

/-- A declaration with the schema that its expansion gives. -/
def recorded? : Call → Option (NodeId × Schema)
  | give site schema => if site.isDeclaration then some (site.id, schema) else none
  | _ => none

end Call

theorem Site.request_mem_actions {lookup : Lookup} {site : Site} {request : Request} :
    .request request ∈ site.actions lookup ↔ request ∈ site.requests lookup := by
  rw [← Site.requests_actions, List.mem_filterMap]
  constructor
  · exact fun h => ⟨_, h, rfl⟩
  · rintro ⟨action, haction, heq⟩
    cases action with
    | request made =>
        obtain rfl := Option.some.inj heq
        exact haction
    | _ => cases heq

theorem Site.Visits.enters {lookup : Lookup} {site next : Site} (h : Visits lookup site next) :
    Relation.ReflTransGen (Enters lookup) site next := by
  induction h with
  | refl => exact .refl
  | tail _ hvisit ih => exact ih.tail (.inl hvisit)

namespace Action

def run (lookup : Lookup) (recurse : Site → Expand Schema) (progress : Progress) :
    Action → Option Progress
  | ask usage => some (progress.report ((lookup usage).events.map .lookup))
  | unresolved property name detail =>
      some (progress.report [.unresolved property.id name detail])
  | request (.visit site) => (recurse site progress).map Prod.snd
  | request (.follow declaration) => (Expand.followWith recurse declaration progress).map Prod.snd

def calls (inner : Site → Progress → List Call) (around : List Site) (progress : Progress) :
    Action → List Call
  | ask usage => [.ask usage]
  | unresolved _ _ _ => []
  | request (.visit site) => inner site progress
  | request (.follow declaration) => .follow around declaration progress ::
      if progress.knows declaration.id then [] else inner declaration progress

end Action

namespace Expand

def callsOf (lookup : Lookup) (recurse : Site → Expand Schema)
    (inner : Site → Progress → List Call) (around : List Site) :
    List Action → Progress → List Call
  | [], _ => []
  | action :: rest, progress => action.calls inner around progress ++
      match action.run lookup recurse progress with
      | some after => callsOf lookup recurse inner around rest after
      | none => []

/-- The calls of `node`, when the nodes of `around` are being expanded around it. -/
def calls (lookup : Lookup) : Nat → List Site → Site → Progress → List Call
  | 0, _, _, _ => []
  | budget + 1, around, site, progress =>
      .build site ::
        (callsOf lookup (node lookup budget) (calls lookup budget (site :: around))
          (site :: around) (site.actions lookup) (progress.opened site) ++
        match node lookup (budget + 1) site progress with
        | some (schema, _) => [.give site schema]
        | none => [])

theorem Performs.run_eq {α : Type} {lookup : Lookup} {actions : List Action}
    {body : (Site → Expand Schema) → Expand α} (h : Performs lookup actions body)
    (recurse : Site → Expand Schema) (progress : Progress) :
    (body recurse progress).map Prod.snd =
      actions.foldlM (fun before action => action.run lookup recurse before) progress := by
  induction h generalizing progress with
  | done value => rfl
  | ask usage _ ih => exact ih _
  | unresolved property name detail _ ih => exact ih _
  | visit site _ ih =>
      rw [List.foldlM_cons]
      change ((recurse site progress).bind fun pair => _).map Prod.snd =
        ((recurse site progress).map Prod.snd).bind _
      cases recurse site progress with
      | none => rfl
      | some pair => exact ih pair.1 pair.2
  | follow declaration _ ih =>
      rw [List.foldlM_cons]
      change ((followWith recurse declaration progress).bind fun pair => _).map Prod.snd =
        ((followWith recurse declaration progress).map Prod.snd).bind _
      cases followWith recurse declaration progress with
      | none => rfl
      | some pair => exact ih pair.1 pair.2

/-! A body depends on the expansion of other nodes only where it calls for it. -/

open Classical in
/-- The expansion of nodes, as far as all its calls are on a log. -/
noncomputable def restricted (log : List Call) (inner : Site → Progress → List Call)
    (recurse : Site → Expand Schema) : Site → Expand Schema := fun site progress =>
  if ∀ call ∈ inner site progress, call ∈ log then recurse site progress else none

section Restricted

variable {log : List Call} {inner : Site → Progress → List Call}
variable {recurse : Site → Expand Schema} {site : Site} {before after : Progress}

theorem restricted_eq (h : ∀ call ∈ inner site before, call ∈ log) :
    restricted log inner recurse site before = recurse site before :=
  if_pos h

theorem of_restricted_eq_some {schema : Schema}
    (h : restricted log inner recurse site before = some (schema, after)) :
    (∀ call ∈ inner site before, call ∈ log) ∧ recurse site before = some (schema, after) := by
  unfold restricted at h
  split at h
  · exact ⟨by assumption, h⟩
  · cases h

theorem Performs.restricted_eq {α : Type} {lookup : Lookup} {around : List Site}
    {actions : List Action} {body : (Site → Expand Schema) → Expand α}
    (h : Performs lookup actions body)
    (hcalls : ∀ call ∈ callsOf lookup recurse inner around actions before, call ∈ log) :
    body (restricted log inner recurse) before = body recurse before := by
  induction h generalizing before with
  | done value => rfl
  | ask usage _ ih =>
      exact ih fun call hcall => hcalls call (List.mem_append_right _ hcall)
  | unresolved property name detail _ ih =>
      exact ih fun call hcall => hcalls call (List.mem_append_right _ hcall)
  | visit site _ ih =>
      have hfirst : restricted log inner recurse site before = recurse site before :=
        Expand.restricted_eq fun call hcall => hcalls call (List.mem_append_left _ hcall)
      change (restricted log inner recurse site before).bind _ = (recurse site before).bind _
      rw [hfirst]
      cases hvisit : recurse site before with
      | none => rfl
      | some pair =>
          refine ih pair.1 fun call hcall => hcalls call (List.mem_append_right _ ?_)
          simpa [Action.run, hvisit] using hcall
  | follow declaration _ ih =>
      have hfirst : followWith (restricted log inner recurse) declaration before =
          followWith recurse declaration before := by
        rw [followWith_apply, followWith_apply]
        cases hrecord : before.expanded.get? declaration.id with
        | some schema => rfl
        | none =>
            by_cases hopen : declaration.id ∈ before.expanding
            · simp only [hopen, if_true]
            · have hfresh : before.knows declaration.id = false := by
                simp [Progress.knows, hrecord, hopen]
              simp only [hopen, if_false]
              rw [Expand.restricted_eq fun call hcall => hcalls call (List.mem_append_left _ ?_)]
              simp [Action.calls, hfresh, hcall]
      change (followWith (restricted log inner recurse) declaration before).bind _ =
        (followWith recurse declaration before).bind _
      rw [hfirst]
      cases hfollow : followWith recurse declaration before with
      | none => rfl
      | some pair =>
          refine ih pair.1 fun call hcall => hcalls call (List.mem_append_right _ ?_)
          simpa [Action.run, hfollow] using hcall

theorem nodeWith_restricted {lookup : Lookup} {budget : Nat} {around : List Site}
    (hcalls : ∀ call ∈ calls lookup (budget + 1) around site before, call ∈ log) :
    nodeWith lookup (restricted log (calls lookup budget (site :: around)) (node lookup budget))
      site before = node lookup (budget + 1) site before := by
  have hnode : node lookup (budget + 1) site before =
    nodeWith lookup (node lookup budget) site before := rfl
  rw [hnode, nodeWith_apply, nodeWith_apply, (performs_bodyWith lookup site).restricted_eq]
  exact fun call hcall => hcalls call (List.mem_cons_of_mem _ (List.mem_append_left _ hcall))

theorem run_actions_of_node {lookup : Lookup} {budget : Nat} {schema : Schema}
    (h : node lookup (budget + 1) site before = some (schema, after)) :
    ∃ done, (site.actions lookup).foldlM
        (fun before action => action.run lookup (node lookup budget) before)
        (before.opened site) = some done ∧ after = done.closed site schema := by
  have hnode : node lookup (budget + 1) site before =
    nodeWith lookup (node lookup budget) site before := rfl
  rw [hnode, nodeWith_apply] at h
  obtain ⟨⟨_, done⟩, hbody, heq⟩ := Option.bind_eq_some_iff.1 h
  obtain ⟨rfl, rfl⟩ := Prod.mk.inj (Option.some.inj heq)
  have hrun := (performs_bodyWith lookup site).run_eq (node lookup budget) (before.opened site)
  rw [hbody] at hrun
  exact ⟨done, hrun.symm, rfl⟩

theorem exists_follow_of_callsOf {lookup : Lookup} {around : List Site} {actions : List Action}
    {declaration : Site}
    (hrun : actions.foldlM (fun before action => action.run lookup recurse before) before =
      some after)
    (h : .request (.follow declaration) ∈ actions) :
    ∃ progress, .follow around declaration progress ∈
      callsOf lookup recurse inner around actions before := by
  induction actions generalizing before with
  | nil => cases h
  | cons action rest ih =>
      rw [List.foldlM_cons] at hrun
      obtain ⟨middle, hfirst, hrest⟩ := Option.bind_eq_some_iff.1 hrun
      rw [callsOf, hfirst]
      rcases List.mem_cons.1 h with rfl | h
      · exact ⟨before, List.mem_append_left _ List.mem_cons_self⟩
      · obtain ⟨progress, hcall⟩ := ih hrest h
        exact ⟨progress, List.mem_append_right _ hcall⟩

theorem exists_follow_of_node {lookup : Lookup} {budget : Nat} {schema : Schema}
    {declaration : Site} (h : node lookup (budget + 1) site before = some (schema, after))
    (hfollow : declaration ∈ site.follows lookup) (around : List Site) :
    ∃ progress, .follow (site :: around) declaration progress ∈
      calls lookup (budget + 1) around site before := by
  obtain ⟨done, hrun, _⟩ := run_actions_of_node h
  obtain ⟨progress, hcall⟩ := exists_follow_of_callsOf hrun
    (Site.request_mem_actions.2 (Site.follow_mem_requests.2 hfollow))
  exact ⟨progress, List.mem_cons_of_mem _ (List.mem_append_left _ hcall)⟩

end Restricted

/-- What is called while actions are carried out. -/
inductive Logged (program : Program) (lookup : Lookup) :
    List Site → List Action → Progress → List Call → Progress → Prop where
  | done (around : List Site) (progress : Progress) :
      Logged program lookup around [] progress [] progress
  | next {around : List Site} {action : Action} {actions : List Action}
      {before middle after : Progress} {calls later : List Call}
      (hfirst : Logged program lookup around [action] before calls middle)
      (hrest : Logged program lookup around actions middle later after) :
      Logged program lookup around (action :: actions) before (calls ++ later) after
  | ask (around : List Site) (usage : Site) (progress : Progress) :
      Logged program lookup around [.ask usage] progress [.ask usage]
        (progress.report ((lookup usage).events.map .lookup))
  | unresolved (around : List Site) (property : Site) (name detail : String)
      (progress : Progress) :
      Logged program lookup around [.unresolved property name detail] progress []
        (progress.report [.unresolved property.id name detail])
  | recorded (around : List Site) {declaration : Site} {progress : Progress} {schema : Schema}
      (hrecord : progress.expanded.get? declaration.id = some schema) :
      Logged program lookup around [.request (.follow declaration)] progress
        [.follow around declaration progress] progress
  | cut (around : List Site) {declaration : Site} {progress : Progress} (name : String)
      (hopen : declaration.id ∈ progress.expanding) :
      Logged program lookup around [.request (.follow declaration)] progress
        [.follow around declaration progress] (progress.report [.cycle declaration.id name])
  | opened {around : List Site} {declaration : Site} {before after : Progress}
      {calls : List Call} (hdeclaration : declaration ∈ program.declarations)
      (hvisit : Logged program lookup around [.request (.visit declaration)] before calls after) :
      Logged program lookup around [.request (.follow declaration)] before
        (.follow around declaration before :: calls) after
  | node {around : List Site} {site : Site} {before done : Progress} {calls : List Call}
      (schema : Schema) (hsite : site ∈ program.sites)
      (hfresh : site.isDeclaration = true → before.knows site.id = false)
      (hactions : Logged program lookup (site :: around) (site.actions lookup)
        (before.opened site) calls done) :
      Logged program lookup around [.request (.visit site)] before
        (.build site :: (calls ++ [.give site schema])) (done.closed site schema)

section Logged

variable {program : Program} {lookup : Lookup}

def LogsNodes (program : Program) (lookup : Lookup) (recurse : Site → Expand Schema)
    (inner : Site → Progress → List Call) (around : List Site) : Prop :=
  ∀ next ∈ program.sites, ∀ before schema after,
    (next.isDeclaration = true → before.knows next.id = false) →
    recurse next before = some (schema, after) →
    Logged program lookup around [.request (.visit next)] before (inner next before) after

section Actions

variable {recurse : Site → Expand Schema} {inner : Site → Progress → List Call}
variable {around : List Site} {before after : Progress}

theorem logged_follow (hnodes : LogsNodes program lookup recurse inner around)
    {declaration : Site} (hdeclaration : declaration ∈ program.declarations)
    {found : Option Schema} (hfollow : followWith recurse declaration before = some (found, after)) :
    Logged program lookup around [.request (.follow declaration)] before
      (Action.calls inner around before (.request (.follow declaration))) after := by
  cases following_of_followWith hfollow with
  | recorded hrecord =>
      have hknows : before.knows declaration.id = true :=
        Progress.knows_iff.2 (.inr (by simp [hrecord]))
      simp only [Action.calls, hknows, if_true]
      exact .recorded around hrecord
  | cut name _ hopen =>
      have hknows : before.knows declaration.id = true := Progress.knows_iff.2 (.inl hopen)
      simp only [Action.calls, hknows, if_true]
      exact .cut around name hopen
  | opened hrecord hopen hvisit =>
      have hfresh : before.knows declaration.id = false := by
        simp [Progress.knows, hrecord, hopen]
      have hmem := (Program.mem_declarations.1 hdeclaration).1
      simp only [Action.calls, hfresh, Bool.false_eq_true, if_false]
      exact .opened hdeclaration (hnodes _ hmem _ _ _ (fun _ => hfresh) hvisit)

theorem logged_callsOf (hnodes : LogsNodes program lookup recurse inner around)
    {actions : List Action}
    (hvisits : ∀ next, .request (.visit next) ∈ actions →
      next ∈ program.sites ∧ next.isDeclaration = false)
    (hfollows : ∀ next, .request (.follow next) ∈ actions → next ∈ program.declarations)
    (hrun : actions.foldlM (fun before action => action.run lookup recurse before) before =
      some after) :
    Logged program lookup around actions before
      (callsOf lookup recurse inner around actions before) after := by
  induction actions generalizing before with
  | nil =>
      obtain rfl := Option.some.inj hrun
      exact .done around before
  | cons action rest ih =>
      rw [List.foldlM_cons] at hrun
      obtain ⟨middle, hfirst, hrest⟩ := Option.bind_eq_some_iff.1 hrun
      have hlater := ih (fun next hnext => hvisits next (List.mem_cons_of_mem _ hnext))
        (fun next hnext => hfollows next (List.mem_cons_of_mem _ hnext)) hrest
      rw [callsOf, hfirst]
      refine .next ?_ hlater
      cases action with
      | ask usage =>
          obtain rfl := Option.some.inj hfirst
          exact .ask around usage before
      | unresolved property name detail =>
          obtain rfl := Option.some.inj hfirst
          exact .unresolved around property name detail before
      | request made =>
          cases made with
          | visit next =>
              obtain ⟨hnext, hplain⟩ := hvisits next List.mem_cons_self
              obtain ⟨⟨schema, _⟩, hvisit, rfl⟩ := Option.map_eq_some_iff.1 hfirst
              exact hnodes next hnext before schema _ (by simp [hplain]) hvisit
          | follow declaration =>
              obtain ⟨⟨found, _⟩, hfollow, rfl⟩ := Option.map_eq_some_iff.1 hfirst
              exact logged_follow hnodes (hfollows declaration List.mem_cons_self) hfollow

end Actions

theorem logged_calls (hlookup : lookup.Declares program)
    (hplain : ∀ site ∈ program.sites, ∀ next ∈ site.visits lookup, next.isDeclaration = false)
    (budget : Nat) (around : List Site) {site : Site} (hsite : site ∈ program.sites)
    {before after : Progress} {schema : Schema}
    (hfresh : site.isDeclaration = true → before.knows site.id = false)
    (h : Expand.node lookup budget site before = some (schema, after)) :
    Logged program lookup around [.request (.visit site)] before
      (calls lookup budget around site before) after := by
  induction budget generalizing around site before after schema with
  | zero => cases h
  | succ budget ih =>
      obtain ⟨done, hrun, rfl⟩ := run_actions_of_node h
      rw [calls, h]
      refine .node _ hsite hfresh (logged_callsOf ?_ ?_ ?_ hrun)
      · exact fun next hnext before schema after hfresh hrun => ih _ hnext hfresh hrun
      · intro next hnext
        have hvisit := Site.visit_mem_requests.1 (Site.request_mem_actions.1 hnext)
        exact ⟨(Site.holds_of_mem_visits hvisit).mem_sites hsite, hplain site hsite next hvisit⟩
      · intro next hnext
        have hfollow := Site.follow_mem_requests.1 (Site.request_mem_actions.1 hnext)
        exact hlookup site hsite next (Site.mem_sites_of_mem_follows hfollow)

end Logged

end Expand

def Event.looked? : Event → Option LookupEvent
  | lookup event => some event
  | _ => none

def Event.finished? : Event → Option NodeId
  | expanded node _ _ => some node
  | _ => none

def Event.cut? : Event → Option NodeId
  | cycle declaration _ => some declaration
  | _ => none

/-! What is under way. -/

/-- The declarations under way are the ones among the nodes that are being expanded, and none of
them is on record. -/
structure Fits (around : List Site) (progress : Progress) : Prop where
  mem_expanding : ∀ id, id ∈ progress.expanding ↔
    ∃ site ∈ around, site.isDeclaration = true ∧ site.id = id
  notMem_keys : ∀ id ∈ progress.expanding, id ∉ progress.expanded.keys

theorem Progress.knows_iff_mem {progress : Progress} {id : NodeId} :
    progress.knows id = true ↔ id ∈ progress.expanding ∨ id ∈ progress.expanded.keys := by
  rw [Progress.knows_iff, Table.get?_isSome_iff]

theorem Progress.Retains.knows_eq_false {before after : Progress} {id : NodeId}
    (h : before.Retains after)
    (hafter : after.knows id = false) : before.knows id = false := by
  cases hknows : before.knows id with
  | false => rfl
  | true =>
      rw [h id hknows] at hafter
      cases hafter

section Fits

variable {around : List Site} {site : Site} {progress done : Progress}

theorem fits_start : Fits [] .start :=
  ⟨by simp [Progress.start], by simp [Progress.start]⟩

theorem Fits.opened (h : Fits around progress)
    (hfresh : site.isDeclaration = true → progress.knows site.id = false) :
    Fits (site :: around) (progress.opened site) := by
  constructor
  · intro id
    rw [Progress.mem_expanding_opened, h.mem_expanding, List.exists_mem_cons_iff, or_comm,
      @eq_comm _ id]
  · intro id hid
    rw [Progress.expanded_opened]
    rcases (Progress.mem_expanding_opened progress site).1 hid with hid | ⟨hkind, rfl⟩
    · exact h.notMem_keys id hid
    · intro hkey
      have hknows := Progress.knows_iff_mem.2 (.inr hkey)
      rw [hfresh hkind] at hknows
      cases hknows

theorem Fits.closed (h : Fits (site :: around) done) (hbefore : Fits around progress)
    (hfresh : site.isDeclaration = true → progress.knows site.id = false) (schema : Schema) :
    Fits around (done.closed site schema) := by
  constructor
  · intro id
    rw [Progress.mem_expanding_closed, h.mem_expanding, List.exists_mem_cons_iff]
    constructor
    · rintro ⟨⟨hkind, hid⟩ | hother, hself⟩
      · exact absurd ⟨hkind, hid.symm⟩ hself
      · exact hother
    · intro hother
      refine ⟨.inr hother, ?_⟩
      rintro ⟨hkind, rfl⟩
      have hknows := Progress.knows_iff_mem.2 (.inl ((hbefore.mem_expanding _).2 hother))
      rw [hfresh hkind] at hknows
      cases hknows
  · intro id hid
    obtain ⟨hid, hself⟩ := (Progress.mem_expanding_closed done site schema).1 hid
    rw [← Table.get?_isSome_iff, Progress.get?_expanded_closed, if_neg hself,
      Table.get?_isSome_iff]
    exact h.notMem_keys id hid

theorem Fits.entries_closed (h : Fits (site :: around) done) (schema : Schema) :
    (done.closed site schema).expanded.entries =
      done.expanded.entries ++ [Call.give site schema].filterMap Call.recorded? := by
  unfold Progress.closed
  cases hkind : site.isDeclaration with
  | false => simp [Call.recorded?, hkind, Progress.expanded_report]
  | true =>
      have hkey : site.id ∉ done.expanded.keys :=
        h.notMem_keys _ ((h.mem_expanding _).2 ⟨site, List.mem_cons_self, hkind, rfl⟩)
      simp [Call.recorded?, hkind, Progress.leave, Progress.expanded_report, Table.insert,
        Table.write_of_notMem hkey]

end Fits

def Call.Fitting : Call → Prop
  | follow around _ progress => Fits around progress
  | _ => True

namespace Expand

def built (calls : List Call) : List Site := calls.filterMap Call.built?

def asked (calls : List Call) : List Site := calls.filterMap Call.asked?

def given (calls : List Call) : List (Site × Schema) := calls.filterMap Call.given?

section Lists

variable (calls later : List Call) (site : Site) (schema : Schema)

@[simp] theorem built_append : built (calls ++ later) = built calls ++ built later :=
  List.filterMap_append

@[simp] theorem asked_append : asked (calls ++ later) = asked calls ++ asked later :=
  List.filterMap_append

@[simp] theorem given_append : given (calls ++ later) = given calls ++ given later :=
  List.filterMap_append

@[simp] theorem built_node :
    built (.build site :: (calls ++ [.give site schema])) = site :: built calls :=
  congrArg (site :: ·) ((built_append calls [.give site schema]).trans (List.append_nil _))

@[simp] theorem asked_node :
    asked (.build site :: (calls ++ [.give site schema])) = asked calls :=
  (asked_append calls [.give site schema]).trans (List.append_nil _)

@[simp] theorem given_node :
    given (.build site :: (calls ++ [.give site schema])) = given calls ++ [(site, schema)] :=
  given_append calls [.give site schema]

end Lists

section Runs

variable {program : Program} {lookup : Lookup} {around : List Site} {actions : List Action}
variable {before after : Progress} {calls : List Call}

theorem Logged.fits (h : Logged program lookup around actions before calls after)
    (hbefore : Fits around before) :
    Fits around after ∧ (∀ call ∈ calls, call.Fitting) ∧
      after.expanded.entries = before.expanded.entries ++ calls.filterMap Call.recorded? := by
  induction h with
  | done => exact ⟨hbefore, by simp, by simp⟩
  | next _ _ ih ih' =>
      obtain ⟨hmiddle, hfirst, hentries⟩ := ih hbefore
      obtain ⟨hafter, hlater, hentries'⟩ := ih' hmiddle
      refine ⟨hafter, ?_, ?_⟩
      · intro call hcall
        rcases List.mem_append.1 hcall with hcall | hcall
        · exact hfirst call hcall
        · exact hlater call hcall
      · rw [hentries', hentries, List.filterMap_append, List.append_assoc]
  | ask | unresolved =>
      exact ⟨⟨hbefore.mem_expanding, hbefore.notMem_keys⟩, by simp [Call.Fitting],
        by simp [Call.recorded?, Progress.expanded_report]⟩
  | recorded | cut =>
      exact ⟨⟨hbefore.mem_expanding, hbefore.notMem_keys⟩, by simpa [Call.Fitting] using hbefore,
        by simp [Call.recorded?, Progress.expanded_report]⟩
  | opened _ _ ih =>
      obtain ⟨hafter, hcalls, hentries⟩ := ih hbefore
      refine ⟨hafter, List.forall_mem_cons.2 ⟨hbefore, hcalls⟩, ?_⟩
      rw [hentries]
      rfl
  | node schema hsite hfresh _ ih =>
      obtain ⟨hdone, hcalls, hentries⟩ := ih (hbefore.opened hfresh)
      refine ⟨hdone.closed hbefore hfresh schema, ?_, ?_⟩
      · intro call hcall
        rcases List.mem_cons.1 hcall with rfl | hcall
        · trivial
        · rcases List.mem_append.1 hcall with hcall | hcall
          · exact hcalls call hcall
          · obtain rfl := List.mem_singleton.1 hcall
            trivial
      · rw [hdone.entries_closed, hentries, Progress.expanded_opened, List.append_assoc,
          ← List.filterMap_append]
        rfl

theorem Logged.expanding_eq_nil (h : Logged program lookup [] actions .start calls after) :
    after.expanding = [] := by
  refine List.eq_nil_iff_forall_not_mem.2 fun id hid => ?_
  obtain ⟨site, hsite, _⟩ := ((h.fits fits_start).1.mem_expanding id).1 hid
  cases hsite

/-! Each declaration is expanded once. -/

theorem Logged.retains (h : Logged program lookup around actions before calls after) :
    before.Retains after := by
  induction h with
  | done => exact fun _ hid => hid
  | next _ _ ih ih' => exact ih.trans ih'
  | ask | unresolved | recorded | cut => exact fun _ hid => hid
  | opened _ _ ih => exact ih
  | node schema _ _ _ ih =>
      exact fun id hid => Progress.knows_closed _ schema (ih id (Progress.knows_opened _ hid))

/-- A declaration is expanded where it was not known, and is known from then on. -/
theorem Logged.fresh (h : Logged program lookup around actions before calls after) :
    ∀ site ∈ built calls, site.isDeclaration = true →
      before.knows site.id = false ∧ after.knows site.id = true := by
  induction h with
  | done | ask | unresolved | recorded | cut => simp [built, Call.built?]
  | next hfirst hrest ih ih' =>
      intro site hsite hkind
      rw [built_append, List.mem_append] at hsite
      rcases hsite with hsite | hsite
      · obtain ⟨hbefore, hmiddle⟩ := ih site hsite hkind
        exact ⟨hbefore, hrest.retains _ hmiddle⟩
      · obtain ⟨hmiddle, hafter⟩ := ih' site hsite hkind
        exact ⟨hfirst.retains.knows_eq_false hmiddle, hafter⟩
  | opened _ _ ih => exact ih
  | node schema _ hfresh hactions ih =>
      intro site hsite hkind
      rw [built_node, List.mem_cons] at hsite
      rcases hsite with rfl | hsite
      · refine ⟨hfresh hkind, Progress.knows_closed _ schema ?_⟩
        exact hactions.retains _ (Progress.knows_opened_self hkind)
      · obtain ⟨hopened, hdone⟩ := ih site hsite hkind
        refine ⟨Progress.Retains.knows_eq_false ?_ hopened, Progress.knows_closed _ schema hdone⟩
        exact fun _ => Progress.knows_opened _

theorem Logged.nodup_declarations
    (h : Logged program lookup around actions before calls after) :
    (((built calls).filter Site.isDeclaration).map Site.id).Nodup := by
  induction h with
  | done | ask | unresolved | recorded | cut => exact List.nodup_nil
  | next hfirst hrest ih ih' =>
      rw [built_append, List.filter_append, List.map_append, List.nodup_append]
      refine ⟨ih, ih', ?_⟩
      -- what the first action expands is known when the others begin
      rintro id hid _ hid' rfl
      obtain ⟨site, hsite, rfl⟩ := List.mem_map.1 hid
      obtain ⟨other, hother, hsame⟩ := List.mem_map.1 hid'
      have hknown := (hfirst.fresh site (List.mem_filter.1 hsite).1 (List.mem_filter.1 hsite).2).2
      have hfresh := (hrest.fresh other (List.mem_filter.1 hother).1
        (List.mem_filter.1 hother).2).1
      rw [hsame, hknown] at hfresh
      cases hfresh
  | opened _ _ ih => exact ih
  | @node _ site _ _ _ _ _ _ hactions ih =>
      rw [built_node]
      cases hkind : site.isDeclaration with
      | false => rwa [List.filter_cons_of_neg (by simp [hkind])]
      | true =>
          rw [List.filter_cons_of_pos hkind, List.map_cons, List.nodup_cons]
          refine ⟨fun hid => ?_, ih⟩
          obtain ⟨other, hother, hsame⟩ := List.mem_map.1 hid
          have hfresh := (hactions.fresh other (List.mem_filter.1 hother).1
            (List.mem_filter.1 hother).2).1
          rw [hsame, Progress.knows_opened_self hkind] at hfresh
          cases hfresh

theorem Logged.perm_given (h : Logged program lookup around actions before calls after) :
    ((given calls).map Prod.fst).Perm (built calls) := by
  induction h with
  | done | ask | unresolved | recorded | cut => exact .nil
  | next _ _ ih ih' =>
      rw [given_append, List.map_append, built_append]
      exact ih.append ih'
  | opened _ _ ih => exact ih
  | node schema _ _ _ ih =>
      rw [given_node, List.map_append, built_node]
      exact List.perm_append_comm.trans (ih.cons _)

theorem split_append {first second earlier later : List Call} {call : Call}
    (h : first ++ second = earlier ++ call :: later) :
    (∃ rest, earlier = first ++ rest ∧ second = rest ++ call :: later) ∨
      ∃ rest, first = earlier ++ call :: rest := by
  rcases List.append_eq_append_iff.1 h with hsecond | ⟨rest, hfirst, hrest⟩
  · exact .inl hsecond
  · cases rest with
    | nil => exact .inl ⟨[], by simp [hfirst], hrest.symm⟩
    | cons other rest =>
        obtain ⟨rfl, _⟩ := List.cons.inj hrest
        exact .inr ⟨rest, hfirst⟩

/-- The nodes around a reference are the ones whose expansion has begun before it and has not
ended. -/
theorem Logged.perm_around (h : Logged program lookup around actions before calls after)
    {inner : List Site} {declaration : Site} {progress : Progress} {earlier later : List Call}
    (hcalls : calls = earlier ++ .follow inner declaration progress :: later) :
    ∃ begun, inner = begun ++ around ∧
      (built earlier).Perm (begun ++ (given earlier).map Prod.fst) := by
  induction h generalizing earlier later with
  | done | unresolved => simp at hcalls
  | ask =>
      cases earlier with
      | nil => cases hcalls
      | cons first rest => simp at hcalls
  | recorded | cut =>
      cases earlier with
      | nil =>
          cases hcalls
          exact ⟨[], rfl, .nil⟩
      | cons first rest => simp at hcalls
  | opened _ _ ih =>
      cases earlier with
      | nil =>
          cases hcalls
          exact ⟨[], rfl, .nil⟩
      | cons first rest =>
          injection hcalls with hfirst hrest
          subst hfirst
          exact @ih rest later hrest
  | next hfirst _ ih ih' =>
      rcases split_append hcalls with ⟨rest, rfl, hsecond⟩ | ⟨rest, hrest⟩
      · -- whatever the first action has begun is over by then
        obtain ⟨begun, hinner, hperm⟩ := ih' hsecond
        refine ⟨begun, hinner, ?_⟩
        rw [built_append, given_append, List.map_append]
        exact (hfirst.perm_given.symm.append hperm).trans (List.perm_append_comm_assoc ..)
      · exact ih hrest
  | @node _ site _ _ _ _ _ _ _ ih =>
      cases earlier with
      | nil => cases hcalls
      | cons first rest =>
          injection hcalls with hfirst hrest
          subst hfirst
          rcases split_append hrest with ⟨last, rfl, hlast⟩ | ⟨last, hinside⟩
          · cases last with
            | nil => cases hlast
            | cons call last => simp at hlast
          · obtain ⟨begun, rfl, hperm⟩ := ih hinside
            refine ⟨begun ++ [site], by simp, ?_⟩
            have hsite : (built (.build site :: rest)).Perm
                (site :: (begun ++ (given rest).map Prod.fst)) := hperm.cons site
            refine hsite.trans ?_
            rw [List.append_assoc]
            exact List.perm_middle.symm

theorem Logged.mem_built_of_recorded
    (h : Logged program lookup around actions before calls after) {id : NodeId} {schema : Schema}
    (hrecorded : (id, schema) ∈ calls.filterMap Call.recorded?) :
    ∃ site ∈ built calls, site.isDeclaration = true ∧ site.id = id := by
  obtain ⟨call, hcall, hsome⟩ := List.mem_filterMap.1 hrecorded
  cases call with
  | give site _ =>
      simp only [Call.recorded?] at hsome
      split at hsome
      · rename_i hkind
        cases hsome
        have hgiven : (site, schema) ∈ given calls := List.mem_filterMap.2 ⟨_, hcall, rfl⟩
        exact ⟨site, h.perm_given.subset (List.mem_map.2 ⟨_, hgiven, rfl⟩), hkind, rfl⟩
      · cases hsome
  | _ => cases hsome

/-! What a run reports of it. -/

theorem Logged.looked (h : Logged program lookup around actions before calls after) :
    after.events.filterMap Event.looked? = before.events.filterMap Event.looked? ++
      (asked calls).flatMap fun usage => (lookup usage).events := by
  induction h with
  | done => exact (List.append_nil _).symm
  | next _ _ ih ih' =>
      rw [ih', ih, asked_append, List.flatMap_append, List.append_assoc]
  | ask around usage progress =>
      rw [Progress.events_report, List.filterMap_append, List.filterMap_map]
      congr 1
      exact (List.filterMap_some ..).trans (List.append_nil _).symm
  | unresolved | cut =>
      rw [Progress.events_report, List.filterMap_append]
      rfl
  | recorded => exact (List.append_nil _).symm
  | opened _ _ ih => exact ih
  | node schema _ _ _ ih =>
      rw [asked_node, Progress.events_closed, List.filterMap_append, ih, Progress.events_opened]
      exact List.append_nil _

theorem Logged.finished (h : Logged program lookup around actions before calls after) :
    after.events.filterMap Event.finished? = before.events.filterMap Event.finished? ++
      (given calls).map fun pair => pair.1.id := by
  induction h with
  | done => exact (List.append_nil _).symm
  | next _ _ ih ih' =>
      rw [ih', ih, given_append, List.map_append, List.append_assoc]
  | ask around usage progress =>
      rw [Progress.events_report, List.filterMap_append, List.filterMap_map]
      congr 1
      exact List.filterMap_eq_nil_iff.2 fun _ _ => rfl
  | unresolved | cut =>
      rw [Progress.events_report, List.filterMap_append]
      rfl
  | recorded => exact (List.append_nil _).symm
  | opened _ _ ih => exact ih
  | node schema _ _ _ ih =>
      rw [given_node, Progress.events_closed, List.filterMap_append, ih, Progress.events_opened,
        List.map_append, List.append_assoc]
      rfl

theorem Logged.mem_built_of_visit (h : Logged program lookup around actions before calls after)
    {site : Site} (hvisit : .request (.visit site) ∈ actions) : site ∈ built calls := by
  induction h with
  | done => cases hvisit
  | next _ _ ih ih' =>
      rw [built_append, List.mem_append]
      rcases List.mem_cons.1 hvisit with rfl | hvisit
      · exact .inl (ih List.mem_cons_self)
      · exact .inr (ih' hvisit)
  | node =>
      cases List.mem_singleton.1 hvisit
      rw [built_node]
      exact List.mem_cons_self
  | _ => cases List.mem_singleton.1 hvisit

/-- Every reference that is cut is reported, and no other. -/
theorem Logged.cuts (h : Logged program lookup around actions before calls after)
    (hbefore : Fits around before) :
    after.events.filterMap Event.cut? =
      before.events.filterMap Event.cut? ++ calls.filterMap Call.cut? := by
  induction h with
  | done => exact (List.append_nil _).symm
  | next hfirst _ ih ih' =>
      rw [ih' (hfirst.fits hbefore).1, ih hbefore, List.filterMap_append, List.append_assoc]
  | ask around usage progress =>
      rw [Progress.events_report, List.filterMap_append, List.filterMap_map]
      congr 1
      exact List.filterMap_eq_nil_iff.2 fun _ _ => rfl
  | unresolved =>
      rw [Progress.events_report, List.filterMap_append]
      rfl
  | @recorded _ declaration progress _ hrecord =>
      -- what is on record is not under way
      have hclosed : declaration.id ∉ progress.expanding := fun hopen =>
        hbefore.notMem_keys _ hopen (Table.get?_isSome_iff.1 (by simp [hrecord]))
      simp [Call.cut?, hclosed]
  | cut _ name hopen =>
      rw [Progress.events_report, List.filterMap_append]
      simp [Event.cut?, Call.cut?, hopen]
  | @opened _ declaration progress _ _ hdeclaration hvisit ih =>
      have hbuilt := hvisit.mem_built_of_visit List.mem_cons_self
      have hfresh := (hvisit.fresh _ hbuilt (Program.mem_declarations.1 hdeclaration).2).1
      have hclosed : declaration.id ∉ progress.expanding := fun hopen => by
        rw [Progress.knows_iff_mem.2 (.inl hopen)] at hfresh
        cases hfresh
      rw [ih hbefore]
      simp [Call.cut?, hclosed]
  | node schema _ hfresh _ ih =>
      rw [Progress.events_closed, List.filterMap_append, ih (hbefore.opened hfresh),
        Progress.events_opened, List.append_assoc]
      simp [Event.cut?, Call.cut?, List.filterMap_cons]

/-! Where a run comes to. -/

theorem Logged.reaches (h : Logged program lookup around actions before calls after) :
    ∀ site ∈ built calls, ∃ request, .request request ∈ actions ∧
      Site.Reaches lookup request.site site := by
  induction h with
  | done | ask | unresolved | recorded | cut => simp [built, Call.built?]
  | next _ _ ih ih' =>
      intro site hsite
      rw [built_append, List.mem_append] at hsite
      rcases hsite with hsite | hsite
      · obtain ⟨request, hrequest, hreaches⟩ := ih site hsite
        obtain rfl := List.mem_singleton.1 hrequest
        exact ⟨request, List.mem_cons_self, hreaches⟩
      · obtain ⟨request, hrequest, hreaches⟩ := ih' site hsite
        exact ⟨request, List.mem_cons_of_mem _ hrequest, hreaches⟩
  | opened _ _ ih =>
      intro site hsite
      obtain ⟨request, hrequest, hreaches⟩ := ih site hsite
      cases List.mem_singleton.1 hrequest
      exact ⟨_, List.mem_singleton.2 rfl, hreaches⟩
  | node schema _ _ _ ih =>
      intro other hother
      refine ⟨_, List.mem_singleton.2 rfl, ?_⟩
      rw [built_node, List.mem_cons] at hother
      rcases hother with rfl | hother
      · exact .refl
      · obtain ⟨request, hrequest, hreaches⟩ := ih other hother
        have hrefers := Site.refers_iff_mem_requests.2
          ⟨request, Site.request_mem_actions.1 hrequest, rfl⟩
        exact .head hrefers hreaches

theorem Logged.mem_sites (h : Logged program lookup around actions before calls after) :
    ∀ site ∈ built calls, site ∈ program.sites := by
  induction h with
  | done | ask | unresolved | recorded | cut => simp [built, Call.built?]
  | next _ _ ih ih' =>
      intro site hsite
      rw [built_append, List.mem_append] at hsite
      exact hsite.elim (ih site) (ih' site)
  | opened _ _ ih => exact ih
  | node schema hsite _ _ ih =>
      rw [built_node]
      exact List.forall_mem_cons.2 ⟨hsite, ih⟩

end Runs

section Reachable

variable {program : Program} {lookup : Lookup} {root : Site}

theorem exists_home (hlookup : lookup.Declares program) (hroot : root ∈ program.declarations)
    {site : Site} (h : Site.Reaches lookup root site) :
    ∃ home ∈ program.declarations, Relation.ReflTransGen (Site.PointsTo lookup) root home ∧
      Site.Visits lookup home site := by
  induction h with
  | refl => exact ⟨root, hroot, .refl, .refl⟩
  | @tail middle next hmiddle hrefers ih =>
      obtain ⟨home, hhome, hpoints, hvisits⟩ := ih
      rcases hrefers with hvisit | hfollow
      · exact ⟨home, hhome, hpoints, hvisits.tail hvisit⟩
      · have hmem := Site.Reaches.mem_sites hmiddle hlookup.within
          (Program.mem_declarations.1 hroot).1
        have hnext := hlookup middle hmem next (Site.mem_sites_of_mem_follows hfollow)
        exact ⟨next, hnext, hpoints.tail ⟨middle, hvisits, hfollow⟩, .refl⟩

theorem pointsTo_of_reaches (hlookup : lookup.Declares program)
    (hplain : ∀ site ∈ program.sites, ∀ next ∈ site.visits lookup, next.isDeclaration = false)
    (hroot : root ∈ program.declarations) {declaration : Site}
    (hkind : declaration.isDeclaration = true) (h : Site.Reaches lookup root declaration) :
    Relation.ReflTransGen (Site.PointsTo lookup) root declaration := by
  obtain ⟨home, hhome, hpoints, hvisits⟩ := exists_home hlookup hroot h
  rcases Relation.ReflTransGen.cases_tail hvisits with rfl | ⟨middle, hmiddle, hvisit⟩
  · exact hpoints
  · have hmem := Site.Reaches.mem_sites (Site.Visits.reaches hmiddle) hlookup.within
      (Program.mem_declarations.1 hhome).1
    rw [hplain middle hmem declaration hvisit] at hkind
    cases hkind

theorem mem_keys_of_pointsTo (hprogram : program.Built) (hlookup : lookup.Declares program)
    (hroot : root ∈ program.declarations) {budget : Nat} {schema : Schema} {after : Progress}
    (hnode : node lookup budget root .start = some (schema, after))
    (hover : after.expanding = []) {declaration : Site}
    (h : Relation.ReflTransGen (Site.PointsTo lookup) root declaration) :
    declaration ∈ program.sites ∧ declaration.id ∈ after.expanded.keys := by
  obtain ⟨hmem, hkind⟩ := Program.mem_declarations.1 hroot
  obtain ⟨hadvances, _, hknows⟩ :=
    node_settles hprogram hlookup.within budget hmem grounded_start hnode
  have hrecorded {id : NodeId} (hid : after.knows id = true) : id ∈ after.expanded.keys :=
    (Progress.knows_iff_mem.1 hid).resolve_left (by simp [hover])
  induction h with
  | refl => exact ⟨hmem, hrecorded (hknows hkind)⟩
  | tail _ hpoints ih =>
      obtain ⟨usage, hvisits, hfollow⟩ := id hpoints
      have hsettled := hadvances.grounded.settled _ ih.1 (Table.get?_isSome_iff.2 ih.2)
      have husage := hvisits.reaches.mem_sites hlookup.within ih.1
      have hnext := hlookup usage husage _ (Site.mem_sites_of_mem_follows hfollow)
      obtain ⟨hmem, hkind⟩ := Program.mem_declarations.1 hnext
      exact ⟨hmem, hrecorded (hsettled.known usage hvisits.enters _ hfollow hkind)⟩

theorem mem_keys_iff_pointsTo (hprogram : program.Built) (hlookup : lookup.Declares program)
    (hplain : ∀ site ∈ program.sites, ∀ next ∈ site.visits lookup, next.isDeclaration = false)
    (hroot : root ∈ program.declarations) {budget : Nat} {schema : Schema} {after : Progress}
    {calls : List Call} (hnode : node lookup budget root .start = some (schema, after))
    (hlog : Logged program lookup [] [.request (.visit root)] .start calls after) (id : NodeId) :
    id ∈ after.expanded.keys ↔ ∃ declaration,
      Relation.ReflTransGen (Site.PointsTo lookup) root declaration ∧ declaration.id = id := by
  constructor
  · intro hid
    obtain ⟨⟨_, given⟩, hentry, rfl⟩ := List.mem_map.1 hid
    rw [(hlog.fits fits_start).2.2] at hentry
    obtain ⟨site, hsite, hdeclares, rfl⟩ := hlog.mem_built_of_recorded hentry
    obtain ⟨request, hrequest, hreaches⟩ := hlog.reaches site hsite
    cases List.mem_singleton.1 hrequest
    exact ⟨site, pointsTo_of_reaches hlookup hplain hroot hdeclares hreaches, rfl⟩
  · rintro ⟨declaration, hpoints, rfl⟩
    exact (mem_keys_of_pointsTo hprogram hlookup hroot hnode hlog.expanding_eq_nil hpoints).2

end Reachable

end Expand

end Keypath
