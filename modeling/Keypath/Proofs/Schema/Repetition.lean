import Keypath.Proofs.Schema.Assembly
import Keypath.Proofs.Schema.Calls

/-!
Expanding a declaration again and again.

While a declaration is expanded for the first time, references back to it are cut. When it is
expanded again it is on record, and the record is asked before what is under way, so the same
references give the schema of the expansion before. All other declarations that it leads to are on
record by then and give what they gave. So each schema is put together from the one before it:
nothing changes when no property of the declaration names the declaration itself, and a key of the
declaration's own type nests one level deeper each time.
-/

namespace Keypath

open Keypath.Tree

namespace Progress

/-- What is on record stays on record. -/
def Extends (before after : Progress) : Prop :=
  ∀ id schema, before.expanded.get? id = some schema → after.expanded.get? id = some schema

/-- Nothing was done besides reporting. -/
structure Still (before after : Progress) : Prop where
  expanded : after.expanded = before.expanded
  expanding : after.expanding = before.expanding

section Relations

variable {before middle after : Progress}

theorem Extends.trans (h : before.Extends middle) (h' : middle.Extends after) :
    before.Extends after :=
  fun id schema hrecord => h' id schema (h id schema hrecord)

theorem Still.refl (progress : Progress) : progress.Still progress := ⟨rfl, rfl⟩

theorem Still.report (progress : Progress) (events : List Event) :
    progress.Still (progress.report events) := ⟨rfl, rfl⟩

theorem Still.trans (h : before.Still middle) (h' : middle.Still after) : before.Still after :=
  ⟨h'.expanded.trans h.expanded, h'.expanding.trans h.expanding⟩

theorem Still.extends (h : before.Still after) : before.Extends after := by
  intro id schema hrecord
  rw [h.expanded, hrecord]

theorem Still.knows_eq (h : before.Still after) (id : NodeId) :
    after.knows id = before.knows id := by
  simp only [knows, h.expanded, h.expanding]

theorem opened_of_plain (progress : Progress) {site : Site} (h : site.isDeclaration = false) :
    progress.opened site = progress := by
  simp [opened, h]

theorem closed_of_plain (progress : Progress) {site : Site} (h : site.isDeclaration = false)
    (schema : Schema) :
    progress.closed site schema = progress.report [.expanded site.id site.kind schema.size] := by
  simp [closed, h]

end Relations

end Progress

theorem Fits.still {around : List Site} {before after : Progress} (h : Fits around before)
    (hstill : before.Still after) : Fits around after := by
  refine ⟨fun id => ?_, fun id hid => ?_⟩
  · rw [hstill.expanding, h.mem_expanding]
  · rw [hstill.expanding] at hid
    rw [hstill.expanded]
    exact h.notMem_keys id hid

theorem Fits.get?_eq_none {around : List Site} {progress : Progress} (h : Fits around progress)
    {id : NodeId} (hopen : id ∈ progress.expanding) : progress.expanded.get? id = none := by
  have hkeys := h.notMem_keys id hopen
  rwa [← Table.get?_isSome_iff, Option.not_isSome_iff_eq_none] at hkeys

namespace Expand

/-! A run that ended can be had again from what it left, and from whatever comes later. -/

section Replays

variable {α β : Type} {around : List Site}

/-- Every run that ends can be repeated later on, and does nothing then. -/
def Replays (around : List Site) (first : Expand α) : Prop :=
  ∀ before value after, Fits around before → first before = some (value, after) →
    Fits around after ∧ before.Extends after ∧
    ∀ later, Fits around later → after.Extends later →
      ∃ last, first later = some (value, last) ∧ later.Still last

theorem Replays.pure (value : α) : Replays around (pure value) := by
  intro before _ _ hbefore hrun
  obtain ⟨rfl, rfl⟩ := Prod.mk.inj (Option.some.inj hrun)
  exact ⟨hbefore, fun _ _ h => h, fun later _ _ => ⟨later, rfl, .refl later⟩⟩

theorem Replays.report (events : List Event) : Replays around (Expand.report events) := by
  intro before _ _ hbefore hrun
  obtain ⟨rfl, rfl⟩ := Prod.mk.inj (Option.some.inj hrun)
  exact ⟨hbefore.still (.report _ _), fun _ _ h => h,
    fun later _ _ => ⟨_, rfl, .report later events⟩⟩

theorem Replays.bind {first : Expand α} {next : α → Expand β} (h : Replays around first)
    (hnext : ∀ value, Replays around (next value)) : Replays around (first >>= next) := by
  intro before value after hbefore hrun
  obtain ⟨given, middle, hfirst, hrest⟩ := bind_eq_some.1 hrun
  obtain ⟨hmiddle, hextends, hagain⟩ := h before given middle hbefore hfirst
  obtain ⟨hafter, hextends', hagain'⟩ := hnext given middle value after hmiddle hrest
  refine ⟨hafter, hextends.trans hextends', fun later hlater hfrom => ?_⟩
  obtain ⟨then', hthen, hstill⟩ := hagain later hlater (hextends'.trans hfrom)
  obtain ⟨last, hlast, hstill'⟩ :=
    hagain' then' (hlater.still hstill) (hfrom.trans hstill.extends)
  exact ⟨last, bind_eq_some.2 ⟨given, then', hthen, hlast⟩, hstill.trans hstill'⟩

theorem Asks.replays {requests : List Request} {body : (Site → Expand Schema) → Expand α}
    {recurse : Site → Expand Schema} (h : Asks requests body)
    (hvisits : ∀ site, .visit site ∈ requests → Replays around (recurse site))
    (hfollows : ∀ declaration, .follow declaration ∈ requests →
      Replays around (followWith recurse declaration)) :
    Replays around (body recurse) := by
  induction h with
  | done value => exact .pure value
  | report events _ _ ih => exact (Replays.report events).bind fun _ => ih hvisits hfollows
  | visit site _ ih =>
      refine (hvisits site List.mem_cons_self).bind fun schema => ih schema ?_ ?_
      · exact fun next hnext => hvisits next (List.mem_cons_of_mem _ hnext)
      · exact fun next hnext => hfollows next (List.mem_cons_of_mem _ hnext)
  | follow declaration _ ih =>
      refine (hfollows declaration List.mem_cons_self).bind fun found => ih found ?_ ?_
      · exact fun next hnext => hvisits next (List.mem_cons_of_mem _ hnext)
      · exact fun next hnext => hfollows next (List.mem_cons_of_mem _ hnext)

variable {program : Program} {lookup : Lookup}

theorem get?_of_node {budget : Nat} {declaration : Site} {before after : Progress}
    {schema : Schema} (hdeclaration : declaration.isDeclaration = true)
    (h : node lookup budget declaration before = some (schema, after)) :
    after.expanded.get? declaration.id = some schema := by
  cases budget with
  | zero => cases h
  | succ budget =>
      obtain ⟨done, _, rfl⟩ := steps_of_nodeWith h
      rw [Progress.get?_expanded_closed, if_pos ⟨hdeclaration, rfl⟩]

theorem node_extends (hgrammar : program.Grammatical) (hlookup : lookup.Declares program)
    {budget : Nat} {site : Site} (hsite : site ∈ program.sites) {before after : Progress}
    {schema : Schema} (hbefore : Fits around before)
    (hfresh : site.isDeclaration = true → before.knows site.id = false)
    (h : node lookup budget site before = some (schema, after)) :
    Fits around after ∧ before.Extends after := by
  have hlogged := logged_calls hlookup
    (fun _ hsite _ hvisit => hgrammar.isDeclaration_of_mem_visits hsite hvisit) budget around hsite
    hfresh h
  obtain ⟨hafter, _, hentries⟩ := hlogged.fits hbefore
  exact ⟨hafter, fun id recorded hrecord => Table.get?_of_entries_append hentries hrecord⟩

theorem replays_followWith (hgrammar : program.Grammatical) (hlookup : lookup.Declares program)
    (budget : Nat) {declaration : Site} (hmem : declaration ∈ program.declarations) :
    Replays around (followWith (node lookup budget) declaration) := by
  obtain ⟨hsite, hdeclaration⟩ := Program.mem_declarations.1 hmem
  intro before found after hbefore hrun
  cases following_of_followWith hrun with
  | @recorded schema hrecord =>
      refine ⟨hbefore, fun _ _ h => h, fun later _ hfrom => ⟨later, ?_, .refl later⟩⟩
      rw [followWith_apply, hfrom _ _ hrecord]
  | cut name hrecord hopen =>
      refine ⟨hbefore.still (.report _ _), fun _ _ h => h, fun later hlater hfrom => ?_⟩
      -- what is under way is the same later on, so it is not on record
      have hopen' : declaration.id ∈ later.expanding :=
        (hlater.mem_expanding _).2 ((hbefore.mem_expanding _).1 hopen)
      rw [followWith_apply]
      simp only [hlater.get?_eq_none hopen', hopen', if_true]
      exact ⟨_, rfl, .report later _⟩
  | @opened schema _ hrecord hopen hvisit =>
      have hfresh : before.knows declaration.id = false := by
        simp [Progress.knows, hrecord, hopen]
      obtain ⟨hafter, hextends⟩ :=
        node_extends hgrammar hlookup hsite hbefore (fun _ => hfresh) hvisit
      refine ⟨hafter, hextends, fun later _ hfrom => ⟨later, ?_, .refl later⟩⟩
      rw [followWith_apply, hfrom _ _ (get?_of_node hdeclaration hvisit)]

theorem replays_bodyWith (hgrammar : program.Grammatical) (hlookup : lookup.Declares program)
    {budget : Nat} {site : Site} (hsite : site ∈ program.sites)
    (hvisits : ∀ next ∈ site.visits lookup, Replays around (node lookup budget next)) :
    Replays around (bodyWith lookup (node lookup budget) site) := by
  refine (asks_bodyWith lookup site).replays ?_ ?_
  · exact fun next hnext => hvisits next (Site.visit_mem_requests.1 hnext)
  · intro declaration hnext
    have hfollow := Site.mem_sites_of_mem_follows (Site.follow_mem_requests.1 hnext)
    exact replays_followWith hgrammar hlookup budget (hlookup site hsite declaration hfollow)

theorem nodeWith_of_plain (recurse : Site → Expand Schema) {site : Site}
    (hplain : site.isDeclaration = false) :
    nodeWith lookup recurse site = bodyWith lookup recurse site >>= fun schema =>
      Expand.report [.expanded site.id site.kind schema.size] >>= fun _ => Pure.pure schema := by
  funext progress
  simp only [nodeWith_apply, Progress.opened_of_plain progress hplain,
    Progress.closed_of_plain _ hplain]
  rfl

theorem replays_node (hgrammar : program.Grammatical) (hlookup : lookup.Declares program)
    (budget : Nat) {site : Site} (hsite : site ∈ program.sites)
    (hplain : site.isDeclaration = false) : Replays around (node lookup budget site) := by
  induction budget generalizing site with
  | zero => exact fun _ _ _ _ hrun => nomatch hrun
  | succ budget ih =>
      have hvisits : ∀ next ∈ site.visits lookup, Replays around (node lookup budget next) :=
        fun next hnext => ih ((Site.holds_of_mem_visits hnext).mem_sites hsite)
          (hgrammar.isDeclaration_of_mem_visits hsite hnext)
      rw [node, nodeWith_of_plain _ hplain]
      exact (replays_bodyWith hgrammar hlookup hsite hvisits).bind fun schema =>
        (Replays.report _).bind fun _ => .pure schema

end Replays

/-! Where all references are known, a run does nothing. -/

section Known

variable {program : Program} {lookup : Lookup}

theorem keptByFollows_of_known {budget : Nat} {site : Site} {progress : Progress}
    (hknown : ∀ other, Site.PointsTo lookup site other → progress.knows other.id = true) :
    KeptByFollows True progress.Still
      (fun declaration found => found = progress.expanded.get? declaration.id)
      (node lookup budget) (site.follows lookup) := by
  intro declaration hfollow before hbefore
  apply outcome_followWith
  · intro schema hrecord
    rw [hbefore.expanded] at hrecord
    exact ⟨hbefore, hrecord.symm⟩
  · intro hrecord _ name
    rw [hbefore.expanded] at hrecord
    exact ⟨hbefore.trans (.report before _), hrecord.symm⟩
  · intro hrecord hopen
    have hknows : before.knows declaration.id = true :=
      (hbefore.knows_eq _).trans (hknown declaration ⟨site, .refl, hfollow⟩)
    simp [Progress.knows, hrecord, hopen] at hknows

theorem outcome_bodyWith_of_known {budget : Nat} {site : Site} {progress : Progress}
    (hknown : ∀ other, Site.PointsTo lookup site other → progress.knows other.id = true)
    (hvisits : KeptByVisits True progress.Still (Assembled lookup progress.expanded.get?)
      (node lookup budget) (site.visits lookup)) :
    Outcome True
      (fun schema after => progress.Still after ∧
        Assembled lookup progress.expanded.get? site schema)
      (bodyWith lookup (node lookup budget) site progress) := by
  have hreports : KeptByReports progress.Still :=
    fun before events _ hbefore => hbefore.trans (.report before events)
  refine (outcome_bodyWith hreports hvisits (keptByFollows_of_known hknown) (.refl progress)).imp ?_
  rintro _ after ⟨hstill, found, hfound, rfl⟩
  refine ⟨hstill, assemblyClosed_assembled lookup _ site _ ⟨found, hfound, ?_⟩⟩
  rw [foldl_addFound]
  rfl

theorem keptByVisits_of_known (hgrammar : program.Grammatical) (budget : Nat) {site : Site}
    (hsite : site ∈ program.sites) {progress : Progress}
    (hknown : ∀ other, Site.PointsTo lookup site other → progress.knows other.id = true) :
    KeptByVisits True progress.Still (Assembled lookup progress.expanded.get?)
      (node lookup budget) (site.visits lookup) := by
  induction budget generalizing site progress with
  | zero => exact fun _ _ _ _ => trivial
  | succ budget ih =>
      intro next hnext before hbefore
      have hinner := (Site.holds_of_mem_visits hnext).mem_sites hsite
      have hplain := hgrammar.isDeclaration_of_mem_visits hsite hnext
      have hknown' : ∀ other, Site.PointsTo lookup next other → before.knows other.id = true := by
        rintro other ⟨usage, husage, hfollow⟩
        exact (hbefore.knows_eq _).trans (hknown other ⟨usage, .head hnext husage, hfollow⟩)
      rw [node, nodeWith_of_plain _ hplain]
      refine outcome_bind (outcome_bodyWith_of_known hknown' (ih hinner hknown')) ?_
      rintro schema after ⟨hstill, hschema⟩
      exact ⟨hbefore.trans (hstill.trans (.report after _)), hbefore.expanded ▸ hschema⟩

theorem assembled_of_bodyWith (hgrammar : program.Grammatical) {budget : Nat} {site : Site}
    (hsite : site ∈ program.sites) {progress done : Progress} {schema : Schema}
    (hknown : ∀ other, Site.PointsTo lookup site other → progress.knows other.id = true)
    (h : bodyWith lookup (node lookup budget) site progress = some (schema, done)) :
    progress.Still done ∧ Assembled lookup progress.expanded.get? site schema := by
  have hrun := outcome_bodyWith_of_known hknown
    (keptByVisits_of_known hgrammar budget hsite hknown)
  rw [h] at hrun
  exact hrun

end Known

/-! A declaration that is expanded over and over. -/

section Rebuilt

variable {program : Program} {lookup : Lookup} {declaration : Site}

/-- What is left when the declaration was expanded last and gave `latest`. -/
structure Rebuilt (lookup : Lookup) (declaration : Site) (others : NodeId → Option Schema)
    (latest : Schema) (progress : Progress) : Prop where
  expanding : progress.expanding = []
  expanded : progress.expanded.get? = Function.update others declaration.id (some latest)
  settled : Settled lookup progress declaration

theorem Settled.knows_of_pointsTo (hlookup : lookup.Declares program) {progress : Progress}
    {site other : Site} (hsite : site ∈ program.sites) (h : Settled lookup progress site)
    (hpoints : Site.PointsTo lookup site other) : progress.knows other.id = true := by
  obtain ⟨usage, hvisits, hfollow⟩ := hpoints
  have husage := hvisits.reaches.mem_sites hlookup.within hsite
  have hother := hlookup usage husage other (Site.mem_sites_of_mem_follows hfollow)
  exact h.known usage hvisits.enters other hfollow (Program.mem_declarations.1 hother).2

theorem get?_closed (hdeclaration : declaration.isDeclaration = true) (done : Progress)
    (schema : Schema) : (done.closed declaration schema).expanded.get? =
      Function.update done.expanded.get? declaration.id (some schema) := by
  funext id
  rw [Progress.get?_expanded_closed]
  by_cases hid : id = declaration.id
  · rw [if_pos ⟨hdeclaration, hid⟩, hid, Function.update_self]
  · rw [if_neg fun h => hid h.2, Function.update_of_ne hid]

theorem knows_of_closed (hdeclaration : declaration.isDeclaration = true) {done : Progress}
    {schema : Schema} (hopen : declaration.id ∈ done.expanding) {id : NodeId}
    (h : (done.closed declaration schema).knows id = true) : done.knows id = true := by
  rw [Progress.knows_iff, Progress.mem_expanding_closed, get?_closed hdeclaration] at h
  by_cases hself : id = declaration.id
  · exact Progress.knows_iff.2 (.inl (hself ▸ hopen))
  · rw [Function.update_of_ne hself] at h
    exact Progress.knows_iff.2 (h.imp_left And.left)

/-- The first expansion, as if all other declarations had been on record before. -/
theorem exists_rebuilt (hprogram : program.Built) (hgrammar : program.Grammatical)
    (hlookup : lookup.Declares program) (hmem : declaration ∈ program.declarations) {budget : Nat}
    {first : Schema} {after : Progress}
    (h : node lookup budget declaration .start = some (first, after)) :
    ∃ others, others declaration.id = none ∧ Assembled lookup others declaration first ∧
      Rebuilt lookup declaration others first after := by
  obtain ⟨hsite, hdeclaration⟩ := Program.mem_declarations.1 hmem
  have hplain : ∀ site ∈ program.sites, ∀ next ∈ site.visits lookup, next.isDeclaration = false :=
    fun _ hsite _ hnext => hgrammar.isDeclaration_of_mem_visits hsite hnext
  have hexpanding := (logged_calls hlookup hplain budget [] hsite (fun _ => rfl) h).expanding_eq_nil
  obtain ⟨_, hsettled, _⟩ := node_settles hprogram hlookup.within budget hsite grounded_start h
  cases budget with
  | zero => cases h
  | succ budget =>
      rw [node, nodeWith_apply] at h
      obtain ⟨⟨_, done⟩, hbody, heq⟩ := Option.bind_eq_some_iff.1 h
      obtain ⟨rfl, rfl⟩ := Prod.mk.inj (Option.some.inj heq)
      have hreplays : Replays [declaration] (bodyWith lookup (node lookup budget) declaration) :=
        replays_bodyWith hgrammar hlookup hsite fun next hnext =>
          replays_node hgrammar hlookup budget ((Site.holds_of_mem_visits hnext).mem_sites hsite)
            (hplain declaration hsite next hnext)
      obtain ⟨hdone, _, hagain⟩ := hreplays _ _ _ (fits_start.opened fun _ => rfl) hbody
      have hopen : declaration.id ∈ done.expanding :=
        (hdone.mem_expanding _).2 ⟨declaration, List.mem_singleton_self _, hdeclaration, rfl⟩
      -- at its end all references are known, so the run is had again from there
      have hknown : ∀ other, Site.PointsTo lookup declaration other →
          done.knows other.id = true := fun other hpoints =>
        knows_of_closed hdeclaration hopen (hsettled.knows_of_pointsTo hlookup hsite hpoints)
      obtain ⟨last, hlast, _⟩ := hagain done hdone fun _ _ h => h
      obtain ⟨_, hassembled⟩ := assembled_of_bodyWith hgrammar hsite hknown hlast
      exact ⟨done.expanded.get?, hdone.get?_eq_none hopen, hassembled, hexpanding,
        get?_closed hdeclaration done _, hsettled⟩

theorem Rebuilt.next (hgrammar : program.Grammatical) (hlookup : lookup.Declares program)
    (hmem : declaration ∈ program.declarations) {others : NodeId → Option Schema} {budget : Nat}
    {latest next : Schema} {progress after : Progress}
    (h : Rebuilt lookup declaration others latest progress)
    (hnode : node lookup budget declaration progress = some (next, after)) :
    Assembled lookup (Function.update others declaration.id (some latest)) declaration next ∧
      Rebuilt lookup declaration others next after := by
  obtain ⟨hsite, hdeclaration⟩ := Program.mem_declarations.1 hmem
  cases budget with
  | zero => cases hnode
  | succ budget =>
      rw [node, nodeWith_apply] at hnode
      obtain ⟨⟨_, done⟩, hbody, heq⟩ := Option.bind_eq_some_iff.1 hnode
      obtain ⟨rfl, rfl⟩ := Prod.mk.inj (Option.some.inj heq)
      have hknown : ∀ other, Site.PointsTo lookup declaration other →
          (progress.opened declaration).knows other.id = true := fun other hpoints =>
        Progress.knows_opened declaration (h.settled.knows_of_pointsTo hlookup hsite hpoints)
      obtain ⟨hstill, hassembled⟩ := assembled_of_bodyWith hgrammar hsite hknown hbody
      rw [Progress.expanded_opened, h.expanded] at hassembled
      refine ⟨hassembled, ?_, ?_, ?_⟩
      · refine List.eq_nil_iff_forall_not_mem.2 fun id hid => ?_
        obtain ⟨hid, hother⟩ := (Progress.mem_expanding_closed done declaration _).1 hid
        rw [hstill.expanding, Progress.mem_expanding_opened, h.expanding] at hid
        exact hother (hid.resolve_left List.not_mem_nil)
      · rw [get?_closed hdeclaration, hstill.expanded, Progress.expanded_opened, h.expanded,
          Function.update_idem]
      · refine h.settled.retained fun id hid => Progress.knows_closed declaration _ ?_
        rw [hstill.knows_eq]
        exact Progress.knows_opened declaration hid

/-- What the next expansion gives, when the latest is on record. -/
def Renewed (lookup : Lookup) (declaration : Site) (others : NodeId → Option Schema)
    (latest next : Schema) : Prop :=
  Assembled lookup (Function.update others declaration.id (some latest)) declaration next

theorem Rebuilt.run (hgrammar : program.Grammatical) (hlookup : lookup.Declares program)
    (hmem : declaration ∈ program.declarations) {others : NodeId → Option Schema}
    {latest : Schema} {progress : Progress}
    (h : Rebuilt lookup declaration others latest progress) (count : Nat) :
    ∃ later last, later.length = count ∧
      (List.replicate count declaration).mapM (node lookup program.budget) progress =
        some (later, last) ∧
      (latest :: later).IsChain (Renewed lookup declaration others) := by
  induction count generalizing latest progress with
  | zero => exact ⟨[], progress, rfl, rfl, .singleton latest⟩
  | succ count ih =>
      obtain ⟨next, middle, hnode⟩ :=
        exists_node hlookup (Program.mem_declarations.1 hmem).1 progress
      obtain ⟨hnext, hrebuilt⟩ := h.next hgrammar hlookup hmem hnode
      obtain ⟨later, last, rfl, hrest, hchain⟩ := ih hrebuilt
      rw [List.replicate_succ]
      exact ⟨next :: later, last, rfl,
        mapM_cons_eq_some.2 ⟨next, middle, later, hnode, hrest, rfl⟩, .cons_cons hnext hchain⟩

theorem eq_replicate_of_isChain {others : NodeId → Option Schema} {latest : Schema}
    {later : List Schema} (hself : Renewed lookup declaration others latest latest)
    (hchain : (latest :: later).IsChain (Renewed lookup declaration others)) :
    later = List.replicate later.length latest := by
  induction later with
  | nil => rfl
  | cons next later ih =>
      obtain ⟨hnext, hrest⟩ := List.isChain_cons_cons.1 hchain
      obtain rfl : next = latest := Assembled.unique hnext hself
      rw [List.length_cons, List.replicate_succ, ← ih hrest]

theorem sizeOf_children_lt {schema children : Schema} {name : String}
    (h : (schema.get? name).bind Entry.children = some children) :
    sizeOf children < sizeOf schema := by
  obtain ⟨entry, hentry, hchildren⟩ := Option.bind_eq_some_iff.1 h
  have hlt := Table.sizeOf_lookup? hentry
  obtain ⟨kind, elementKind, _, detail⟩ := entry
  obtain rfl : _ = some children := hchildren
  obtain ⟨entries⟩ := schema
  simp only [Entry.mk.sizeOf_spec, Option.some.sizeOf_spec, Table.mk.sizeOf_spec] at hlt ⊢
  omega

/-- Under a key of the declaration's own type stands the schema of the expansion before. -/
theorem isChain_children (hgrammar : program.Grammatical) (hsite : declaration ∈ program.sites)
    {name : String} (hnests : Nests lookup declaration name) {given others : NodeId → Option Schema}
    {latest : Schema} {later : List Schema} (hlatest : Assembled lookup given declaration latest)
    (hchain : (latest :: later).IsChain (Renewed lookup declaration others)) :
    (latest :: later).IsChain fun latest next =>
      (next.get? name).bind Entry.children = some latest := by
  induction later generalizing latest given with
  | nil => exact .singleton latest
  | cons next later ih =>
      obtain ⟨hnext, hrest⟩ := List.isChain_cons_cons.1 hchain
      refine .cons_cons ?_ (ih hnext hrest)
      rw [hnests.children hgrammar hsite hnext, Function.update_self, hlatest.childrenOf_eq]

theorem nodup_of_isChain_children {name : String} {schemas : List Schema}
    (h : schemas.IsChain fun latest next => (next.get? name).bind Entry.children = some latest) :
    schemas.Nodup := by
  have hsizes : (schemas.map sizeOf).IsChain (· < ·) :=
    (List.isChain_map sizeOf).2 (h.imp fun _ _ => sizeOf_children_lt)
  exact .of_map sizeOf ((List.isChain_iff_pairwise.1 hsizes).imp Nat.ne_of_lt)

/-- However often a declaration is expanded, all expansions end. The first schema is put together
from what is on record for the other declarations then, and nothing for the declaration itself. Each
later one is put together in the same way with the one before it for the declaration. They are all
the same when no property that is written in the declaration names the declaration itself; it may
extend itself, and other declarations may refer to it. No two are the same when a key of an
interface is of the interface's own type. -/
theorem node_renews (hprogram : program.Built) (hgrammar : program.Grammatical)
    (hlookup : lookup.Declares program) (hmem : declaration ∈ program.declarations) :
    ∃ first after, node lookup program.budget declaration .start = some (first, after) ∧
      let others := Function.update after.expanded.get? declaration.id none
      Assembled lookup others declaration first ∧
      ∀ count, ∃ later last,
        (List.replicate (count + 1) declaration).mapM (node lookup program.budget) .start =
          some (first :: later, last) ∧
        (first :: later).IsChain (Renewed lookup declaration others) ∧
        (¬NamesItself lookup declaration → later = List.replicate count first) ∧
        ∀ name, Nests lookup declaration name → (first :: later).Nodup := by
  obtain ⟨first, after, hnode⟩ := exists_node hlookup (Program.mem_declarations.1 hmem).1 .start
  obtain ⟨others, hnone, hfirst, hrebuilt⟩ := exists_rebuilt hprogram hgrammar hlookup hmem hnode
  have hothers : Function.update after.expanded.get? declaration.id none = others := by
    rw [hrebuilt.expanded, Function.update_idem, ← hnone, Function.update_eq_self]
  refine ⟨first, after, hnode, ?_⟩
  rw [hothers]
  refine ⟨hfirst, fun count => ?_⟩
  obtain ⟨later, last, rfl, hrest, hchain⟩ := hrebuilt.run hgrammar hlookup hmem count
  refine ⟨later, last, mapM_cons_eq_some.2 ⟨first, after, later, hnode, hrest, rfl⟩, hchain, ?_, ?_⟩
  · intro hown
    refine eq_replicate_of_isChain ?_ hchain
    exact hfirst.update_self hprogram hgrammar hlookup.within hmem hown hnone
  · intro name hnests
    have hsite := (Program.mem_declarations.1 hmem).1
    exact nodup_of_isChain_children (isChain_children hgrammar hsite hnests hfirst hchain)

/-- The references between `A` and `B` are cut once and then always answered alike. -/
theorem node_renews_mutually :
    let program := Outline.program mutualSample
    let root := Outline.site mutualSample ⟨0, Nat.zero_lt_succ 1⟩
    program.Built ∧ program.Grammatical ∧ program.lookup.Declares program ∧
    root ∈ program.declarations ∧ ¬NamesItself program.lookup root ∧
    ∃ first last, first.keys = ["a", "b"] ∧ (∃ event ∈ last.events, event.isCycle = true) ∧
      (List.replicate 3 root).mapM (node program.lookup program.budget) .start =
        some ([first, first, first], last) := by
  intro program root
  have hprogram : program.Built := Outline.built_program _
  have hgrammar : program.Grammatical := ⟨by decide +kernel, by decide +kernel⟩
  have hlookup : program.lookup.Declares program := Program.lookup_declares (by decide +kernel)
  have hroot : root ∈ program.declarations := Outline.site_mem_declarations _ _
  have hnested : ∀ property ∈ root.members, property.literal?.isSome = false := by decide +kernel
  have hnamed : ∀ property ∈ root.members, ∀ other ∈ property.named program.lookup,
      other.id ≠ root.id := by decide +kernel
  have hwithin : ∀ property, root.WritesWithin property → property ∈ root.members := by
    intro property hwrites
    induction hwrites with
    | own hwrites =>
        cases hwrites with
        | member _ hmember => exact hmember
        | aliased halias => exact absurd halias (by decide +kernel)
    | nested _ _ hliteral _ _ ih =>
        have hnone := hnested _ ih
        rw [hliteral] at hnone
        cases hnone
  have hown : ¬NamesItself program.lookup root := by
    rintro ⟨property, hwrites, _, hmem⟩
    exact hnamed property (hwithin property hwrites) root hmem rfl
  have hrun : ((List.replicate 3 root).mapM (node program.lookup program.budget) .start).any
      (fun pair => pair.1.all (fun schema => schema.keys == ["a", "b"]) &&
        pair.2.events.any Event.isCycle) = true := by decide +kernel
  obtain ⟨first, _, _, _, hruns⟩ := node_renews hprogram hgrammar hlookup hroot
  obtain ⟨later, last, hsome, _, heq, _⟩ := hruns 2
  obtain rfl := heq hown
  rw [hsome] at hrun
  obtain ⟨hkeys, hcycle⟩ := Bool.and_eq_true_iff.1 hrun
  exact ⟨hprogram, hgrammar, hlookup, hroot, hown, first, last,
    eq_of_beq (List.all_eq_true.1 hkeys first List.mem_cons_self), List.any_eq_true.1 hcycle, hsome⟩

/-- `N` has a key of its own type. -/
def ownKeySample : List Outline := [⟨'N', none, [⟨'n', some 'N'⟩]⟩]

/-- The key of `N` has no keys in the first schema and has them in the second. -/
theorem node_changes_when_repeated :
    let program := Outline.program ownKeySample
    let root := Outline.site ownKeySample ⟨0, by decide +kernel⟩
    ¬∃ schema last, (List.replicate 2 root).mapM (node program.lookup program.budget) .start =
      some ([schema, schema], last) := by
  intro program root
  rintro ⟨schema, last, hruns⟩
  have hfirst : ((List.replicate 2 root).mapM (node program.lookup program.budget) .start).any
      (fun pair => ((pair.1[0]?.bind (Table.get? · "n")).bind Entry.children).isSome) = false := by
    decide +kernel
  have hsecond : ((List.replicate 2 root).mapM (node program.lookup program.budget) .start).any
      (fun pair => ((pair.1[1]?.bind (Table.get? · "n")).bind Entry.children).isSome) = true := by
    decide +kernel
  rw [hruns] at hfirst hsecond
  exact Bool.false_ne_true (hfirst.symm.trans hsecond)

end Rebuilt

end Expand

end Keypath
