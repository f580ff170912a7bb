import Keypath.Proofs.Schema.Calls
import Keypath.Proofs.Schema.Visitors

/-!
Nothing is done twice in an expansion.

A declaration is expanded where it is not known yet, and is known from then on. Any other node is
expanded only where it is visited, and there is one node that it can be visited from, which stands
around it. So no node is expanded twice, going from the outside to the inside of a tree, and no usage
is asked about twice.
-/

namespace Keypath

open Keypath.Tree

/-! What a node does itself. -/

namespace Action

def visited? : Action → Option Site
  | request (.visit site) => some site
  | _ => none

def asked? : Action → Option Site
  | ask usage => some usage
  | _ => none

end Action

theorem Part.visited_requests (lookup : Lookup) (part : Part) :
    ((part.requests lookup).map Action.request).filterMap Action.visited? = part.visits := by
  have hvisits (sites : List Site) :
      ((sites.map Request.visit).map Action.request).filterMap Action.visited? = sites := by
    rw [List.map_map, List.filterMap_map]
    exact List.filterMap_some ..
  have hfollows (sites : List Site) :
      ((sites.map Request.follow).map Action.request).filterMap Action.visited? = [] := by
    rw [List.map_map, List.filterMap_map]
    exact List.filterMap_eq_nil_iff.2 fun _ _ => rfl
  rw [Part.requests, List.map_append, List.filterMap_append, hvisits, hfollows, List.append_nil]

namespace Site

theorem visited_actions (lookup : Lookup) (site : Site) :
    (site.actions lookup).filterMap Action.visited? = site.visits lookup := by
  have hrequests (actions : List Action) : actions.filterMap Action.visited? =
      ((actions.filterMap Action.request?).map Action.request).filterMap Action.visited? := by
    induction actions with
    | nil => rfl
    | cons action rest ih =>
        cases action with
        | request made =>
            cases made with
            | visit next => exact congrArg (next :: ·) ih
            | follow next => exact ih
        | _ => exact ih
  rw [hrequests, requests_actions, requests, List.map_flatMap, List.filterMap_flatMap]
  exact List.flatMap_congr fun part _ => part.visited_requests lookup

theorem asked_referenceActions (lookup : Lookup) (site : Site) (name detail : String) :
    (site.referenceActions lookup name detail).filterMap Action.asked? = [site] := by
  unfold referenceActions
  change site :: List.filterMap Action.asked? _ = [site]
  split
  · rfl
  · rw [List.filterMap_map]
    exact congrArg (site :: ·) (List.filterMap_eq_nil_iff.2 fun _ _ => rfl)

theorem asked_keyActions (lookup : Lookup) (site : Site) (name : String) :
    (site.keyActions lookup name).filterMap Action.asked? = [] ∨
      (site.keyActions lookup name).filterMap Action.asked? = [site] := by
  unfold keyActions
  split
  · exact .inl rfl
  · split
    · exact .inr (asked_referenceActions lookup site name _)
    · split
      · exact .inl rfl
      · exact .inl rfl

theorem asked_actionsOf (lookup : Lookup) (site : Site) (shape : Shape) :
    (site.actionsOf lookup shape).filterMap Action.asked? = [] ∨
      (site.actionsOf lookup shape).filterMap Action.asked? = [site] := by
  have hnone (sites : List Site) (request : Site → Request) :
      (sites.map fun next => Action.request (request next)).filterMap Action.asked? = [] := by
    rw [List.filterMap_map]
    exact List.filterMap_eq_nil_iff.2 fun _ _ => rfl
  cases shape with
  | interface | typeLiteral | typeAlias => exact .inl (hnone _ _)
  | property =>
      simp only [actionsOf]
      cases site.propertyName? with
      | none => exact .inl rfl
      | some name => simpa using asked_keyActions lookup site name
  | importing | heritage => exact .inr (congrArg (site :: ·) (hnone _ _))
  | arrayType => exact .inl rfl

end Site

theorem Program.Grammatical.asked_actions {program : Program} (hgrammar : program.Grammatical)
    (lookup : Lookup) {site : Site} (hsite : site ∈ program.sites) :
    (site.actions lookup).filterMap Action.asked? = [] ∨
      (site.actions lookup).filterMap Action.asked? = [site] := by
  obtain ⟨shape, hshape, honly⟩ := hgrammar.exists_only hsite
  rw [Site.actions, honly.flatMap_eq hshape]
  split
  · exact Site.asked_actionsOf lookup site shape
  · exact .inl rfl

namespace Expand

section Counts

/-- How often a node is among others. -/
def times (id : NodeId) (sites : List Site) : Nat := (sites.map Site.id).count id

theorem times_append (id : NodeId) (sites others : List Site) :
    times id (sites ++ others) = times id sites + times id others := by
  simp [times]

theorem times_cons (id : NodeId) (site : Site) (others : List Site) :
    times id (site :: others) = times id [site] + times id others :=
  times_append id [site] others

variable {program : Program} {lookup : Lookup} {around : List Site} {actions : List Action}
variable {before after : Progress} {calls : List Call} {id : NodeId}

theorem Logged.times_built (h : Logged program lookup around actions before calls after)
    (hid : ∀ declaration ∈ program.declarations, declaration.id ≠ id) :
    times id (built calls) ≤ times id (actions.filterMap Action.visited?) +
      times id ((built calls).flatMap (Site.visits lookup)) := by
  induction h with
  | done | ask | unresolved | recorded | cut => exact Nat.zero_le _
  | @next _ action actions _ _ _ _ _ _ _ ih ih' =>
      have hactions : (action :: actions).filterMap Action.visited? =
          [action].filterMap Action.visited? ++ actions.filterMap Action.visited? := by
        rw [← List.filterMap_append]
        rfl
      rw [built_append, List.flatMap_append, hactions]
      simp only [times_append]
      omega
  | @opened _ declaration _ _ _ hdeclaration _ ih =>
      have hother : times id [declaration] = 0 := by
        simp [times, hid declaration hdeclaration]
      exact ih.trans (Nat.add_le_add_right (hother.le.trans (Nat.zero_le _)) _)
  | @node _ site _ _ calls _ _ _ _ ih =>
      rw [Site.visited_actions] at ih
      rw [built_node, List.flatMap_cons, times_cons, times_append]
      change _ ≤ times id [site] + _
      omega

theorem Logged.times_asked (hgrammar : program.Grammatical)
    (h : Logged program lookup around actions before calls after) :
    times id (asked calls) ≤
      times id (actions.filterMap Action.asked?) + times id (built calls) := by
  induction h with
  | done | unresolved | recorded | cut => exact Nat.zero_le _
  | ask => exact Nat.le_refl _
  | @next _ action actions _ _ _ _ _ _ _ ih ih' =>
      have hactions : (action :: actions).filterMap Action.asked? =
          [action].filterMap Action.asked? ++ actions.filterMap Action.asked? := by
        rw [← List.filterMap_append]
        rfl
      rw [built_append, asked_append, hactions]
      simp only [times_append]
      omega
  | opened _ _ ih => exact ih
  | @node _ site _ _ _ _ hsite _ _ ih =>
      rw [built_node, asked_node, times_cons]
      rcases hgrammar.asked_actions lookup hsite with hnone | hself
      · rw [hnone] at ih
        have hzero : times id [] = 0 := rfl
        omega
      · rw [hself] at ih
        omega

theorem times_flatMap_le {sites : List Site} {pieces : Site → List Site} {other : NodeId}
    (h : ∀ site ∈ sites, times id (pieces site) ≤ times other [site]) :
    times id (sites.flatMap pieces) ≤ times other sites := by
  induction sites with
  | nil => exact Nat.le_refl _
  | cons site rest ih =>
      rw [List.flatMap_cons, times_append, times_cons]
      exact Nat.add_le_add (h site List.mem_cons_self)
        (ih fun next hnext => h next (List.mem_cons_of_mem _ hnext))

theorem times_filter {sites : List Site} {test : Site → Bool}
    (h : ∀ site ∈ sites, site.id = id → test site = true) :
    times id (sites.filter test) = times id sites := by
  induction sites with
  | nil => rfl
  | cons site rest ih =>
      have hrest := ih fun next hnext => h next (List.mem_cons_of_mem _ hnext)
      rw [times_cons, List.filter_cons]
      split
      · rw [times_cons, hrest]
      · rename_i htest
        have hid : site.id ≠ id := fun hid => htest (h site List.mem_cons_self hid)
        simp [times, hid] at hrest ⊢
        exact hrest

theorem times_eq_zero {sites : List Site} (h : ∀ site ∈ sites, site.id ≠ id) :
    times id sites = 0 := by
  apply List.count_eq_zero_of_not_mem
  intro hid
  obtain ⟨site, hsite, hsame⟩ := List.mem_map.1 hid
  exact h site hsite hsame

end Counts

section Run

variable {program : Program} {lookup : Lookup} {root : Site}
variable {after : Progress} {calls : List Call}

theorem exists_home_of_built (hlookup : lookup.Declares program)
    (hroot : root ∈ program.declarations)
    (hlog : Logged program lookup [] [.request (.visit root)] .start calls after) {site : Site}
    (hsite : site ∈ built calls) :
    ∃ home ∈ program.declarations, Site.Visits lookup home site := by
  obtain ⟨request, hrequest, hreaches⟩ := hlog.reaches site hsite
  cases List.mem_singleton.1 hrequest
  obtain ⟨home, hhome, _, hvisits⟩ := exists_home hlookup hroot hreaches
  exact ⟨home, hhome, hvisits⟩

theorem times_visits_le (hprogram : program.Built) (hgrammar : program.Grammatical)
    (hlookup : lookup.Declares program) (hroot : root ∈ program.declarations)
    (hlog : Logged program lookup [] [.request (.visit root)] .start calls after)
    {site visitor other : Site} (hvisitor : visitor ∈ built calls)
    (hvisited : site ∈ visitor.visits lookup) (hother : other ∈ built calls) :
    times site.id (other.visits lookup) ≤ times visitor.id [other] := by
  have hmem := hlog.mem_sites other hother
  have hsites : ∀ next ∈ other.visits lookup, next ∈ program.sites :=
    fun next hnext => (Site.holds_of_mem_visits hnext).mem_sites hmem
  have hsite := (Site.holds_of_mem_visits hvisited).mem_sites (hlog.mem_sites visitor hvisitor)
  by_cases hid : ∃ next ∈ other.visits lookup, next.id = site.id
  · obtain ⟨next, hnext, hsame⟩ := hid
    obtain rfl := hprogram.eq_of_id_eq (hsites next hnext) hsite hsame
    obtain ⟨home, hhome, hvisits⟩ := exists_home_of_built hlookup hroot hlog hvisitor
    obtain ⟨home', hhome', hvisits'⟩ := exists_home_of_built hlookup hroot hlog hother
    obtain rfl := Site.visitor_unique hgrammar hhome hhome' hvisits hvisits' hvisited hnext
    have hnodup : ((visitor.visits lookup).map Site.id).Nodup :=
      (hgrammar.nodup_visits hmem).map_on fun first hfirst second hsecond =>
        hprogram.eq_of_id_eq (hsites first hfirst) (hsites second hsecond)
    have hself : times visitor.id [visitor] = 1 := by simp [times]
    rw [hself]
    exact List.nodup_iff_count_le_one.1 hnodup next.id
  · rw [times_eq_zero fun next hnext hsame => hid ⟨next, hnext, hsame⟩]
    exact Nat.zero_le _

theorem times_built_le_one (hprogram : program.Built) (hgrammar : program.Grammatical)
    (hlookup : lookup.Declares program) (hroot : root ∈ program.declarations)
    (hlog : Logged program lookup [] [.request (.visit root)] .start calls after) {site : Site}
    (hsite : site ∈ built calls) : times site.id (built calls) ≤ 1 := by
  have hmem := hlog.mem_sites
  -- from the outside of the trees to the inside
  induction hdepth : site.focus.above.length using Nat.strong_induction_on generalizing site with
  | _ depth ih =>
      by_cases hkind : site.isDeclaration = true
      · have hfilter : times site.id ((built calls).filter Site.isDeclaration) =
            times site.id (built calls) := by
          refine times_filter fun other hother hsame => ?_
          rw [hprogram.eq_of_id_eq (hmem other hother) (hmem site hsite) hsame]
          exact hkind
        rw [← hfilter]
        exact List.nodup_iff_count_le_one.1 hlog.nodup_declarations site.id
      · have hplain : ∀ declaration ∈ program.declarations, declaration.id ≠ site.id := by
          intro declaration hdeclaration hsame
          obtain ⟨hdeclared, hdeclares⟩ := Program.mem_declarations.1 hdeclaration
          rw [hprogram.eq_of_id_eq hdeclared (hmem site hsite) hsame] at hdeclares
          exact hkind hdeclares
        have hcount := hlog.times_built hplain
        have htop : times site.id ([Action.request (.visit root)].filterMap Action.visited?) = 0 :=
          times_eq_zero fun other hother => by
            obtain rfl := List.mem_singleton.1 hother
            exact hplain other hroot
        rw [htop, Nat.zero_add] at hcount
        refine hcount.trans ?_
        by_cases hvisited : ∃ visitor ∈ built calls, site ∈ visitor.visits lookup
        · obtain ⟨visitor, hvisitor, hvisit⟩ := hvisited
          have hless : visitor.focus.above.length < depth :=
            hdepth ▸ (Site.holds_of_mem_visits hvisit).2.length_above_lt
          refine le_trans ?_ (ih _ hless hvisitor rfl)
          exact times_flatMap_le fun other hother =>
            times_visits_le hprogram hgrammar hlookup hroot hlog hvisitor hvisit hother
        · rw [times_eq_zero]
          · exact Nat.zero_le _
          · intro next hnext hsame
            obtain ⟨visitor, hvisitor, hvisit⟩ := List.mem_flatMap.1 hnext
            have hnext := (Site.holds_of_mem_visits hvisit).mem_sites (hmem visitor hvisitor)
            obtain rfl := hprogram.eq_of_id_eq hnext (hmem site hsite) hsame
            exact hvisited ⟨visitor, hvisitor, hvisit⟩

theorem nodup_asked (hprogram : program.Built) (hgrammar : program.Grammatical)
    (hlookup : lookup.Declares program) (hroot : root ∈ program.declarations)
    (hlog : Logged program lookup [] [.request (.visit root)] .start calls after) :
    ((asked calls).map Site.id).Nodup := by
  rw [List.nodup_iff_count_le_one]
  intro id
  have hasked : times id (asked calls) ≤ 0 + times id (built calls) := hlog.times_asked hgrammar
  rw [Nat.zero_add] at hasked
  refine hasked.trans ?_
  by_cases hid : ∃ site ∈ built calls, site.id = id
  · obtain ⟨site, hsite, rfl⟩ := hid
    exact times_built_le_one hprogram hgrammar hlookup hroot hlog hsite
  · rw [times_eq_zero fun site hsite hsame => hid ⟨site, hsite, hsame⟩]
    exact Nat.zero_le _

/-- A run of a declaration from the start. Whenever a reference is followed, the nodes around it are
those whose expansion has begun and not ended, the declarations under way are the ones among them,
and none of these is on record. Every declaration is expanded at most once; in trees of the grammar
every usage is asked about at most once. In the end nothing is under way, and on record are the
declarations that references lead to from the root, each with the schema that its expansion gave.
The run reports the questions and the expansions of the log, and no others. -/
theorem node_expands_once (hprogram : program.Built) (hlookup : lookup.Declares program)
    (hmembers : ∀ site ∈ program.sites,
      site.has .interface = true ∨ site.has .typeLiteral = true →
      ∀ member ∈ site.members, member.isDeclaration = false)
    (hentries : ∀ site ∈ program.sites, site.has .interface = true →
      ∀ entry ∈ site.heritageEntries, entry.isDeclaration = false)
    (hroot : root ∈ program.declarations) :
    ∃ schema after, node lookup program.budget root .start = some (schema, after) ∧
      let log := Expand.calls lookup program.budget [] root .start
      (∀ earlier around declaration progress later,
        log = earlier ++ .follow around declaration progress :: later →
        (built earlier).Perm (around ++ (given earlier).map Prod.fst) ∧
        (∀ id, id ∈ progress.expanding ↔
          ∃ site ∈ around, site.isDeclaration = true ∧ site.id = id) ∧
        ∀ id ∈ progress.expanding, id ∉ progress.expanded.keys) ∧
      (((built log).filter Site.isDeclaration).map Site.id).Nodup ∧
      (program.Grammatical → ((asked log).map Site.id).Nodup) ∧
      after.expanding = [] ∧
      (∀ id, id ∈ after.expanded.keys ↔ ∃ declaration,
        Relation.ReflTransGen (Site.PointsTo lookup) root declaration ∧ declaration.id = id) ∧
      after.expanded.entries = log.filterMap Call.recorded? ∧
      after.events.filterMap Event.looked? =
        (asked log).flatMap (fun usage => (lookup usage).events) ∧
      after.events.filterMap Event.finished? = (given log).map (fun pair => pair.1.id) ∧
      ((given log).map Prod.fst).Perm (built log) := by
  have hmem := (Program.mem_declarations.1 hroot).1
  have hplain := Site.isDeclaration_of_mem_visits lookup hmembers hentries
  obtain ⟨schema, after, hnode⟩ := exists_node hlookup hmem .start
  have hlog := logged_calls hlookup hplain program.budget [] hmem (fun _ => rfl) hnode
  obtain ⟨_, hcalls, hrecord⟩ := hlog.fits fits_start
  refine ⟨schema, after, hnode, ?_, hlog.nodup_declarations,
    fun hgrammar => nodup_asked hprogram hgrammar hlookup hroot hlog, hlog.expanding_eq_nil,
    mem_keys_iff_pointsTo hprogram hlookup hplain hroot hnode hlog, hrecord, hlog.looked,
    hlog.finished, hlog.perm_given⟩
  intro earlier around declaration progress later hsplit
  obtain ⟨begun, haround, hperm⟩ := hlog.perm_around hsplit
  obtain rfl : around = begun := haround.trans (List.append_nil _)
  have hfitting : Fits around progress := hcalls (.follow around declaration progress) (by
    rw [hsplit]
    exact List.mem_append_right _ List.mem_cons_self)
  exact ⟨hperm, hfitting.mem_expanding, hfitting.notMem_keys⟩

set_option maxRecDepth 10000 in
theorem node_expands_once_in_circle :
    let program := Outline.program circleSample
    let root := Outline.site circleSample ⟨0, Nat.zero_lt_succ 2⟩
    program.Built ∧ program.lookup.Declares program ∧ program.Grammatical ∧
    root ∈ program.declarations ∧
    ∃ schema after, node program.lookup program.budget root .start = some (schema, after) ∧
      let log := Expand.calls program.lookup program.budget [] root .start
      (built log).length = 7 ∧ (asked log).length = 3 ∧ after.expanded.keys.length = 3 ∧
      (((built log).filter Site.isDeclaration).map Site.id).Nodup ∧
      ((asked log).map Site.id).Nodup ∧ after.expanding = [] ∧
      after.expanded.entries = log.filterMap Call.recorded? := by
  intro program root
  have hprogram : program.Built := Outline.built_program _
  have hlookup : program.lookup.Declares program :=
    Program.lookup_declares_of_wellLaid hprogram (by decide +kernel)
  have hgrammar : program.Grammatical := ⟨by decide +kernel, by decide +kernel⟩
  have hroot : root ∈ program.declarations := Outline.site_mem_declarations _ _
  have hbuilt : (built (Expand.calls program.lookup program.budget [] root .start)).length = 7 := by
    decide +kernel
  have hasked : (asked (Expand.calls program.lookup program.budget [] root .start)).length = 3 := by
    decide +kernel
  have hkeys : (node program.lookup program.budget root .start).map
      (fun pair => pair.2.expanded.keys.length) = some 3 := by decide +kernel
  obtain ⟨schema, after, hnode, _, hdeclarations, hquestions, hover, _, hentries, _⟩ :=
    node_expands_once hprogram hlookup (by decide +kernel) (by decide +kernel) hroot
  rw [hnode] at hkeys
  exact ⟨hprogram, hlookup, hgrammar, hroot, schema, after, hnode, hbuilt, hasked,
    Option.some.inj hkeys, hdeclarations, hquestions hgrammar, hover, hentries⟩

end Run

end Expand

end Keypath
