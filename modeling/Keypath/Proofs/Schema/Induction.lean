import Mathlib.Data.Set.Basic
import Keypath.Proofs.Schema.Grammar
import Keypath.Proofs.Schema.Termination

/-!
Induction over expansions.

An expansion composes the schema of every node from schemas of the nodes it refers to. Which
declarations are under way around a node decides where it is cut, so what is said of schemas may
depend on them. A property of schemas that is closed under such compositions holds of the schema of
every node and, with what was under way when it was made, of every record.
-/

namespace Keypath

open Keypath.Tree

/-- References from the node do not go on without end. -/
def Acyclic (lookup : Lookup) (site : Site) : Prop :=
  Acc (fun next site => Site.Refers lookup site next) site

theorem not_acyclic_of_refers {lookup : Lookup} {site next : Site}
    (hrefers : Site.Refers lookup site next) (hback : Site.Reaches lookup next site) :
    ¬Acyclic lookup site := by
  intro hacyclic
  induction hacyclic generalizing next with
  | intro site _ ih =>
      rcases Relation.ReflTransGen.cases_head hback with rfl | ⟨middle, hmiddle, hrest⟩
      · exact ih next hrefers hrefers .refl
      · exact ih next hrefers hmiddle (hrest.tail hrefers)

/-- The declarations under way inside a node, when those of `outer` are under way around it. -/
def Site.underWay (site : Site) (outer : Set NodeId) : Set NodeId :=
  {id | id ∈ outer ∨ site.isDeclaration = true ∧ id = site.id}

/-- `Around` follows the expansion from node to node. With `guarded` no declaration is begun that is
under way. -/
structure Nesting (program : Program) (lookup : Lookup) (guarded : Prop)
    (Around : Set NodeId → Site → Prop) : Prop where
  grammatical : guarded → program.Grammatical
  visit : ∀ {outer : Set NodeId} {site next : Site}, site ∈ program.sites → Around outer site →
    next ∈ site.visits lookup → Around (site.underWay outer) next
  follow : ∀ {outer : Set NodeId} {site next : Site}, site ∈ program.sites → Around outer site →
    next ∈ site.follows lookup → (guarded → next.id ∉ site.underWay outer) →
    Around (site.underWay outer) next
  reaches : ∀ {outer : Set NodeId} {site : Site}, Around outer site → ∀ id ∈ outer,
    ∃ declaration ∈ program.sites, declaration.id = id ∧ Site.Reaches lookup declaration site

theorem Nesting.reaches_inside {program : Program} {lookup : Lookup} {guarded : Prop}
    {Around : Set NodeId → Site → Prop} (hnesting : Nesting program lookup guarded Around)
    (hprogram : program.Built) {outer : Set NodeId} {site declaration : Site}
    (hsite : site ∈ program.sites) (haround : Around outer site)
    (hmem : declaration ∈ program.sites) (hopen : declaration.id ∈ site.underWay outer) :
    Site.Reaches lookup declaration site := by
  rcases hopen with hopen | ⟨_, hself⟩
  · obtain ⟨other, hother, hid, hreaches⟩ := hnesting.reaches haround _ hopen
    obtain rfl := hprogram.eq_of_id_eq hother hmem hid
    exact hreaches
  · obtain rfl := hprogram.eq_of_id_eq hmem hsite hself
    exact .refl

namespace Expand

section Induction

variable {program : Program} {lookup : Lookup} {guarded : Prop}
variable {Around : Set NodeId → Site → Prop} {Good : Set NodeId → Site → Schema → Prop}

/-- A followed declaration gives a schema that is good for what was under way when it was made, or
it is cut. -/
def Followed (guarded : Prop) (Around : Set NodeId → Site → Prop)
    (Good : Set NodeId → Site → Schema → Prop) (inside : Set NodeId) (declaration : Site) :
    Option Schema → Prop
  | some schema => (∃ outer, Around outer declaration ∧ Good outer declaration schema) ∧
      (guarded → declaration.id ∉ inside)
  | none => declaration.id ∈ inside

theorem Followed.imp {Good' : Set NodeId → Site → Schema → Prop} {inside : Set NodeId}
    {declaration : Site} {found : Option Schema}
    (h : Followed guarded Around Good inside declaration found)
    (himp : ∀ outer schema, Good outer declaration schema → Good' outer declaration schema) :
    Followed guarded Around Good' inside declaration found := by
  cases found with
  | none => exact h
  | some schema =>
      obtain ⟨⟨outer, haround, hgood⟩, hinside⟩ := h
      exact ⟨⟨outer, haround, himp outer schema hgood⟩, hinside⟩

/-- Schemas composed from good ones are good. -/
def Inductive (program : Program) (lookup : Lookup) (guarded : Prop)
    (Around : Set NodeId → Site → Prop) (Good : Set NodeId → Site → Schema → Prop) : Prop :=
  ∀ outer, ∀ site ∈ program.sites, Around outer site → ∀ schema,
    Composed lookup (Good (site.underWay outer))
      (Followed guarded Around Good (site.underWay outer)) site schema →
    Good outer site schema

/-- The progress with which a node is begun and which it leaves, when the declarations of `outer`
are under way around it. -/
structure Stands (program : Program) (guarded : Prop) (Around : Set NodeId → Site → Prop)
    (Good : Set NodeId → Site → Schema → Prop) (outer : Set NodeId) (progress : Progress) :
    Prop where
  record : ∀ site ∈ program.sites, ∀ schema, progress.expanded.get? site.id = some schema →
    ∃ outer, Around outer site ∧ Good outer site schema
  expanding : ∀ id ∈ progress.expanding, id ∈ outer
  apart : guarded → ∀ id ∈ outer, id ∈ progress.expanding ∧ progress.expanded.get? id = none

def Unopened (outer : Set NodeId) (progress : Progress) (site : Site) : Prop :=
  site.isDeclaration = true → site.id ∉ outer ∧ progress.expanded.get? site.id = none

theorem Stands.opened {outer : Set NodeId} {progress : Progress} {site : Site}
    (h : Stands program guarded Around Good outer progress)
    (hfresh : guarded → Unopened outer progress site) :
    Stands program guarded Around Good (site.underWay outer) (progress.opened site) := by
  refine ⟨by simpa using h.record, ?_, ?_⟩
  · intro id hid
    exact ((Progress.mem_expanding_opened progress site).1 hid).imp_left (h.expanding id)
  · intro hguarded id hid
    rw [Progress.mem_expanding_opened, Progress.expanded_opened]
    rcases hid with hid | ⟨hdeclaration, rfl⟩
    · exact ⟨.inl (h.apart hguarded id hid).1, (h.apart hguarded id hid).2⟩
    · exact ⟨.inr ⟨hdeclaration, rfl⟩, (hfresh hguarded hdeclaration).2⟩

theorem Stands.closed (hprogram : program.Built) {outer : Set NodeId} {progress : Progress}
    {site : Site} {schema : Schema} (hsite : site ∈ program.sites)
    (h : Stands program guarded Around Good (site.underWay outer) progress)
    (hfresh : guarded → site.isDeclaration = true → site.id ∉ outer)
    (haround : Around outer site) (hschema : Good outer site schema) :
    Stands program guarded Around Good outer (progress.closed site schema) := by
  refine ⟨?_, ?_, ?_⟩
  · intro other hother recorded hrecorded
    rw [Progress.get?_expanded_closed] at hrecorded
    split at hrecorded
    · rename_i hself
      obtain rfl := hprogram.eq_of_id_eq hother hsite hself.2
      obtain rfl := Option.some.inj hrecorded
      exact ⟨outer, haround, hschema⟩
    · exact h.record other hother recorded hrecorded
  · intro id hid
    obtain ⟨hid, hother⟩ := (Progress.mem_expanding_closed progress site schema).1 hid
    exact (h.expanding id hid).resolve_right hother
  · intro hguarded id hid
    obtain ⟨hexpanding, hnone⟩ := h.apart hguarded id (.inl hid)
    have hother : ¬(site.isDeclaration = true ∧ id = site.id) := by
      intro hresult
      obtain ⟨hdeclaration, rfl⟩ := hresult
      exact hfresh hguarded hdeclaration hid
    rw [Progress.mem_expanding_closed, Progress.get?_expanded_closed, if_neg hother]
    exact ⟨⟨hexpanding, hother⟩, hnone⟩

theorem Stands.report {outer : Set NodeId} {progress : Progress}
    (h : Stands program guarded Around Good outer progress) (events : List Event) :
    Stands program guarded Around Good outer (progress.report events) :=
  ⟨h.record, h.expanding, h.apart⟩

/-- What the expansion of a node reports: a circle only where references lead in a circle. -/
def Reports (lookup : Lookup) (site : Site) (before after : Progress) : Prop :=
  ∃ events, after.events = before.events ++ events ∧
    (Acyclic lookup site → ∀ event ∈ events, event.isCycle = false)

theorem Reports.report {site : Site} {before after : Progress} {events : List Event}
    (h : Reports lookup site before after)
    (hevents : Acyclic lookup site → ∀ event ∈ events, event.isCycle = false) :
    Reports lookup site before (after.report events) := by
  obtain ⟨earlier, heq, hearlier⟩ := h
  refine ⟨earlier ++ events, by simp [heq], ?_⟩
  intro hacyclic event hevent
  rcases List.mem_append.1 hevent with hevent | hevent
  · exact hearlier hacyclic event hevent
  · exact hevents hacyclic event hevent

theorem Reports.trans {site next : Site} {before middle after : Progress}
    (h : Reports lookup site before middle) (h' : Reports lookup next middle after)
    (hnext : Acyclic lookup site → Acyclic lookup next) : Reports lookup site before after := by
  obtain ⟨earlier, heq, hearlier⟩ := h
  obtain ⟨later, heq', hlater⟩ := h'
  refine ⟨earlier ++ later, by simp [heq, heq'], ?_⟩
  intro hacyclic event hevent
  rcases List.mem_append.1 hevent with hevent | hevent
  · exact hearlier hacyclic event hevent
  · exact hlater (hnext hacyclic) event hevent

theorem Reports.closed {site : Site} {before after : Progress} {schema : Schema}
    (h : Reports lookup site (before.opened site) after) :
    Reports lookup site before (after.closed site schema) := by
  have hevent : ∀ event ∈ [Event.expanded site.id site.kind schema.size],
      event.isCycle = false := by simp [Event.isCycle]
  obtain ⟨events, heq, hevents⟩ := h.report fun _ => hevent
  exact ⟨events, by simpa using heq, hevents⟩

theorem outcome_node_good (hprogram : program.Built) (hlookup : lookup.Within program)
    (hnesting : Nesting program lookup guarded Around)
    (hgood : Inductive program lookup guarded Around Good) (budget : Nat) {outer : Set NodeId}
    {site : Site} {progress : Progress} (hsite : site ∈ program.sites)
    (haround : Around outer site) (hstands : Stands program guarded Around Good outer progress)
    (hfresh : guarded → Unopened outer progress site) :
    Outcome True
      (fun schema after => (Stands program guarded Around Good outer after ∧
        Reports lookup site progress after) ∧ Good outer site schema)
      (node lookup budget site progress) := by
  induction budget generalizing outer site progress with
  | zero => trivial
  | succ budget ih =>
      let inside := site.underWay outer
      let Inv := fun after => Stands program guarded Around Good inside after ∧
        Reports lookup site (progress.opened site) after
      have hstep : ∀ next, Site.Refers lookup site next → Around inside next →
          ∀ before, Inv before → (guarded → Unopened inside before next) →
          Outcome True (fun schema after => Inv after ∧ Good inside next schema)
            (node lookup budget next before) := by
        intro next hrefers hnext before hbefore hunopened
        refine (ih (hrefers.mem_sites hlookup hsite) hnext hbefore.1 hunopened).imp ?_
        intro schema after hresult
        obtain ⟨⟨hafter, hreports⟩, hschema⟩ := hresult
        exact ⟨⟨hafter, hbefore.2.trans hreports fun hacyclic => hacyclic.inv hrefers⟩, hschema⟩
      have hvisits : KeptByVisits True Inv (Good inside) (node lookup budget)
          (site.visits lookup) := by
        intro next hvisited before hbefore
        refine hstep next (.inl hvisited) (hnesting.visit hsite haround hvisited) before hbefore ?_
        intro hguarded hdeclaration
        have hgrammar := hnesting.grammatical hguarded
        simp [hgrammar.isDeclaration_of_mem_visits hsite hvisited] at hdeclaration
      have hfollows : KeptByFollows True Inv (Followed guarded Around Good inside)
          (node lookup budget) (site.follows lookup) := by
        intro declaration hfollowed before hbefore
        have hrefers : Site.Refers lookup site declaration := .inr hfollowed
        have hmem := hrefers.mem_sites hlookup hsite
        apply outcome_followWith
        · intro schema hschema
          refine ⟨hbefore, hbefore.1.record declaration hmem schema hschema, ?_⟩
          intro hguarded hinside
          have hnone := (hbefore.1.apart hguarded _ hinside).2
          rw [hschema] at hnone
          cases hnone
        · -- a cut closes a circle through the node and the declaration
          intro _ hexpanding name
          have hinside := hbefore.1.expanding _ hexpanding
          have hback := hnesting.reaches_inside hprogram hsite haround hmem hinside
          refine ⟨⟨hbefore.1.report _, hbefore.2.report fun hacyclic => ?_⟩, hinside⟩
          exact absurd hacyclic (not_acyclic_of_refers hrefers hback)
        · intro hnone hexpanding
          have houtside : guarded → declaration.id ∉ inside := fun hguarded hinside =>
            hexpanding (hbefore.1.apart hguarded _ hinside).1
          have hnext := hnesting.follow hsite haround hfollowed houtside
          refine (hstep declaration hrefers hnext before hbefore ?_).imp ?_
          · exact fun hguarded _ => ⟨houtside hguarded, hnone⟩
          · intro schema after hresult
            obtain ⟨hafter, hschema⟩ := hresult
            exact ⟨hafter, ⟨inside, hnext, hschema⟩, houtside⟩
      have hopened : Inv (progress.opened site) :=
        ⟨hstands.opened hfresh, [], by simp, by simp⟩
      have hnode : Outcome True _ (node lookup (budget + 1) site progress) :=
        outcome_nodeWith (fun _ _ hevents hinv => ⟨hinv.1.report _, hinv.2.report fun _ => hevents⟩)
          hvisits hfollows hopened
      refine hnode.imp ?_
      intro schema after hresult
      obtain ⟨done, hdone, hcomposed, rfl⟩ := hresult
      have hschema : Good outer site schema := hgood outer site hsite haround schema hcomposed
      refine ⟨⟨hdone.1.closed hprogram hsite ?_ haround hschema, hdone.2.closed⟩, hschema⟩
      exact fun hguarded hdeclaration => (hfresh hguarded hdeclaration).1

end Induction

/-! Expansions one after the other, each begun with what the one before left. -/

section LeftBy

variable {program : Program} {lookup : Lookup} {Good : Site → Schema → Prop}

def Leading (program : Program) (lookup : Lookup) (outer : Set NodeId) (site : Site) : Prop :=
  ∀ id ∈ outer, ∃ declaration ∈ program.sites, declaration.id = id ∧
    Site.Reaches lookup declaration site

theorem Leading.next {outer : Set NodeId} {site next : Site} (hsite : site ∈ program.sites)
    (h : Leading program lookup outer site) (hrefers : Site.Refers lookup site next) :
    Leading program lookup (site.underWay outer) next := by
  intro id hid
  rcases hid with hid | ⟨_, rfl⟩
  · obtain ⟨declaration, hmem, rfl, hreaches⟩ := h id hid
    exact ⟨declaration, hmem, rfl, hreaches.tail hrefers⟩
  · exact ⟨site, hsite, rfl, .single hrefers⟩

theorem nesting_leading (program : Program) (lookup : Lookup) :
    Nesting program lookup False (Leading program lookup) where
  grammatical := False.elim
  visit hsite h hvisited := h.next hsite (.inl hvisited)
  follow hsite h hfollowed _ := h.next hsite (.inr hfollowed)
  reaches h := h

/-- Progress that expansions of nodes of the program leave. -/
inductive LeftBy (program : Program) (lookup : Lookup) : Progress → Prop where
  | start : LeftBy program lookup .start
  | node {progress after : Progress} {site : Site} {budget : Nat} {schema : Schema}
      (earlier : LeftBy program lookup progress) (hsite : site ∈ program.sites)
      (hnode : node lookup budget site progress = some (schema, after)) :
      LeftBy program lookup after

abbrev InductiveAnywhere (program : Program) (lookup : Lookup) (Good : Site → Schema → Prop) :
    Prop :=
  Inductive program lookup False (Leading program lookup) fun _ => Good

theorem stands_start {guarded : Prop} {Around : Set NodeId → Site → Prop}
    {Good : Set NodeId → Site → Schema → Prop} :
    Stands program guarded Around Good ∅ .start :=
  ⟨fun _ _ _ h => (nomatch h), fun _ h => (nomatch h), fun _ _ h => absurd h (Set.notMem_empty _)⟩

theorem LeftBy.stands (hprogram : program.Built) (hlookup : lookup.Within program)
    (hgood : InductiveAnywhere program lookup Good) {progress : Progress}
    (h : LeftBy program lookup progress) :
    Stands program False (Leading program lookup) (fun _ => Good) ∅ progress := by
  induction h with
  | start => exact stands_start
  | @node progress after site budget schema _ hsite hnode ih =>
      have hrun := outcome_node_good hprogram hlookup (nesting_leading program lookup) hgood budget
        hsite (fun _ h => h.elim) ih False.elim
      rw [hnode] at hrun
      exact hrun.1.1

theorem LeftBy.good (hprogram : program.Built) (hlookup : lookup.Within program)
    (hgood : InductiveAnywhere program lookup Good) {progress after : Progress} {site : Site}
    {budget : Nat} {schema : Schema} (hprogress : LeftBy program lookup progress)
    (hsite : site ∈ program.sites)
    (hnode : Expand.node lookup budget site progress = some (schema, after)) :
    Good site schema ∧ Reports lookup site progress after := by
  have hrun := outcome_node_good hprogram hlookup (nesting_leading program lookup) hgood budget
    hsite (fun _ h => h.elim) (hprogress.stands hprogram hlookup hgood) False.elim
  rw [hnode] at hrun
  exact ⟨hrun.2, hrun.1.2⟩

end LeftBy

end Expand

/-! The chains of references on which a node is expanded. -/

/-- From `root` references lead to the node, through the declarations of `outer` and through none of
them twice. -/
inductive Begun (lookup : Lookup) (root : Site) : (outer : Set NodeId) → (site : Site) → Prop where
  | root : Begun lookup root ∅ root
  | visit {outer : Set NodeId} {site next : Site} (hsite : Begun lookup root outer site)
      (hvisited : next ∈ site.visits lookup) : Begun lookup root (site.underWay outer) next
  | follow {outer : Set NodeId} {site next : Site} (hsite : Begun lookup root outer site)
      (hfollowed : next ∈ site.follows lookup) (hfresh : next.id ∉ site.underWay outer) :
      Begun lookup root (site.underWay outer) next

section Begun

variable {program : Program} {lookup : Lookup} {root : Site}

theorem Begun.leading (hlookup : lookup.Within program) (hroot : root ∈ program.sites)
    {outer : Set NodeId} {site : Site} (h : Begun lookup root outer site) :
    site ∈ program.sites ∧ Expand.Leading program lookup outer site := by
  induction h with
  | root => exact ⟨hroot, fun _ h => h.elim⟩
  | visit _ hvisited ih =>
      have hrefers : Site.Refers lookup _ _ := .inl hvisited
      exact ⟨hrefers.mem_sites hlookup ih.1, ih.2.next ih.1 hrefers⟩
  | follow _ hfollowed _ ih =>
      have hrefers : Site.Refers lookup _ _ := .inr hfollowed
      exact ⟨hrefers.mem_sites hlookup ih.1, ih.2.next ih.1 hrefers⟩

theorem nesting_begun (hgrammar : program.Grammatical) (hlookup : lookup.Within program)
    (hroot : root ∈ program.sites) : Nesting program lookup True (Begun lookup root) where
  grammatical _ := hgrammar
  visit _ h hvisited := h.visit hvisited
  follow _ h hfollowed hfresh := h.follow hfollowed (hfresh trivial)
  reaches h := (h.leading hlookup hroot).2

theorem Expand.good_of_start {Good : Set NodeId → Site → Schema → Prop} (hprogram : program.Built)
    (hgrammar : program.Grammatical) (hlookup : lookup.Within program)
    (hroot : root ∈ program.sites)
    (hgood : Expand.Inductive program lookup True (Begun lookup root) Good) {budget : Nat}
    {schema : Schema} {after : Progress}
    (hnode : Expand.node lookup budget root .start = some (schema, after)) :
    Good ∅ root schema := by
  have hnesting := nesting_begun hgrammar hlookup hroot
  have hrun := outcome_node_good hprogram hlookup hnesting hgood budget hroot .root stands_start
    fun _ _ => ⟨Set.notMem_empty _, rfl⟩
  rw [hnode] at hrun
  exact hrun.2

end Begun

end Keypath
