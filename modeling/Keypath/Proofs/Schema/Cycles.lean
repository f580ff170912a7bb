import Mathlib.Order.WellFounded
import Mathlib.Data.Fintype.Order
import Keypath.Proofs.Relocation
import Keypath.Proofs.Schema.Induction

/-!
When an expansion reports a cut.

A reference is cut where it leads back to a declaration under way, so a cut closes a circle of
declarations that point to each other. The converse does not follow the circle: a run without a cut
takes every schema from the record or finishes it, so what it finishes refers only to what was
finished before, and there is no circle among the nodes it has finished.
-/

namespace Keypath

open Keypath.Tree

namespace Site

/-- The nodes that are visited while a node is expanded, itself among them. -/
def Visits (lookup : Lookup) : Site → Site → Prop :=
  Relation.ReflTransGen fun site next => next ∈ site.visits lookup

/-- A usage that is visited while the declaration is expanded names the other one. -/
def PointsTo (lookup : Lookup) (declaration other : Site) : Prop :=
  ∃ usage, Visits lookup declaration usage ∧ other ∈ usage.follows lookup

section PointsTo

variable {lookup : Lookup}

theorem Visits.reaches {site next : Site} (h : Visits lookup site next) :
    Reaches lookup site next := by
  induction h with
  | refl => exact .refl
  | tail _ hvisit ih => exact ih.tail (.inl hvisit)

theorem PointsTo.refers {declaration other : Site} (h : PointsTo lookup declaration other) :
    Relation.TransGen (Refers lookup) declaration other := by
  obtain ⟨usage, hvisits, hfollow⟩ := h
  exact .tail' hvisits.reaches (.inr hfollow)

theorem PointsTo.mem_sites {program : Program} (hlookup : lookup.Within program)
    {declaration other : Site} (hmem : declaration ∈ program.sites)
    (h : PointsTo lookup declaration other) : other ∈ program.sites :=
  Reaches.mem_sites h.refers.to_reflTransGen hlookup hmem

end PointsTo

/-! In trees of the grammar the usages of a declaration are its base types and its properties, those
inside of types that are written out included. -/

/-- The property is written in the declaration or in a type that is written out in it. -/
inductive WritesWithin (declaration : Site) : Site → Prop where
  | own {property : Site} (hwrites : declaration.Writes property) :
      WritesWithin declaration property
  | nested {property literal member : Site} (hproperty : WritesWithin declaration property)
      (hname : property.propertyName?.isSome = true) (hliteral : property.literal? = some literal)
      (hmember : member ∈ literal.members) (hhas : member.has .property = true) :
      WritesWithin declaration member

/-- What a node that is visited while a declaration is expanded can be. -/
inductive VisitedAs (declaration : Site) : Site → Prop where
  | self : VisitedAs declaration declaration
  | entry {entry : Site} (hinterface : declaration.has .interface = true)
      (hentry : entry ∈ declaration.heritageEntries) : VisitedAs declaration entry
  | member {member : Site} (honly : member.Only .property)
      (hwrites : member.has .property = true → declaration.WritesWithin member) :
      VisitedAs declaration member
  | literal {literal : Site} (hhas : literal.has .typeLiteral = true)
      (hmembers : ∀ member ∈ literal.members, member.has .property = true →
        declaration.WritesWithin member) : VisitedAs declaration literal

section Usages

variable {program : Program} {lookup : Lookup} {declaration : Site}

theorem Only.mem_visits {site next : Site} {shape : Shape} (h : site.Only shape)
    (hnext : next ∈ site.visits lookup) :
    ∃ part ∈ site.partsOf lookup shape, next ∈ part.visits := by
  obtain ⟨part, hpart, hnext⟩ := List.mem_flatMap.1 hnext
  exact ⟨part, h.mem_partsOf hpart, hnext⟩

theorem Only.mem_follows {site next : Site} {shape : Shape} (h : site.Only shape)
    (hnext : next ∈ site.follows lookup) :
    ∃ part ∈ site.partsOf lookup shape, next ∈ part.follows lookup := by
  obtain ⟨part, hpart, hnext⟩ := List.mem_flatMap.1 hnext
  exact ⟨part, h.mem_partsOf hpart, hnext⟩

theorem VisitedAs.next (hgrammar : program.Grammatical) {site next : Site}
    (h : VisitedAs declaration site) (hdeclaration : declaration.isDeclaration = true)
    (hsite : site ∈ program.sites) (hnext : next ∈ site.visits lookup) :
    VisitedAs declaration next := by
  have honly {shape : Shape} (hshape : shape ∈ contributing) (hhas : site.has shape = true)
      (hheritage : shape ≠ .heritage) : site.Only shape :=
    hgrammar.only hsite hshape hhas hheritage
  cases h with
  | self =>
      rcases isDeclaration_iff.1 hdeclaration with hinterface | halias
      · obtain ⟨part, hpart, hnext⟩ :=
          (honly (by simp [contributing]) hinterface (by simp)).mem_visits hnext
        obtain ⟨child, hchild, rfl⟩ := List.mem_map.1 hpart
        obtain rfl := List.mem_singleton.1 hnext
        rcases List.mem_append.1 hchild with hentry | hmember
        · exact .entry hinterface hentry
        · refine .member (hgrammar.member _ hsite (.inl hinterface) _ hmember) fun hhas => ?_
          exact .own (.member hinterface hmember hhas)
      · obtain ⟨part, hpart, hnext⟩ :=
          (honly (by simp [contributing]) halias (by simp)).mem_visits hnext
        obtain ⟨literal, hliteral, rfl⟩ := List.mem_map.1 hpart
        obtain rfl := List.mem_singleton.1 hnext
        have hliteral := Option.mem_toList.1 hliteral
        refine .literal (Option.filter_eq_some_iff.1 hliteral).2 fun member hmember hhas => ?_
        exact .own (.aliased halias hliteral hmember hhas)
  | entry _ hentry =>
      have hheritage := isHeritageEntry_of_mem_heritageEntries hentry
      obtain ⟨part, hpart, hnext⟩ := (hgrammar.entry site hsite hheritage).mem_visits hnext
      obtain ⟨base, _, rfl⟩ := List.mem_map.1 hpart
      cases hnext
  | member honly hwrites =>
      obtain ⟨part, hpart, hnext⟩ := List.mem_flatMap.1 hnext
      obtain ⟨shape, hshape, hhas, hpart⟩ := mem_parts.1 hpart
      obtain rfl := honly shape hshape hhas
      obtain ⟨name, hname, rfl⟩ := List.mem_map.1 hpart
      have hliteral := Option.mem_toList.1 hnext
      refine .literal (Option.filter_eq_some_iff.1 hliteral).2 fun member hmember hproperty => ?_
      refine .nested (hwrites hhas) ?_ hliteral hmember hproperty
      simp [Option.mem_toList.1 hname]
  | literal hhas hmembers =>
      obtain ⟨part, hpart, hnext⟩ :=
        (honly (by simp [contributing]) hhas (by simp)).mem_visits hnext
      obtain ⟨member, hmember, rfl⟩ := List.mem_map.1 hpart
      obtain rfl := List.mem_singleton.1 hnext
      exact .member (hgrammar.member _ hsite (.inr hhas) _ hmember) (hmembers _ hmember)

theorem visitedAs_of_visits (hgrammar : program.Grammatical)
    (hdeclaration : declaration ∈ program.declarations) {site : Site}
    (h : Visits lookup declaration site) :
    site ∈ program.sites ∧ VisitedAs declaration site := by
  obtain ⟨hmem, hkind⟩ := Program.mem_declarations.1 hdeclaration
  induction h with
  | refl => exact ⟨hmem, .self⟩
  | tail _ hnext ih =>
      exact ⟨(holds_of_mem_visits hnext).mem_sites ih.1, ih.2.next hgrammar hkind ih.1 hnext⟩

theorem mem_visits_of_partsOf {site next : Site} {shape : Shape} (part : Part)
    (hshape : shape ∈ contributing) (hhas : site.has shape = true)
    (hpart : part ∈ site.partsOf lookup shape) (hnext : next ∈ part.visits) :
    next ∈ site.visits lookup :=
  List.mem_flatMap.2 ⟨part, mem_parts.2 ⟨shape, hshape, hhas, hpart⟩, hnext⟩

theorem mem_follows_of_partsOf {site next : Site} {shape : Shape} (part : Part)
    (hshape : shape ∈ contributing) (hhas : site.has shape = true)
    (hpart : part ∈ site.partsOf lookup shape) (hnext : next ∈ part.follows lookup) :
    next ∈ site.follows lookup :=
  List.mem_flatMap.2 ⟨part, mem_parts.2 ⟨shape, hshape, hhas, hpart⟩, hnext⟩

theorem mem_visits_of_mem_literal {literal member : Site} (hhas : literal.has .typeLiteral = true)
    (hmember : member ∈ literal.members) : member ∈ literal.visits lookup :=
  mem_visits_of_partsOf (.visit member) (by simp [contributing]) hhas
    (List.mem_map_of_mem hmember) (by simp [Part.visits])

theorem Writes.visits {property : Site} (h : declaration.Writes property) :
    Visits lookup declaration property ∧ property.has .property = true := by
  cases h with
  | member hinterface hmember hproperty =>
      refine ⟨.single ?_, hproperty⟩
      exact mem_visits_of_partsOf (.visit property) (by simp [contributing]) hinterface
        (by simp [partsOf, hmember]) (by simp [Part.visits])
  | @aliased literal halias hliteral hmember hproperty =>
      have hvisit : literal ∈ declaration.visits lookup :=
        mem_visits_of_partsOf (.visit literal) (by simp [contributing]) halias
          (by simp [partsOf, hliteral]) (by simp [Part.visits])
      have hhas := (Option.filter_eq_some_iff.1 hliteral).2
      exact ⟨.tail (.single hvisit) (mem_visits_of_mem_literal hhas hmember), hproperty⟩

theorem WritesWithin.visits {property : Site} (h : declaration.WritesWithin property) :
    Visits lookup declaration property ∧ property.has .property = true := by
  induction h with
  | own hwrites => exact hwrites.visits
  | @nested property literal member _ hname hliteral hmember hhas ih =>
      obtain ⟨name, hname⟩ := Option.isSome_iff_exists.1 hname
      have hvisit : literal ∈ property.visits lookup :=
        mem_visits_of_partsOf (.key property name) (by simp [contributing]) ih.2
          (by simp [partsOf, hname]) (by simp [Part.visits, hliteral])
      have hobject := (Option.filter_eq_some_iff.1 hliteral).2
      exact ⟨(ih.1.tail hvisit).tail (mem_visits_of_mem_literal hobject hmember), hhas⟩

theorem VisitedAs.names (hgrammar : program.Grammatical)
    (hdeclaration : declaration.isDeclaration = true) {usage other : Site}
    (husage : usage ∈ program.sites) (h : VisitedAs declaration usage)
    (hfollow : other ∈ usage.follows lookup) :
    (declaration.has .interface = true ∧ usage ∈ declaration.heritageEntries ∧
      other ∈ (lookup usage).sites) ∨
    (declaration.WritesWithin usage ∧ usage.propertyName?.isSome = true ∧
      other ∈ usage.named lookup) := by
  have honly {shape : Shape} (hshape : shape ∈ contributing) (hhas : usage.has shape = true)
      (hheritage : shape ≠ .heritage) : usage.Only shape :=
    hgrammar.only husage hshape hhas hheritage
  cases h with
  | self =>
      rcases isDeclaration_iff.1 hdeclaration with hinterface | halias
      · obtain ⟨part, hpart, hnext⟩ :=
          (honly (by simp [contributing]) hinterface (by simp)).mem_follows hfollow
        obtain ⟨child, _, rfl⟩ := List.mem_map.1 hpart
        cases hnext
      · obtain ⟨part, hpart, hnext⟩ :=
          (honly (by simp [contributing]) halias (by simp)).mem_follows hfollow
        obtain ⟨literal, _, rfl⟩ := List.mem_map.1 hpart
        cases hnext
  | entry hinterface hentry => exact .inl ⟨hinterface, hentry, mem_sites_of_mem_follows hfollow⟩
  | member honly hwrites =>
      obtain ⟨part, hpart, hnext⟩ := List.mem_flatMap.1 hfollow
      obtain ⟨shape, hshape, hhas, hpart⟩ := mem_parts.1 hpart
      obtain rfl := honly shape hshape hhas
      obtain ⟨name, hname, rfl⟩ := List.mem_map.1 hpart
      exact .inr ⟨hwrites hhas, by simp [Option.mem_toList.1 hname], hnext⟩
  | literal hhas _ =>
      obtain ⟨part, hpart, hnext⟩ :=
        (honly (by simp [contributing]) hhas (by simp)).mem_follows hfollow
      obtain ⟨member, _, rfl⟩ := List.mem_map.1 hpart
      cases hnext

theorem pointsTo_iff (hgrammar : program.Grammatical)
    (hdeclaration : declaration ∈ program.declarations) {other : Site} :
    PointsTo lookup declaration other ↔
      (declaration.has .interface = true ∧
        ∃ entry ∈ declaration.heritageEntries, other ∈ (lookup entry).sites) ∨
      ∃ property, declaration.WritesWithin property ∧ property.propertyName?.isSome = true ∧
        other ∈ property.named lookup := by
  constructor
  · rintro ⟨usage, hvisits, hfollow⟩
    obtain ⟨husage, hvisited⟩ := visitedAs_of_visits hgrammar hdeclaration hvisits
    have hkind := (Program.mem_declarations.1 hdeclaration).2
    rcases hvisited.names hgrammar hkind husage hfollow with
      ⟨hinterface, hentry, hother⟩ | hproperty
    · exact .inl ⟨hinterface, usage, hentry, hother⟩
    · exact .inr ⟨usage, hproperty⟩
  · rintro (⟨hinterface, entry, hentry, hother⟩ | ⟨property, hwrites, hname, hother⟩)
    · have hheritage : entry.has .heritage = true := by
        simp [has, isHeritageEntry_of_mem_heritageEntries hentry]
      have hvisit : entry ∈ declaration.visits lookup :=
        mem_visits_of_partsOf (.visit entry) (by simp [contributing]) hinterface
          (by simp [partsOf, hentry]) (by simp [Part.visits])
      refine ⟨entry, .single hvisit, ?_⟩
      exact mem_follows_of_partsOf (.follow other) (by simp [contributing]) hheritage
        (by simp [partsOf, hother]) (by simp [Part.follows])
    · obtain ⟨name, hname⟩ := Option.isSome_iff_exists.1 hname
      obtain ⟨hvisits, hhas⟩ : Visits lookup declaration property ∧ _ := hwrites.visits
      refine ⟨property, hvisits, ?_⟩
      exact mem_follows_of_partsOf (.key property name) (by simp [contributing]) hhas
        (by simp [partsOf, hname]) hother

end Usages

end Site

/-- From the first declaration others are reached that point to each other in a circle. -/
def LeadsToCircle (lookup : Lookup) (root : Site) : Prop :=
  ∃ declaration, Relation.ReflTransGen (Site.PointsTo lookup) root declaration ∧
    Relation.TransGen (Site.PointsTo lookup) declaration declaration

section Circle

variable {program : Program} {lookup : Lookup} {root : Site}

theorem Acyclic.of_reaches {site next : Site} (h : Acyclic lookup site)
    (hreaches : Site.Reaches lookup site next) : Acyclic lookup next := by
  induction hreaches with
  | refl => exact h
  | tail _ hrefers ih => exact ih.inv hrefers

theorem Acyclic.not_leadsToCircle (h : Acyclic lookup root) : ¬LeadsToCircle lookup root := by
  rintro ⟨declaration, hpath, hcircle⟩
  have hreaches : Site.Reaches lookup root declaration :=
    hpath.lift' id fun _ _ hstep => hstep.refers.to_reflTransGen
  have hrefers : Relation.TransGen (Site.Refers lookup) declaration declaration :=
    hcircle.lift' id fun _ _ hstep => hstep.refers
  obtain ⟨next, hnext, hback⟩ := Relation.TransGen.head'_iff.1 hrefers
  exact not_acyclic_of_refers hnext hback (h.of_reaches hreaches)

/-- Down a tree an expansion cannot go on without end, so it does only from declaration to
declaration. -/
theorem acyclic_of_pointsTo {declaration : Site}
    (h : ∀ other, Site.PointsTo lookup declaration other → Acyclic lookup other) :
    Acyclic lookup declaration := by
  have hvisited : ∀ size site, site.size ≤ size → Site.Visits lookup declaration site →
      Acyclic lookup site := by
    intro size
    induction size with
    | zero =>
        intro site hsize _
        have hpos := site.size_pos
        omega
    | succ size ih =>
        intro site hsize hvisits
        refine .intro site fun next hrefers => ?_
        rcases hrefers with hvisit | hfollow
        · have hless := (Site.holds_of_mem_visits hvisit).size_lt
          exact ih next (by omega) (hvisits.tail hvisit)
        · exact h next ⟨site, hvisits, hfollow⟩
  exact hvisited declaration.size declaration (Nat.le_refl _) .refl

theorem acyclic_of_not_leadsToCircle (hlookup : lookup.Within program)
    (hroot : root ∈ program.sites) (h : ¬LeadsToCircle lookup root) : Acyclic lookup root := by
  let Reached := {declaration // Relation.ReflTransGen (Site.PointsTo lookup) root declaration}
  have hmem : ∀ declaration : Reached, declaration.1 ∈ program.sites := by
    rintro ⟨declaration, hpath⟩
    induction hpath with
    | refl => exact hroot
    | tail _ hstep ih => exact hstep.mem_sites hlookup ih
  have hfinite : Finite Reached :=
    Set.Finite.subset (List.finite_toSet program.sites) fun declaration hpath =>
      hmem ⟨declaration, hpath⟩
  let Below (lower upper : Reached) : Prop :=
    Relation.TransGen (Site.PointsTo lookup) upper.1 lower.1
  have htrans : IsTrans Reached Below := ⟨fun _ _ _ hfirst hsecond => hsecond.trans hfirst⟩
  have hirrefl : Std.Irrefl Below :=
    ⟨fun declaration hcircle => h ⟨declaration.1, declaration.2, hcircle⟩⟩
  have hwf : WellFounded Below := Finite.wellFounded_of_trans_of_irrefl Below
  have hacyclic : ∀ declaration : Reached, Acyclic lookup declaration.1 := by
    intro declaration
    induction declaration using hwf.induction with
    | _ declaration ih =>
        refine acyclic_of_pointsTo fun other hpoints => ?_
        exact ih ⟨other, declaration.2.tail hpoints⟩ (.single hpoints)
  exact hacyclic ⟨root, .refl⟩

end Circle

namespace Expand

def Quiet (progress : Progress) : Prop :=
  ∀ event ∈ progress.events, event.isCycle = false

def RecordsAcyclic (program : Program) (lookup : Lookup) (progress : Progress) : Prop :=
  ∀ site ∈ program.sites, ∀ schema, progress.expanded.get? site.id = some schema →
    Acyclic lookup site

/-- A run that ends without a cut began without one, and it finds something out about acyclic
records. -/
def Finds (program : Program) (lookup : Lookup) (before after : Progress) (found : Prop) : Prop :=
  Quiet after → Quiet before ∧
    (RecordsAcyclic program lookup before → found ∧ RecordsAcyclic program lookup after)

section Finds

variable {program : Program} {lookup : Lookup}

theorem Quiet.of_report {progress : Progress} {events : List Event}
    (h : Quiet (progress.report events)) : Quiet progress :=
  fun event hevent => h event (by simp [hevent])

theorem not_quiet_report_cycle (progress : Progress) (id : NodeId) (name : String) :
    ¬Quiet (progress.report [.cycle id name]) := by
  intro h
  cases h (.cycle id name) (by simp)

theorem Finds.cons {before middle after : Progress} {request : Request}
    {requests : List Request}
    (hfirst : Finds program lookup before middle (Acyclic lookup request.site))
    (hrest : Finds program lookup middle after
      (∀ other ∈ requests, Acyclic lookup other.site)) :
    Finds program lookup before after
      (∀ other ∈ request :: requests, Acyclic lookup other.site) := by
  intro hquiet
  obtain ⟨hmiddle, hfound⟩ := hrest hquiet
  obtain ⟨hbefore, hvisited⟩ := hfirst hmiddle
  refine ⟨hbefore, fun hrecords => ?_⟩
  obtain ⟨hacyclic, hrecords⟩ := hvisited hrecords
  obtain ⟨hothers, hrecords⟩ := hfound hrecords
  exact ⟨List.forall_mem_cons.2 ⟨hacyclic, hothers⟩, hrecords⟩

theorem Steps.finds {recurse : Site → Expand Schema} {requests : List Request}
    {before after : Progress} (h : Steps recurse requests before after)
    (hsites : ∀ request ∈ requests, request.site ∈ program.sites)
    (hrecurse : ∀ next ∈ program.sites, ∀ before schema after,
      recurse next before = some (schema, after) →
      Finds program lookup before after (Acyclic lookup next)) :
    Finds program lookup before after (∀ request ∈ requests, Acyclic lookup request.site) := by
  induction h with
  | done => exact fun hquiet => ⟨hquiet, fun hrecords => ⟨by simp, hrecords⟩⟩
  | report _ _ ih =>
      intro hquiet
      obtain ⟨hreported, hfound⟩ := ih hsites hquiet
      exact ⟨hreported.of_report, hfound⟩
  | visit hvisit _ ih =>
      obtain ⟨hsite, hothers⟩ := List.forall_mem_cons.1 hsites
      exact Finds.cons (hrecurse _ hsite _ _ _ hvisit) (ih hothers)
  | recorded hrecord _ ih =>
      obtain ⟨hsite, hothers⟩ := List.forall_mem_cons.1 hsites
      refine Finds.cons (fun hquiet => ⟨hquiet, fun hrecords => ?_⟩) (ih hothers)
      exact ⟨hrecords _ hsite _ hrecord, hrecords⟩
  | cut _ _ _ ih =>
      intro hquiet
      obtain ⟨_, hothers⟩ := List.forall_mem_cons.1 hsites
      exact absurd (ih hothers hquiet).1 (not_quiet_report_cycle _ _ _)
  | opened _ _ hvisit _ ih =>
      obtain ⟨hsite, hothers⟩ := List.forall_mem_cons.1 hsites
      exact Finds.cons (hrecurse _ hsite _ _ _ hvisit) (ih hothers)

theorem RecordsAcyclic.closed (hprogram : program.Built) {site : Site}
    (hsite : site ∈ program.sites) (hacyclic : Acyclic lookup site) {progress : Progress}
    (h : RecordsAcyclic program lookup progress) (schema : Schema) :
    RecordsAcyclic program lookup (progress.closed site schema) := by
  intro other hother recorded hrecorded
  rw [Progress.get?_expanded_closed] at hrecorded
  split at hrecorded
  · rename_i hself
    obtain rfl := hprogram.eq_of_id_eq hother hsite hself.2
    exact hacyclic
  · exact h other hother recorded hrecorded

theorem node_finds (hprogram : program.Built) (hlookup : lookup.Within program) (budget : Nat)
    {site : Site} {before after : Progress} {schema : Schema} (hsite : site ∈ program.sites)
    (h : node lookup budget site before = some (schema, after)) :
    Finds program lookup before after (Acyclic lookup site) := by
  induction budget generalizing site before after schema with
  | zero => cases h
  | succ budget ih =>
      obtain ⟨done, hsteps, rfl⟩ := steps_of_nodeWith h
      have hsites : ∀ request ∈ site.requests lookup, request.site ∈ program.sites := by
        intro request hrequest
        exact (Site.refers_iff_mem_requests.2 ⟨request, hrequest, rfl⟩).mem_sites hlookup hsite
      have hfinds : Finds program lookup _ done _ :=
        hsteps.finds hsites fun next hnext _ _ _ hrun => ih hnext hrun
      intro hquiet
      have hdone : Quiet done := fun event hevent => hquiet event (by simp [hevent])
      obtain ⟨hopened, hfound⟩ := hfinds hdone
      refine ⟨by simpa [Quiet] using hopened, fun hrecords => ?_⟩
      obtain ⟨hrequests, hrecords⟩ := hfound (by simpa [RecordsAcyclic] using hrecords)
      have hacyclic : Acyclic lookup site := by
        refine .intro site fun next hrefers => ?_
        obtain ⟨request, hrequest, rfl⟩ := Site.refers_iff_mem_requests.1 hrefers
        exact hrequests request hrequest
      exact ⟨hacyclic, hrecords.closed hprogram hsite hacyclic schema⟩

end Finds

theorem exists_cycle_of_not_acyclic {program : Program} {lookup : Lookup} {root : Site}
    (hprogram : program.Built) (hlookup : lookup.Within program) (hroot : root ∈ program.sites)
    {budget : Nat} {schema : Schema} {after : Progress}
    (hnode : node lookup budget root .start = some (schema, after))
    (h : ¬Acyclic lookup root) : ∃ event ∈ after.events, event.isCycle = true := by
  by_contra hnone
  have hquiet : Quiet after := by
    intro event hevent
    by_contra hcycle
    exact hnone ⟨event, hevent, by simpa using hcycle⟩
  obtain ⟨_, hfound⟩ := node_finds hprogram hlookup budget hroot hnode hquiet
  have hempty : RecordsAcyclic program lookup .start := fun _ _ _ h => nomatch h
  exact h (hfound hempty).1

theorem exists_node_reports_iff {program : Program} {lookup : Lookup} {root : Site}
    (hprogram : program.Built) (hlookup : lookup.Declares program)
    (hroot : root ∈ program.sites) :
    ∃ schema after, node lookup program.budget root .start = some (schema, after) ∧
      ((∃ event ∈ after.events, event.isCycle = true) ↔ LeadsToCircle lookup root) := by
  obtain ⟨schema, after, hnode⟩ := exists_node hlookup hroot .start
  refine ⟨schema, after, hnode, ?_, ?_⟩
  · rintro ⟨event, hevent, hcycle⟩
    by_contra hcircle
    have hacyclic := acyclic_of_not_leadsToCircle hlookup.within hroot hcircle
    have htrue : InductiveAnywhere program lookup fun _ _ => True := fun _ _ _ _ _ _ => trivial
    obtain ⟨_, events, heq, hevents⟩ := LeftBy.start.good hprogram hlookup.within htrue hroot hnode
    rw [heq] at hevent
    simp [hevents hacyclic event (by simpa [Progress.start] using hevent)] at hcycle
  · intro hcircle
    exact exists_cycle_of_not_acyclic hprogram hlookup.within hroot hnode
      fun hacyclic => hacyclic.not_leadsToCircle hcircle

/-- The expansion of a declaration reports a cut exactly when declarations that point to each other
in a circle can be reached from it; and in trees of the grammar a declaration points to what its
base types and the named properties written in it name. -/
theorem node_reports_cycle_iff {program : Program} {lookup : Lookup} {root : Site}
    (hprogram : program.Built) (hlookup : lookup.Declares program)
    (hroot : root ∈ program.declarations) :
    (∃ schema after, node lookup program.budget root .start = some (schema, after) ∧
      ((∃ event ∈ after.events, event.isCycle = true) ↔
        ∃ declaration, Relation.ReflTransGen (Site.PointsTo lookup) root declaration ∧
          Relation.TransGen (Site.PointsTo lookup) declaration declaration)) ∧
    (program.Grammatical → ∀ declaration ∈ program.declarations, ∀ other,
      Site.PointsTo lookup declaration other ↔
        (declaration.has .interface = true ∧
          ∃ entry ∈ declaration.heritageEntries, other ∈ (lookup entry).sites) ∨
        ∃ property, declaration.WritesWithin property ∧ property.propertyName?.isSome = true ∧
          other ∈ property.named lookup) := by
  constructor
  · exact exists_node_reports_iff hprogram hlookup (Program.mem_declarations.1 hroot).1
  · intro hgrammar declaration hdeclaration other
    exact Site.pointsTo_iff hgrammar hdeclaration

/-- `B` and `C` extend each other, and `A` has a key of type `B`. -/
def circleSample : List Outline :=
  [⟨'A', none, [⟨'b', some 'B'⟩]⟩, ⟨'B', some 'C', []⟩, ⟨'C', some 'B', [⟨'s', none⟩]⟩]

set_option maxRecDepth 10000 in
theorem node_reports_cycle_of_circle :
    let program := Outline.program circleSample
    let root := Outline.site circleSample ⟨0, by decide +kernel⟩
    program.Built ∧ program.lookup.Declares program ∧ root ∈ program.declarations ∧
    ∃ schema after, node program.lookup program.budget root .start = some (schema, after) ∧
      (∃ event ∈ after.events, event.isCycle = true) ∧
      ∃ declaration, Relation.ReflTransGen (Site.PointsTo program.lookup) root declaration ∧
        Relation.TransGen (Site.PointsTo program.lookup) declaration declaration := by
  intro program root
  have hprogram : program.Built := Outline.built_program _
  have hlookup : program.lookup.Declares program :=
    Program.lookup_declares_of_wellLaid hprogram (by decide +kernel)
  have hroot : root ∈ program.declarations := Outline.site_mem_declarations _ _
  have hrun : (node program.lookup program.budget root .start).any
      (fun pair => pair.2.events.any Event.isCycle) = true := by decide +kernel
  obtain ⟨⟨schema, after, hnode, hiff⟩, _⟩ := node_reports_cycle_iff hprogram hlookup hroot
  have hcycle : ∃ event ∈ after.events, event.isCycle = true := by
    rw [hnode] at hrun
    exact List.any_eq_true.1 hrun
  exact ⟨hprogram, hlookup, hroot, schema, after, hnode, hcycle, hiff.1 hcycle⟩

end Expand

end Keypath
