import Keypath.Proofs.Schema.Induction
import Keypath.Proofs.Outline

/-!
What the record does to a schema.

The record is made while other declarations are under way, and a record that was cut at one of them
is used later when it is no longer under way. So the schemas with and without the record differ in
general. They agree when the references of a declaration are cut at the same declarations on every
chain on which it is expanded.
-/

namespace Keypath

open Keypath.Tree

/-! A schema is determined by what its parts give. -/

section Unique

variable {lookup : Lookup} {Visit Visit' : Site → Schema → Prop}
variable {Follow Follow' : Site → Option Schema → Prop}

theorem forall₂_unique {α β : Type} {Rel Rel' : α → β → Prop} {items : List α}
    {others others' : List β} (h : List.Forall₂ Rel items others)
    (h' : List.Forall₂ Rel' items others')
    (heq : ∀ item ∈ items, ∀ other other', Rel item other → Rel' item other' → other = other') :
    others = others' := by
  induction h generalizing others' with
  | nil =>
      cases h'
      rfl
  | cons hfirst _ ih =>
      cases h' with
      | cons hfirst' hrest =>
          have hhead := heq _ (by simp) _ _ hfirst hfirst'
          have htail := ih hrest fun item hitem => heq item (by simp [hitem])
          rw [hhead, htail]

theorem Described.unique {property : Site} {entry entry' : Entry}
    (h : Described lookup Visit Follow property entry)
    (h' : Described lookup Visit' Follow' property entry')
    (hvisit : ∀ next ∈ property.literal?.toList, ∀ schema schema', Visit next schema →
      Visit' next schema' → schema = schema')
    (hfollow : ∀ next ∈ property.named lookup, ∀ found found', Follow next found →
      Follow' next found' → found = found') : entry = entry' := by
  cases h with
  | untyped hwritten => cases h' <;> simp_all
  | unresolved hwritten hkind hnone => cases h' <;> simp_all
  | @reference written found hwritten hkind hsome hfound =>
      cases h' with
      | @reference written' found' hwritten' _ _ hfound' =>
          obtain rfl := Option.some.inj (hwritten.symm.trans hwritten')
          have heq : found = found' := by
            refine forall₂_unique hfound hfound' fun next hnext => hfollow next ?_
            simpa [Site.named, hwritten, hkind] using hnext
          rw [heq]
      | _ => simp_all
  | @literal written children hwritten hkind hliteral hchildren =>
      cases h' with
      | @literal written' children' hwritten' _ _ hchildren' =>
          obtain rfl := Option.some.inj (hwritten.symm.trans hwritten')
          have heq : children = children' := by
            refine hvisit written.bare ?_ _ _ hchildren hchildren'
            simp [Site.literal?, hwritten, hliteral]
          rw [heq]
      | _ => simp_all
  | leaf hwritten hkind hliteral => cases h' <;> simp_all

theorem Composed.unique {site : Site} {schema schema' : Schema}
    (h : Composed lookup Visit Follow site schema)
    (h' : Composed lookup Visit' Follow' site schema')
    (hvisit : ∀ next ∈ site.visits lookup, ∀ schema schema', Visit next schema →
      Visit' next schema' → schema = schema')
    (hfollow : ∀ next ∈ site.follows lookup, ∀ found found', Follow next found →
      Follow' next found' → found = found') : schema = schema' := by
  obtain ⟨found, hfound, rfl⟩ := h
  obtain ⟨found', hfound', rfl⟩ := h'
  rw [forall₂_unique hfound hfound']
  intro part hpart given given' hgiven hgiven'
  have hvisit : ∀ next ∈ part.visits, _ :=
    fun next hnext => hvisit next (List.mem_flatMap.2 ⟨part, hpart, hnext⟩)
  have hfollow : ∀ next ∈ part.follows lookup, _ :=
    fun next hnext => hfollow next (List.mem_flatMap.2 ⟨part, hpart, hnext⟩)
  cases part with
  | visit next =>
      obtain ⟨schema, rfl, hschema⟩ := hgiven
      obtain ⟨schema', rfl, hschema'⟩ := hgiven'
      rw [hvisit next (by simp [Part.visits]) schema schema' hschema hschema']
  | follow declaration =>
      exact hfollow declaration (by simp [Part.follows]) given given' hgiven hgiven'
  | key property name =>
      obtain ⟨entry, rfl, hentry⟩ := hgiven
      obtain ⟨entry', rfl, hentry'⟩ := hgiven'
      rw [hentry.unique hentry' hvisit hfollow]

end Unique

/-! The schema of a node by what is under way around it. -/

def CutWhenOpen (Tree : Set NodeId → Site → Schema → Prop) (inside : Set NodeId)
    (declaration : Site) : Option Schema → Prop
  | some schema => declaration.id ∉ inside ∧ Tree inside declaration schema
  | none => declaration.id ∈ inside

/-- A relation that holds of every schema composed from schemas it holds of, with every declaration
cut that is under way. -/
def CutClosed (lookup : Lookup) (Tree : Set NodeId → Site → Schema → Prop) : Prop :=
  ∀ outer site schema,
    Composed lookup (Tree (site.underWay outer)) (CutWhenOpen Tree (site.underWay outer)) site
      schema →
    Tree outer site schema

/-- The schema of a node when the declarations of `outer` are under way around it: the least
relation of its kind. -/
def CutSchema (lookup : Lookup) (outer : Set NodeId) (site : Site) (schema : Schema) : Prop :=
  ∀ Tree, CutClosed lookup Tree → Tree outer site schema

section CutSchema

variable {lookup : Lookup}

theorem CutWhenOpen.imp {Tree Tree' : Set NodeId → Site → Schema → Prop} {inside : Set NodeId}
    {declaration : Site} {found : Option Schema} (h : CutWhenOpen Tree inside declaration found)
    (himp : ∀ schema, Tree inside declaration schema → Tree' inside declaration schema) :
    CutWhenOpen Tree' inside declaration found := by
  cases found with
  | none => exact h
  | some schema => exact ⟨h.1, himp schema h.2⟩

theorem cutClosed_cutSchema (lookup : Lookup) : CutClosed lookup (CutSchema lookup) := by
  intro outer site schema hcomposed Tree hclosed
  apply hclosed
  refine hcomposed.imp (fun _ _ _ h => h Tree hclosed) ?_
  exact fun _ _ _ h => h.imp fun _ hschema => hschema Tree hclosed

theorem CutSchema.composed {outer : Set NodeId} {site : Site} {schema : Schema}
    (h : CutSchema lookup outer site schema) :
    Composed lookup (CutSchema lookup (site.underWay outer))
      (CutWhenOpen (CutSchema lookup) (site.underWay outer)) site schema := by
  refine h (fun outer site schema => Composed lookup (CutSchema lookup (site.underWay outer))
    (CutWhenOpen (CutSchema lookup) (site.underWay outer)) site schema) ?_
  intro outer site schema hcomposed
  refine hcomposed.imp (fun _ _ _ h => cutClosed_cutSchema lookup _ _ _ h) ?_
  exact fun _ _ _ h => h.imp fun _ hschema => cutClosed_cutSchema lookup _ _ _ hschema

theorem CutSchema.unique {outer : Set NodeId} {site : Site} {schema schema' : Schema}
    (h : CutSchema lookup outer site schema) (h' : CutSchema lookup outer site schema') :
    schema = schema' := by
  refine h (fun outer site schema => ∀ schema', CutSchema lookup outer site schema' →
    schema = schema') ?_ schema' h'
  intro outer site schema hcomposed schema' h'
  refine hcomposed.unique h'.composed (fun _ _ _ _ heq hother => heq _ hother) ?_
  intro declaration _ found found' hfound hfound'
  cases found with
  | none =>
      cases found' with
      | none => rfl
      | some _ => exact absurd hfound hfound'.1
  | some schema =>
      cases found' with
      | none => exact absurd hfound' hfound.1
      | some _ => rw [hfound.2 _ hfound'.2]

end CutSchema

/-! Where the references of a declaration are cut. -/

/-- The nodes that a declaration leads to without passing through declarations under way. -/
def Region (lookup : Lookup) (outer : Set NodeId) : Site → Site → Prop :=
  Relation.ReflTransGen fun site next =>
    next ∈ site.visits lookup ∨ next ∈ site.follows lookup ∧ next.id ∉ outer

/-- Expanded with `outer` under way around it, the declaration is cut at another. -/
def CutsAt (lookup : Lookup) (outer : Set NodeId) (declaration other : Site) : Prop :=
  ∃ site, Region lookup outer declaration site ∧ other ∈ site.follows lookup ∧ other.id ∈ outer

/-- On every chain of references from `root` on which a declaration is expanded, it is cut at the
same declarations. -/
def Consistent (lookup : Lookup) (root : Site) : Prop :=
  ∀ declaration outer outer', declaration.isDeclaration = true →
    Begun lookup root outer declaration → Begun lookup root outer' declaration →
    ∀ other, CutsAt lookup outer declaration other → other.id ∈ outer'

section Consistent

variable {lookup : Lookup}

theorem underWay_union (site : Site) (outer inner : Set NodeId) :
    site.underWay (outer ∪ inner) = outer ∪ site.underWay inner := by
  ext id
  simp only [Site.underWay, Set.mem_union, Set.mem_ofPred_eq, or_assoc]

theorem CutSchema.congr {outer outer' : Set NodeId} {declaration : Site} {schema : Schema}
    (h : CutSchema lookup outer declaration schema)
    (hcut : ∀ other, CutsAt lookup outer declaration other → other.id ∈ outer')
    (hcut' : ∀ other, CutsAt lookup outer' declaration other → other.id ∈ outer) :
    CutSchema lookup outer' declaration schema := by
  -- the same declarations are opened below the two sets, so what is under way differs only by them
  have hlockstep := h (fun around site schema => ∀ inner, around = outer ∪ inner →
    Region lookup outer declaration site → Region lookup outer' declaration site →
    CutSchema lookup (outer' ∪ inner) site schema) ?_ ∅ (by simp) .refl .refl
  · simpa using hlockstep
  · rintro _ site schema hcomposed inner rfl hregion hregion'
    apply cutClosed_cutSchema
    rw [underWay_union] at hcomposed ⊢
    refine hcomposed.imp ?_ ?_
    · intro next hvisited _ hnext
      exact hnext _ rfl (hregion.tail (.inl hvisited)) (hregion'.tail (.inl hvisited))
    · intro next hfollowed found hfound
      cases found with
      | none =>
          rcases hfound with hfound | hfound
          · exact .inl (hcut next ⟨site, hregion, hfollowed, hfound⟩)
          · exact .inr hfound
      | some schema =>
          obtain ⟨houtside, hnext⟩ := hfound
          have houter : next.id ∉ outer := fun hmem => houtside (.inl hmem)
          have houter' : next.id ∉ outer' := fun hmem =>
            houter (hcut' next ⟨site, hregion', hfollowed, hmem⟩)
          refine ⟨?_, hnext _ rfl (hregion.tail (.inr ⟨hfollowed, houter⟩))
            (hregion'.tail (.inr ⟨hfollowed, houter'⟩))⟩
          intro hresult
          rcases hresult with hmem | hmem
          · exact houter' hmem
          · exact houtside (.inr hmem)

theorem Begun.id_notMem {program : Program} {root : Site} (hgrammar : program.Grammatical)
    (hlookup : lookup.Within program) (hroot : root ∈ program.sites) {outer : Set NodeId}
    {declaration : Site} (h : Begun lookup root outer declaration)
    (hdeclaration : declaration.isDeclaration = true) : declaration.id ∉ outer := by
  cases h with
  | root => exact Set.notMem_empty _
  | visit hsite hvisited =>
      have hmem := (hsite.leading hlookup hroot).1
      simp [hgrammar.isDeclaration_of_mem_visits hmem hvisited] at hdeclaration
  | follow _ _ hfresh => exact hfresh

theorem Region.reaches {outer : Set NodeId} {declaration site : Site}
    (h : Region lookup outer declaration site) : Site.Reaches lookup declaration site := by
  induction h with
  | refl => exact .refl
  | tail _ hstep ih => exact ih.tail (hstep.imp_right And.left)

theorem consistent_of_selfReferences {program : Program} {root : Site} (hprogram : program.Built)
    (hgrammar : program.Grammatical) (hlookup : lookup.Declares program)
    (hroot : root ∈ program.sites)
    (h : ∀ first ∈ program.declarations, ∀ second ∈ program.declarations,
      Site.Reaches lookup first second → Site.Reaches lookup second first → first = second) :
    Consistent lookup root := by
  intro declaration outer outer' hdeclaration hbegun _ other hresult
  obtain ⟨site, hregion, hfollowed, houter⟩ := hresult
  obtain ⟨hmem, hleading⟩ := hbegun.leading hlookup.within hroot
  have hsite := hregion.reaches.mem_sites hlookup.within hmem
  have hother := hlookup site hsite other (Site.mem_sites_of_mem_follows hfollowed)
  obtain ⟨outermost, houtermost, hid, hback⟩ := hleading _ houter
  obtain rfl := hprogram.eq_of_id_eq houtermost (Program.mem_declarations.1 hother).1 hid
  have hthere := hregion.reaches.tail (.inr hfollowed)
  have hself := Program.mem_declarations.2 ⟨hmem, hdeclaration⟩
  obtain rfl := h declaration hself _ hother hthere hback
  exact absurd houter (hbegun.id_notMem hgrammar hlookup.within hroot hdeclaration)

end Consistent

namespace Expand

theorem inductive_cutSchema {program : Program} {lookup : Lookup} {root : Site}
    (hlookup : lookup.Declares program) (hconsistent : Consistent lookup root) :
    Inductive program lookup True (Begun lookup root) (CutSchema lookup) := by
  intro outer site hsite hbegun schema hcomposed
  apply cutClosed_cutSchema
  refine hcomposed.imp (fun _ _ _ h => h) ?_
  intro declaration hfollowed found hfound
  cases found with
  | none => exact hfound
  | some schema =>
      obtain ⟨⟨outer', hbegun', hschema⟩, houtside⟩ := hfound
      have hfresh := houtside trivial
      have hhere := hbegun.follow hfollowed hfresh
      have hdeclaration := (Program.mem_declarations.1
        (hlookup site hsite declaration (Site.mem_sites_of_mem_follows hfollowed))).2
      refine ⟨hfresh, hschema.congr ?_ ?_⟩
      · exact hconsistent declaration outer' _ hdeclaration hbegun' hhere
      · exact hconsistent declaration _ outer' hdeclaration hhere hbegun'

/-- The schema of a node when nothing is ever found on record: what a node puts there is taken off
again as soon as the node is done. Only the declarations under way keep a circle from being followed
without end. -/
def unrecorded (lookup : Lookup) : Nat → Site → Expand Schema
  | 0, _ => fun _ => none
  | budget + 1, site => do
      let schema ← nodeWith lookup (unrecorded lookup budget) site
      modify fun progress => { progress with expanded := ∅ }
      return schema

structure Bare (outer : Set NodeId) (progress : Progress) : Prop where
  expanded : ∀ id, progress.expanded.get? id = none
  expanding : ∀ id, id ∈ progress.expanding ↔ id ∈ outer

theorem Bare.opened {outer : Set NodeId} {progress : Progress} (h : Bare outer progress)
    (site : Site) : Bare (site.underWay outer) (progress.opened site) := by
  refine ⟨by simpa using h.expanded, ?_⟩
  intro id
  rw [Progress.mem_expanding_opened, h.expanding]
  rfl

theorem Bare.retains {outer : Set NodeId} {before after : Progress} (h : Bare outer before)
    (h' : Bare outer after) : before.Retains after := by
  intro id hid
  rw [Progress.knows_iff] at hid ⊢
  rcases hid with hid | hid
  · exact .inl ((h'.expanding id).2 ((h.expanding id).1 hid))
  · simp [h.expanded] at hid

theorem outcome_unrecorded {program : Program} {lookup : Lookup} (hgrammar : program.Grammatical)
    (hlookup : lookup.Declares program) {budget : Nat} {outer : Set NodeId} {site : Site}
    {progress : Progress} (hsite : site ∈ program.sites)
    (hneed : need program site progress ≤ budget) (hbare : Bare outer progress)
    (hfresh : site.isDeclaration = true → site.id ∉ outer) :
    Outcome False (fun schema after => Bare outer after ∧ CutSchema lookup outer site schema)
      (unrecorded lookup budget site progress) := by
  induction budget generalizing outer site progress with
  | zero =>
      have hpos := site.size_pos
      unfold need at hneed
      omega
  | succ budget ih =>
      let inside := site.underWay outer
      have hretains : ∀ before, Bare inside before → (progress.opened site).Retains before :=
        fun before hbefore => (hbare.opened site).retains hbefore
      have hvisits : KeptByVisits False (Bare inside) (CutSchema lookup inside)
          (unrecorded lookup budget) (site.visits lookup) := by
        intro next hvisited before hbefore
        have hholds := Site.holds_of_mem_visits hvisited
        have hmem := hholds.mem_sites hsite
        have hless := need_lt_of_measure_lt hmem
          (measure_lt_of_holds hholds (hretains before hbefore))
        refine ih hmem (by omega) hbefore ?_
        intro hdeclaration
        simp [hgrammar.isDeclaration_of_mem_visits hsite hvisited] at hdeclaration
      have hfollows : KeptByFollows False (Bare inside) (CutWhenOpen (CutSchema lookup) inside)
          (unrecorded lookup budget) (site.follows lookup) := by
        intro declaration hfollowed before hbefore
        have hdeclaration : declaration ∈ program.declarations :=
          hlookup site hsite declaration (Site.mem_sites_of_mem_follows hfollowed)
        apply outcome_followWith
        · intro schema hschema
          simp [hbefore.expanded] at hschema
        · intro _ hexpanding name
          exact ⟨⟨hbefore.expanded, hbefore.expanding⟩, (hbefore.expanding _).1 hexpanding⟩
        · intro hnone hexpanding
          have houtside : declaration.id ∉ inside := fun hmem =>
            hexpanding ((hbefore.expanding _).2 hmem)
          have hunknown : before.knows declaration.id = false := by
            simp [Progress.knows, hnone, hexpanding]
          have hmem := (Program.mem_declarations.1 hdeclaration).1
          have hless := need_lt_of_measure_lt hmem
            (measure_lt_of_fresh hdeclaration hunknown (hretains before hbefore))
          refine (ih hmem (by omega) hbefore fun _ => houtside).imp ?_
          exact fun schema after hafter => ⟨hafter.1, houtside, hafter.2⟩
      have hnode := outcome_nodeWith
        (fun before events _ hbefore => (⟨hbefore.expanded, hbefore.expanding⟩ :
          Bare inside (before.report events))) hvisits hfollows (hbare.opened site)
      refine outcome_bind hnode ?_
      intro schema after hresult
      obtain ⟨done, hdone, hcomposed, rfl⟩ := hresult
      refine ⟨⟨fun _ => rfl, ?_⟩, cutClosed_cutSchema lookup outer site schema hcomposed⟩
      intro id
      change id ∈ (done.closed site schema).expanding ↔ id ∈ outer
      rw [Progress.mem_expanding_closed, hdone.expanding]
      constructor
      · intro hresult
        obtain ⟨hid, hother⟩ := hresult
        exact hid.resolve_right hother
      · intro hid
        refine ⟨.inl hid, ?_⟩
        intro hresult
        obtain ⟨hdeclaration, rfl⟩ := hresult
        exact hfresh hdeclaration hid

/-- With and without the record a declaration has the same schema, if on every chain of references
on which a declaration is expanded it is cut at the same declarations. -/
theorem node_eq_unrecorded {program : Program} {lookup : Lookup} {root : Site}
    (hprogram : program.Built) (hgrammar : program.Grammatical)
    (hlookup : lookup.Declares program) (hroot : root ∈ program.declarations)
    (hconsistent : Consistent lookup root) :
    ∃ schema after after', node lookup program.budget root .start = some (schema, after) ∧
      unrecorded lookup program.budget root .start = some (schema, after') := by
  have hsite := (Program.mem_declarations.1 hroot).1
  obtain ⟨schema, after, hnode⟩ := exists_node hlookup hsite .start
  have hschema := good_of_start hprogram hgrammar hlookup.within hsite
    (inductive_cutSchema hlookup hconsistent) hnode
  have hstart : Bare ∅ .start := ⟨fun _ => rfl, by simp [Progress.start]⟩
  obtain ⟨schema', after', hunrecorded, _, hschema'⟩ :=
    (outcome_unrecorded hgrammar hlookup hsite (need_le_budget hsite .start) hstart
      fun _ => Set.notMem_empty _).exists_some
  rw [hschema'.unique hschema] at hunrecorded
  exact ⟨schema, after, after', hnode, hunrecorded⟩

/-- Two keys of `A` are of type `N`, which has a key of its own type. -/
def selfReferenceSample : List Outline :=
  [⟨'A', none, [⟨'a', some 'N'⟩, ⟨'b', some 'N'⟩]⟩, ⟨'N', none, [⟨'n', some 'N'⟩, ⟨'s', none⟩]⟩]

set_option maxRecDepth 10000 in
theorem node_eq_unrecorded_sample :
    let program := Outline.program selfReferenceSample
    let root := Outline.site selfReferenceSample ⟨0, by decide +kernel⟩
    Consistent program.lookup root ∧
    ∃ schema after after',
      node program.lookup program.budget root .start = some (schema, after) ∧
      unrecorded program.lookup program.budget root .start = some (schema, after') := by
  intro program root
  have hprogram : program.Built := Outline.built_program _
  have hgrammar : program.Grammatical := ⟨by decide +kernel, by decide +kernel⟩
  have hlookup : program.lookup.Declares program := Program.lookup_declares (by decide +kernel)
  have hroot : root ∈ program.declarations := Outline.site_mem_declarations _ _
  -- references lead on to the second line of the source and never back to the first
  let line (site : Site) : Nat := if site.focus.start < 27 then 0 else 1
  have hline : ∀ site ∈ program.sites,
      ∀ next ∈ site.visits program.lookup ++ site.follows program.lookup,
        line site ≤ line next := by decide +kernel
  have hdistinct : ∀ first ∈ program.declarations, ∀ second ∈ program.declarations,
      line first = line second → first.id = second.id := by decide +kernel
  have hconsistent : Consistent program.lookup root := by
    refine consistent_of_selfReferences hprogram hgrammar hlookup
      (Program.mem_declarations.1 hroot).1 ?_
    intro first hfirst second hsecond hthere hback
    have hmem := (Program.mem_declarations.1 hfirst).1
    have hmem' := (Program.mem_declarations.1 hsecond).1
    have hle := hthere.rank_le hlookup.within hline hmem
    have hge := hback.rank_le hlookup.within hline hmem'
    exact hprogram.eq_of_id_eq hmem hmem'
      (hdistinct first hfirst second hsecond (Nat.le_antisymm hle hge))
  exact ⟨hconsistent, node_eq_unrecorded hprogram hgrammar hlookup hroot hconsistent⟩

/-- `B` and `C` have keys of each other's types, and `A` has keys of both. -/
def recordSample : List Outline :=
  [⟨'A', some 'M', [⟨'b', some 'B'⟩, ⟨'c', some 'C'⟩]⟩, ⟨'B', none, [⟨'c', some 'C'⟩]⟩,
   ⟨'C', none, [⟨'b', some 'B'⟩]⟩]

def unfoldsTwice (schema : Schema) : Bool :=
  ((schema.get? "c").bind Entry.children).any fun children =>
    ((children.get? "b").bind Entry.children).isSome

set_option maxRecDepth 10000 in
/-- `C` is put on record while `B` is under way, and is cut there for the key `c` of `A` as well. -/
theorem node_ne_unrecorded :
    let program := Outline.program recordSample
    let root := Outline.site recordSample ⟨0, by decide +kernel⟩
    (node program.lookup program.budget root .start).map Prod.fst ≠
      (unrecorded program.lookup program.budget root .start).map Prod.fst := by
  intro program root heq
  have hnode : ((node program.lookup program.budget root .start).map Prod.fst).any
      unfoldsTwice = false := by decide +kernel
  have hunrecorded : ((unrecorded program.lookup program.budget root .start).map Prod.fst).any
      unfoldsTwice = true := by decide +kernel
  rw [heq, hunrecorded] at hnode
  cases hnode

end Expand

end Keypath
