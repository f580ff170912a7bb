import Keypath.Proofs.Schema.Cycles
import Keypath.Proofs.Schema.Provenance

/-!
The shape of entries.

A written type is looked at twice: once for the kind of the entry, and once for whether it has
elements or is an object type that is written out. Both see through the same brackets, so what an
entry says of elements and of children agrees with its kind. A reference lacks children only where
all that it names was cut, and a cut is reported.
-/

namespace Keypath

open Keypath.Tree

namespace Site

theorem typeKind_eq_objectLiteral_iff {written : Site} :
    written.typeKind = .objectLiteral ↔ written.bare.has .typeLiteral = true := by
  simp only [typeKind, bare, has]
  split
  case h_5 => split <;> simp_all
  all_goals simp_all

theorem typeKind_eq_array_iff {written : Site} :
    written.typeKind = .array ↔ written.bare.has .arrayType = true := by
  simp only [typeKind, bare, has]
  split
  case h_5 => split <;> simp_all
  all_goals simp_all [isArrayType]

theorem typeKind_eq_array {written : Site} (h : written.elementKind?.isSome = true) :
    written.typeKind = .array := by
  unfold elementKind? at h
  split at h
  case isTrue harray => exact typeKind_eq_array_iff.2 harray
  case isFalse => cases h

end Site

/-- What the fields of an entry say agrees with its kind. -/
structure Entry.Shaped (entry : Entry) : Prop where
  elements : entry.elementKind.isSome = true → entry.kind = some .array
  children : entry.children.isSome = true →
    entry.kind = some .reference ∨ entry.kind = some .objectLiteral
  literal : entry.kind = some .objectLiteral → entry.children.isSome = true
  kindless : entry.kind = none → entry.children = none ∧ entry.elementKind = none
  untyped : entry.detail = none → entry.kind = none

def Entry.Cut (entry : Entry) : Prop := entry.kind = some .reference ∧ entry.children = none

theorem notMem_of_childrenOf {found : List (Option Schema)} {schema : Schema}
    (h : childrenOf found = none) : some schema ∉ found := by
  intro hmem
  have hmem : schema ∈ found.reduceOption := by simpa [List.reduceOption] using hmem
  unfold childrenOf at h
  split at h
  case h_1 hnil => simp [hnil] at hmem
  case h_2 => cases h

section Described

variable {lookup : Lookup} {Visit : Site → Schema → Prop} {Follow : Site → Option Schema → Prop}
variable {property : Site} {entry : Entry}

theorem Described.shaped (h : Described lookup Visit Follow property entry) : entry.Shaped := by
  cases h with
  | untyped | unresolved | reference => constructor <;> simp
  | @literal written children _ _ hliteral =>
      have hkind := Site.typeKind_eq_objectLiteral_iff.2 hliteral
      exact ⟨fun h => congrArg some (Site.typeKind_eq_array h),
        fun _ => .inr (congrArg some hkind), fun _ => rfl, nofun, nofun⟩
  | @leaf written _ _ hliteral =>
      refine ⟨fun h => congrArg some (Site.typeKind_eq_array h), nofun, fun hkind => ?_, nofun,
        nofun⟩
      rw [Site.typeKind_eq_objectLiteral_iff.1 (Option.some.inj hkind)] at hliteral
      cases hliteral

theorem Described.exists_cut (h : Described lookup Visit Follow property entry)
    (hcut : entry.Cut) : ∃ declaration ∈ property.named lookup, Follow declaration none := by
  obtain ⟨hkind, hchildren⟩ := hcut
  cases h with
  | untyped | unresolved => cases hkind
  | literal => cases hchildren
  | leaf hwritten hnot => exact absurd (Option.some.inj hkind) hnot
  | @reference written found hwritten hreference hsome hfound =>
      obtain ⟨declaration, hdeclaration⟩ := List.exists_mem_of_ne_nil _ hsome
      obtain ⟨given, hgiven, hfollow⟩ := forall₂_exists_right hfound hdeclaration
      cases given with
      | none => exact ⟨declaration, by simpa [Site.named, hwritten, hreference], hfollow⟩
      | some schema => exact absurd hgiven (notMem_of_childrenOf hchildren)

end Described

section Acyclic

variable {lookup : Lookup}

theorem Acyclic.of_offers {site property : Site} (h : Acyclic lookup site)
    (hoffers : Site.Offers lookup site property) : Acyclic lookup property :=
  h.of_reaches (hoffers.1.lift id fun _ _ => Site.Passes.refers)

theorem Site.Unfolds.refers {property next : Site} {name : String}
    (h : Site.Unfolds lookup property next) (hproperty : property.has .property = true)
    (hname : property.propertyName? = some name) : Site.Refers lookup property next := by
  have hshape : Shape.property ∈ Site.contributing := by simp [Site.contributing]
  have hpart : .key property name ∈ property.partsOf lookup .property := by
    simp [Site.partsOf, hname]
  rcases h with hliteral | hnamed
  · exact .inl (Site.mem_visits_of_partsOf _ hshape hproperty hpart hliteral)
  · exact .inr (Site.mem_follows_of_partsOf _ hshape hproperty hpart hnamed)

theorem Spells.not_reaches {First : Site → Prop} {keys : List String} {last next : Site}
    (h : Spells (Relation.Comp (Site.Unfolds lookup) (Site.Offers lookup)) First keys last)
    (hfirst : ∀ property, First property →
      Acyclic lookup property ∧ property.has .property = true)
    (hnext : Site.Unfolds lookup last next) : ¬Site.Reaches lookup next last := by
  induction h with
  | last hmem hname =>
      obtain ⟨hacyclic, hproperty⟩ := hfirst _ hmem
      intro hback
      exact not_acyclic_of_refers (hnext.refers hproperty hname) hback hacyclic
  | next hmem hname _ ih =>
      obtain ⟨hacyclic, hproperty⟩ := hfirst _ hmem
      refine ih (fun other hother => ?_) hnext
      obtain ⟨middle, hunfolds, hoffers⟩ := hother
      have hmiddle : Acyclic lookup middle := hacyclic.inv (hunfolds.refers hproperty hname)
      exact ⟨hmiddle.of_offers hoffers, hoffers.2⟩

end Acyclic

namespace Expand

section Cut

variable {program : Program} {lookup : Lookup}

theorem inductive_shaped (hprogram : program.Built) (hlookup : lookup.Within program) :
    InductiveAnywhere program lookup (Traced lookup fun property entry => entry.Shaped ∧
      (entry.Cut → ∃ declaration ∈ property.named lookup,
        Site.Reaches lookup declaration property)) := by
  intro outer site hsite haround schema hcomposed
  refine hcomposed.traced (fun _ _ h => h) ?_ fun entry hentry => ⟨hentry.shaped, fun hcut => ?_⟩
  · intro _ _ hresult
    obtain ⟨⟨_, _, htraced⟩, _⟩ := hresult
    exact htraced
  · obtain ⟨declaration, hnamed, hinside⟩ := hentry.exists_cut hcut
    have hmem := hlookup site hsite declaration (Site.mem_sites_of_mem_named hnamed)
    exact ⟨declaration, hnamed, (nesting_leading program lookup).reaches_inside hprogram hsite
      haround hmem hinside⟩

end Cut

/-- The entries of a schema are well shaped at every depth, and a reference lacks children only in
the schemas of runs that report a circle. -/
theorem node_entries_shaped {program : Program} {lookup : Lookup} {root : Site}
    (hprogram : program.Built) (hlookup : lookup.Within program) (hroot : root ∈ program.sites) :
    (∀ budget schema after, node lookup budget root .start = some (schema, after) →
      ∀ keys entry, Leads schema keys entry → entry.Shaped ∧
        (entry.kind = some .reference → entry.children = none →
          ∃ event ∈ after.events, event.isCycle = true)) ∧
    (lookup.Declares program → ∃ schema after,
      node lookup program.budget root .start = some (schema, after)) := by
  refine ⟨fun budget schema after hnode keys entry hkeys => ?_, fun hdeclares =>
    exists_node hdeclares hroot .start⟩
  obtain ⟨htraced, _⟩ := LeftBy.start.good hprogram hlookup
    (inductive_shaped hprogram hlookup) hroot hnode
  obtain ⟨property, hspells, hshaped, hcircle⟩ := htraced keys entry hkeys
  refine ⟨hshaped, fun hkind hchildren => ?_⟩
  obtain ⟨declaration, hnamed, hback⟩ := hcircle ⟨hkind, hchildren⟩
  refine exists_cycle_of_not_acyclic hprogram hlookup hroot hnode fun hacyclic => ?_
  have hfirst : ∀ property, Site.Offers lookup root property →
      Acyclic lookup property ∧ property.has .property = true :=
    fun property hoffers => ⟨hacyclic.of_offers hoffers, hoffers.2⟩
  exact hspells.not_reaches hfirst (.inr hnamed) hback

/-- `N` has a key of its own type. -/
def selfSample : List Outline := [⟨'N', none, [⟨'n', some 'N'⟩, ⟨'s', none⟩]⟩]

set_option maxRecDepth 10000 in
theorem node_entries_shaped_self :
    let program := Outline.program selfSample
    let root := Outline.site selfSample ⟨0, by decide +kernel⟩
    program.Built ∧ program.lookup.Declares program ∧ root ∈ program.sites ∧
    ∃ schema after entry, node program.lookup program.budget root .start = some (schema, after) ∧
      Leads schema ["n"] entry ∧ entry.kind = some .reference ∧ entry.children = none ∧
      entry.Shaped ∧ ∃ event ∈ after.events, event.isCycle = true := by
  intro program root
  have hprogram : program.Built := Outline.built_program _
  have hlookup : program.lookup.Declares program := Program.lookup_declares (by decide +kernel)
  have hroot : root ∈ program.sites := Outline.site_mem_sites _ _
  have hrun : (node program.lookup program.budget root .start).any (fun pair =>
      (pair.1.get? "n").any fun entry => decide (entry.kind = some .reference) &&
        entry.children.isNone) = true := by decide +kernel
  obtain ⟨⟨schema, after⟩, hnode, hrun⟩ := (Option.any_eq_true _ _).1 hrun
  obtain ⟨entry, hentry, hrun⟩ := (Option.any_eq_true _ _).1 hrun
  obtain ⟨hkind, hchildren⟩ := Bool.and_eq_true_iff.1 hrun
  have hkind := of_decide_eq_true hkind
  have hchildren := Option.isNone_iff_eq_none.1 hchildren
  have hkeys : Leads schema ["n"] entry := .last (Table.mem_of_get? hentry)
  obtain ⟨hruns, _⟩ := node_entries_shaped hprogram hlookup.within hroot
  obtain ⟨hshaped, hcycle⟩ := hruns program.budget schema after hnode ["n"] entry hkeys
  exact ⟨hprogram, hlookup, hroot, schema, after, entry, hnode, hkeys, hkind, hchildren, hshaped,
    hcycle hkind hchildren⟩

end Expand

end Keypath
