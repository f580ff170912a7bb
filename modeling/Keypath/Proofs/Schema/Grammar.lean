import Keypath.Proofs.Schema.Parts

/-!
What the grammar promises of the nodes that schemas are made of, and which properties belong to a
declaration.

A node may have several shapes at once. In trees of the grammar the nodes that matter contribute in
one way only: base types name declarations, and what stands between brackets is a property or
contributes nothing.
-/

namespace Keypath

open Keypath.Tree

namespace Site

/-- The node contributes to a schema in no other way. -/
def Only (site : Site) (shape : Shape) : Prop :=
  ∀ other ∈ contributing, site.has other = true → other = shape

instance (site : Site) (shape : Shape) : Decidable (site.Only shape) :=
  inferInstanceAs (Decidable (∀ other ∈ contributing, site.has other = true → other = shape))

theorem Only.mem_partsOf {lookup : Lookup} {site : Site} {shape : Shape} {part : Part}
    (h : site.Only shape) (hpart : part ∈ site.parts lookup) :
    part ∈ site.partsOf lookup shape := by
  obtain ⟨other, hother, hhas, hpart⟩ := mem_parts.1 hpart
  obtain rfl := h other hother hhas
  exact hpart

theorem of_key_mem_parts {lookup : Lookup} {site property : Site} {name : String}
    (h : .key property name ∈ site.parts lookup) :
    property = site ∧ site.has .property = true ∧ site.propertyName? = some name := by
  obtain ⟨shape, _, hhas, hpart⟩ := mem_parts.1 h
  cases shape <;> simp [partsOf] at hpart
  exact ⟨hpart.2.symm, hhas, hpart.1⟩

theorem isHeritageEntry_of_mem_heritageEntries {site entry : Site}
    (h : entry ∈ site.heritageEntries) : entry.focus.isHeritageEntry = true := by
  obtain ⟨focus, hfocus, rfl⟩ := List.mem_map.1 h
  exact Focus.isHeritageEntry_of_mem_heritageEntries hfocus

theorem isDeclaration_iff {site : Site} :
    site.isDeclaration = true ↔ site.has .interface = true ∨ site.has .typeAlias = true := by
  simp only [isDeclaration, Kind.isDeclaration, has, decide_eq_true_eq]
  cases site.kind <;> simp

theorem Only.isDeclaration_eq_false {site : Site} {shape : Shape} (h : site.Only shape)
    (hinterface : shape ≠ .interface) (halias : shape ≠ .typeAlias) :
    site.isDeclaration = false := by
  by_contra hdeclaration
  rcases isDeclaration_iff.1 (by simpa using hdeclaration) with hhas | hhas
  · exact hinterface (h _ (by simp [contributing]) hhas).symm
  · exact halias (h _ (by simp [contributing]) hhas).symm

/-- How one node is visited from another. -/
inductive VisitedBy (site next : Site) : Prop where
  | entry (hinterface : site.has .interface = true) (hentry : next ∈ site.heritageEntries)
  | member (hinterface : site.has .interface = true) (hmember : next ∈ site.members)
  | nested (hliteral : site.has .typeLiteral = true) (hmember : next ∈ site.members)
  | written (hproperty : site.has .property = true) (hliteral : site.literal? = some next)
  | aliased (halias : site.has .typeAlias = true) (hliteral : site.aliasLiteral? = some next)

theorem visitedBy_of_mem_visits {lookup : Lookup} {site next : Site}
    (h : next ∈ site.visits lookup) : VisitedBy site next := by
  obtain ⟨part, hpart, hnext⟩ := List.mem_flatMap.1 h
  obtain ⟨shape, _, hhas, hpart⟩ := mem_parts.1 hpart
  cases shape with
  | interface =>
      obtain ⟨child, hchild, rfl⟩ := List.mem_map.1 hpart
      obtain rfl := List.mem_singleton.1 hnext
      rcases List.mem_append.1 hchild with hentry | hmember
      · exact .entry hhas hentry
      · exact .member hhas hmember
  | property =>
      obtain ⟨name, _, rfl⟩ := List.mem_map.1 hpart
      exact .written hhas (Option.mem_toList.1 hnext)
  | importing | heritage =>
      obtain ⟨declaration, _, rfl⟩ := List.mem_map.1 hpart
      cases hnext
  | typeLiteral =>
      obtain ⟨member, hmember, rfl⟩ := List.mem_map.1 hpart
      obtain rfl := List.mem_singleton.1 hnext
      exact .nested hhas hmember
  | typeAlias =>
      obtain ⟨literal, hliteral, rfl⟩ := List.mem_map.1 hpart
      obtain rfl := List.mem_singleton.1 hnext
      exact .aliased hhas (Option.mem_toList.1 hliteral)
  | arrayType => cases hpart

theorem isDeclaration_of_mem_visits {program : Program} (lookup : Lookup)
    (hmembers : ∀ site ∈ program.sites,
      site.has .interface = true ∨ site.has .typeLiteral = true →
      ∀ member ∈ site.members, member.isDeclaration = false)
    (hentries : ∀ site ∈ program.sites, site.has .interface = true →
      ∀ entry ∈ site.heritageEntries, entry.isDeclaration = false) :
    ∀ site ∈ program.sites, ∀ next ∈ site.visits lookup, next.isDeclaration = false := by
  intro site hsite next hnext
  have hliteral (hhas : next.has .typeLiteral = true) : next.isDeclaration = false := by
    have hkind : next.kind = .objectType := by simpa [has] using hhas
    simp [isDeclaration, Kind.isDeclaration, hkind]
  cases visitedBy_of_mem_visits hnext with
  | entry hinterface hentry => exact hentries site hsite hinterface next hentry
  | member hinterface hmember => exact hmembers site hsite (.inl hinterface) next hmember
  | nested hhas hmember => exact hmembers site hsite (.inr hhas) next hmember
  | written _ hwrites | aliased _ hwrites =>
      exact hliteral (Option.filter_eq_some_iff.1 hwrites).2

end Site

namespace Program

/-- Members of interfaces and of written out object types, and base types, contribute as the grammar
has it. -/
structure Grammatical (program : Program) : Prop where
  member : ∀ site ∈ program.sites, site.has .interface = true ∨ site.has .typeLiteral = true →
    ∀ member ∈ site.members, member.Only .property
  entry : ∀ site ∈ program.sites, site.focus.isHeritageEntry = true → site.Only .heritage

theorem Grammatical.only {program : Program} (h : program.Grammatical) {site : Site}
    (hsite : site ∈ program.sites) {shape : Shape} (hshape : shape ∈ Site.contributing)
    (hhas : site.has shape = true) (hheritage : shape ≠ .heritage) : site.Only shape := by
  have hentry : site.focus.isHeritageEntry = false := by
    by_contra hentry
    exact hheritage (h.entry site hsite (by simpa using hentry) shape hshape hhas)
  intro other _ hother
  cases shape <;> cases other <;>
    simp_all [Site.has, Site.contributing, Focus.isHeritageClause]

theorem Grammatical.isDeclaration_of_mem_visits {program : Program} (h : program.Grammatical)
    {lookup : Lookup} {site next : Site} (hsite : site ∈ program.sites)
    (hnext : next ∈ site.visits lookup) : next.isDeclaration = false := by
  refine Site.isDeclaration_of_mem_visits lookup ?_ ?_ site hsite next hnext
  · intro site hsite hhas member hmember
    exact (h.member site hsite hhas member hmember).isDeclaration_eq_false (by simp) (by simp)
  · intro site hsite _ entry hentry
    have hmem := (Site.holds_of_mem_heritageEntries hentry).mem_sites hsite
    have hheritage := Site.isHeritageEntry_of_mem_heritageEntries hentry
    exact (h.entry entry hmem hheritage).isDeclaration_eq_false (by simp) (by simp)

end Program

/-! Keys that a node takes over from another. -/

namespace Site

def Passes (lookup : Lookup) (site next : Site) : Prop :=
  .visit next ∈ site.parts lookup ∨ .follow next ∈ site.parts lookup

def Offers (lookup : Lookup) (site property : Site) : Prop :=
  Relation.ReflTransGen (Passes lookup) site property ∧ property.has .property = true

theorem Passes.refers {lookup : Lookup} {site next : Site} (h : Passes lookup site next) :
    Refers lookup site next := by
  rcases h with h | h
  · exact .inl (List.mem_flatMap.2 ⟨_, h, by simp [Part.visits]⟩)
  · exact .inr (List.mem_flatMap.2 ⟨_, h, by simp [Part.follows]⟩)

theorem Offers.mem_sites {program : Program} {lookup : Lookup} {site property : Site}
    (h : Offers lookup site property) (hlookup : lookup.Within program)
    (hsite : site ∈ program.sites) : property ∈ program.sites := by
  have hchain := h.1
  clear h
  induction hchain with
  | refl => exact hsite
  | tail _ hpasses ih => exact hpasses.refers.mem_sites hlookup ih

theorem Offers.head {lookup : Lookup} {site next property : Site}
    (hpasses : Passes lookup site next) (h : Offers lookup next property) :
    Offers lookup site property :=
  ⟨.head hpasses h.1, h.2⟩

end Site

/-- The property is written in the declaration. -/
inductive Site.Writes (declaration property : Site) : Prop where
  | member (hinterface : declaration.has .interface = true)
      (hmember : property ∈ declaration.members) (hproperty : property.has .property = true)
  | aliased {literal : Site} (halias : declaration.has .typeAlias = true)
      (hliteral : declaration.aliasLiteral? = some literal) (hmember : property ∈ literal.members)
      (hproperty : property.has .property = true)

/-- The property is written in the declaration or in one that the declaration extends. -/
inductive Belongs (lookup : Lookup) : (declaration property : Site) → Prop where
  | own {declaration property : Site} (hwrites : declaration.Writes property) :
      Belongs lookup declaration property
  | inherited {declaration entry base property : Site}
      (hinterface : declaration.has .interface = true)
      (hentry : entry ∈ declaration.heritageEntries) (hbase : base ∈ (lookup entry).sites)
      (hbelongs : Belongs lookup base property) : Belongs lookup declaration property

/-- What it takes for the keys of a node to come from a property, by what the node is. -/
structure Source (lookup : Lookup) (property site : Site) : Prop where
  declaration : site.isDeclaration = true → Belongs lookup site property
  entry : site.focus.isHeritageEntry = true → ∃ base ∈ (lookup site).sites,
    Belongs lookup base property
  member : site.Only .property → site = property
  literal : site.has .typeLiteral = true → property ∈ site.members

section Source

variable {program : Program} {lookup : Lookup} {property : Site}

theorem source_self (hgrammar : program.Grammatical) (hmem : property ∈ program.sites)
    (hproperty : property.has .property = true) : Source lookup property property := by
  have honly : property.Only .property :=
    hgrammar.only hmem (by simp [Site.contributing]) hproperty (by simp)
  refine ⟨fun h => ?_, fun h => ?_, fun _ => rfl, fun h => ?_⟩
  · simp [honly.isDeclaration_eq_false] at h
  · cases hgrammar.entry property hmem h _ (by simp [Site.contributing]) hproperty
  · cases honly _ (by simp [Site.contributing]) h

theorem Source.of_passes (hgrammar : program.Grammatical) (hlookup : lookup.Declares program)
    (hproperty : property.has .property = true) {site next : Site} (hsite : site ∈ program.sites)
    (hpasses : Site.Passes lookup site next) (h : Source lookup property next) :
    Source lookup property site := by
  have hpart {shape : Shape} (honly : site.Only shape) :
      .visit next ∈ site.partsOf lookup shape ∨ .follow next ∈ site.partsOf lookup shape :=
    hpasses.imp honly.mem_partsOf honly.mem_partsOf
  have honly {shape : Shape} (hshape : shape ∈ Site.contributing) (hhas : site.has shape = true)
      (hheritage : shape ≠ .heritage) : site.Only shape :=
    hgrammar.only hsite hshape hhas hheritage
  refine ⟨fun hdeclaration => ?_, fun hentry => ?_, fun hmember => ?_, fun hliteral => ?_⟩
  · rcases Site.isDeclaration_iff.1 hdeclaration with hinterface | halias
    · have hnext := hpart (honly (by simp [Site.contributing]) hinterface (by simp))
      simp only [Site.partsOf, List.mem_map, Part.visit.injEq, exists_eq_right, reduceCtorEq,
        and_false, exists_false, or_false, List.mem_append] at hnext
      rcases hnext with hentry | hmember
      · obtain ⟨base, hbase, hbelongs⟩ :=
          h.entry (Site.isHeritageEntry_of_mem_heritageEntries hentry)
        exact .inherited hinterface hentry hbase hbelongs
      · obtain rfl := h.member (hgrammar.member site hsite (.inl hinterface) next hmember)
        exact .own (.member hinterface hmember hproperty)
    · have hnext := hpart (honly (by simp [Site.contributing]) halias (by simp))
      simp only [Site.partsOf, List.mem_map, Part.visit.injEq, exists_eq_right, reduceCtorEq,
        and_false, exists_false, or_false, Option.mem_toList] at hnext
      have hliteral := (Option.filter_eq_some_iff.1 hnext).2
      exact .own (.aliased halias hnext (h.literal hliteral) hproperty)
  · have hnext := hpart (hgrammar.entry site hsite hentry)
    simp only [Site.partsOf, List.mem_map, Part.follow.injEq, exists_eq_right, reduceCtorEq,
      and_false, exists_false, false_or] at hnext
    have hdeclaration := (Program.mem_declarations.1 (hlookup site hsite next hnext)).2
    exact ⟨next, hnext, h.declaration hdeclaration⟩
  · have hnext := hpart hmember
    simp [Site.partsOf] at hnext
  · have hnext := hpart (honly (by simp [Site.contributing]) hliteral (by simp))
    simp only [Site.partsOf, List.mem_map, Part.visit.injEq, exists_eq_right, reduceCtorEq,
      and_false, exists_false, or_false] at hnext
    obtain rfl := h.member (hgrammar.member site hsite (.inr hliteral) next hnext)
    exact hnext

theorem source_of_offers (hgrammar : program.Grammatical) (hlookup : lookup.Declares program)
    {site : Site} (hsite : site ∈ program.sites) (h : Site.Offers lookup site property) :
    Source lookup property site := by
  obtain ⟨hchain, hproperty⟩ := h
  induction hchain using Relation.ReflTransGen.head_induction_on with
  | refl => exact source_self hgrammar hsite hproperty
  | head hpasses _ ih =>
      have hnext := hpasses.refers.mem_sites hlookup.within hsite
      exact .of_passes hgrammar hlookup hproperty hsite hpasses (ih hnext)

end Source

end Keypath
