import Mathlib.Data.List.Forall2
import Mathlib.Data.List.ReduceOption
import Keypath.Schema.Expansion
import Keypath.Proofs.Sites

/-!
The parts that the schema of a node is put together from, read off the node alone.

What a node asks for, and in which order, does not depend on the answers. `Site.parts` lists it, and
`Composed` says how the answers make up the schema: each part may give what `Visit` allows for a
node of the same file and what `Follow` allows for a declaration, which gives nothing when it is
cut.
-/

namespace Keypath

open Keypath.Tree

namespace Site

def writtenType? (property : Site) : Option Site :=
  property.focus.annotatedType?.map property.move

def bare (site : Site) : Site := site.move site.focus.bareType

def elementKind? (written : Site) : Option TypeKind :=
  if written.bare.has .arrayType then written.bare.elementType?.map typeKind else none

/-- The object type that a property's type is written out as. -/
def literal? (property : Site) : Option Site :=
  (property.writtenType?.map bare).filter fun written => written.has .typeLiteral

/-- The object type that the value of an alias is written out as. -/
def aliasLiteral? (declaration : Site) : Option Site :=
  ((declaration.focus.child? .value).map fun value => declaration.move value.bareType).filter
    fun value => value.has .typeLiteral

/-- What the name written as a property's type stands for; nothing for any other type. -/
def named (lookup : Lookup) (property : Site) : List Site :=
  match property.writtenType? with
  | some written => if written.typeKind = .reference then (lookup property).sites else []
  | none => []

end Site

/-- One contribution to the schema of a node. -/
inductive Part where
  | visit (site : Site)
  /-- The schema of a declaration, unless it is under way. -/
  | follow (declaration : Site)
  | key (property : Site) (name : String)

namespace Part

def visits : Part → List Site
  | visit site => [site]
  | follow _ => []
  | key property _ => property.literal?.toList

def follows (lookup : Lookup) : Part → List Site
  | visit _ => []
  | follow declaration => [declaration]
  | key property _ => property.named lookup

end Part

namespace Site

/-- What one shape of a node contributes. -/
def partsOf (lookup : Lookup) (site : Site) : Shape → List Part
  | .interface => (site.heritageEntries ++ site.members).map .visit
  | .property => site.propertyName?.toList.map (.key site)
  | .importing | .heritage => (lookup site).sites.map .follow
  | .typeLiteral => site.members.map .visit
  | .typeAlias => site.aliasLiteral?.toList.map .visit
  | .arrayType => []

def contributing : List Shape :=
  [.interface, .property, .importing, .heritage, .typeLiteral, .typeAlias]

def parts (lookup : Lookup) (site : Site) : List Part :=
  contributing.flatMap fun shape => if site.has shape then site.partsOf lookup shape else []

def visits (lookup : Lookup) (site : Site) : List Site :=
  (site.parts lookup).flatMap Part.visits

def follows (lookup : Lookup) (site : Site) : List Site :=
  (site.parts lookup).flatMap (Part.follows lookup)

/-- Expanding a node leads on to another. -/
def Refers (lookup : Lookup) (site next : Site) : Prop :=
  next ∈ site.visits lookup ∨ next ∈ site.follows lookup

def Reaches (lookup : Lookup) : Site → Site → Prop :=
  Relation.ReflTransGen (Refers lookup)

theorem mem_parts {lookup : Lookup} {site : Site} {part : Part} :
    part ∈ site.parts lookup ↔ ∃ shape ∈ contributing, site.has shape = true ∧
      part ∈ site.partsOf lookup shape := by
  simp only [parts, List.mem_flatMap]
  constructor
  · intro hresult
    obtain ⟨shape, hshape, hpart⟩ := hresult
    split at hpart
    · exact ⟨shape, hshape, by assumption, hpart⟩
    · simp at hpart
  · intro hresult
    obtain ⟨shape, hshape, hhas, hpart⟩ := hresult
    exact ⟨shape, hshape, by simpa [hhas] using hpart⟩

/-! What a node visits lies inside of it. -/

theorem holds_of_writtenType? {property written : Site}
    (h : property.writtenType? = some written) : Holds property written := by
  obtain ⟨focus, hfocus, rfl⟩ := Option.map_eq_some_iff.1 h
  exact ⟨rfl, Focus.inside_of_annotatedType? hfocus⟩

theorem Holds.bare {outer inner : Site} (h : Holds outer inner) : Holds outer inner.bare :=
  ⟨h.1, h.2.trans_left (Focus.within_bareType inner.focus)⟩

theorem holds_of_literal? {property literal : Site} (h : property.literal? = some literal) :
    Holds property literal := by
  obtain ⟨hbare, _⟩ := Option.filter_eq_some_iff.1 h
  obtain ⟨written, hwritten, rfl⟩ := Option.map_eq_some_iff.1 hbare
  exact (holds_of_writtenType? hwritten).bare

theorem holds_of_aliasLiteral? {declaration literal : Site}
    (h : declaration.aliasLiteral? = some literal) : Holds declaration literal := by
  obtain ⟨hvalue, _⟩ := Option.filter_eq_some_iff.1 h
  obtain ⟨value, hchild, rfl⟩ := Option.map_eq_some_iff.1 hvalue
  exact ⟨rfl, (Focus.inside_of_child? hchild).trans_left (Focus.within_bareType value)⟩

theorem holds_of_mem_visits {lookup : Lookup} {site next : Site}
    (h : next ∈ site.visits lookup) : Holds site next := by
  obtain ⟨part, hpart, hnext⟩ := List.mem_flatMap.1 h
  obtain ⟨shape, _, _, hpart⟩ := mem_parts.1 hpart
  cases shape with
  | interface =>
      obtain ⟨child, hchild, rfl⟩ := List.mem_map.1 hpart
      obtain rfl := List.mem_singleton.1 hnext
      rcases List.mem_append.1 hchild with hentry | hmember
      · exact holds_of_mem_heritageEntries hentry
      · exact holds_of_mem_members hmember
  | property =>
      obtain ⟨name, _, rfl⟩ := List.mem_map.1 hpart
      exact holds_of_literal? (Option.mem_toList.1 hnext)
  | importing | heritage =>
      obtain ⟨declaration, _, rfl⟩ := List.mem_map.1 hpart
      simp [Part.visits] at hnext
  | typeLiteral =>
      obtain ⟨member, hmember, rfl⟩ := List.mem_map.1 hpart
      obtain rfl := List.mem_singleton.1 hnext
      exact holds_of_mem_members hmember
  | typeAlias =>
      obtain ⟨literal, hliteral, rfl⟩ := List.mem_map.1 hpart
      obtain rfl := List.mem_singleton.1 hnext
      exact holds_of_aliasLiteral? (Option.mem_toList.1 hliteral)
  | arrayType => simp [partsOf] at hpart

/-! What a node follows is an answer to a usage, which is the node itself. -/

theorem mem_sites_of_mem_named {lookup : Lookup} {property next : Site}
    (h : next ∈ property.named lookup) : next ∈ (lookup property).sites := by
  unfold named at h
  split at h
  · split at h
    · exact h
    · simp at h
  · simp at h

theorem mem_sites_of_mem_follows {lookup : Lookup} {site next : Site}
    (h : next ∈ site.follows lookup) : next ∈ (lookup site).sites := by
  obtain ⟨part, hpart, hnext⟩ := List.mem_flatMap.1 h
  obtain ⟨shape, _, _, hpart⟩ := mem_parts.1 hpart
  cases shape with
  | interface | typeLiteral | typeAlias =>
      obtain ⟨child, _, rfl⟩ := List.mem_map.1 hpart
      simp [Part.follows] at hnext
  | property =>
      obtain ⟨name, _, rfl⟩ := List.mem_map.1 hpart
      exact mem_sites_of_mem_named hnext
  | importing | heritage =>
      obtain ⟨declaration, hdeclaration, rfl⟩ := List.mem_map.1 hpart
      obtain rfl := List.mem_singleton.1 hnext
      exact hdeclaration
  | arrayType => simp [partsOf] at hpart

end Site

namespace Lookup

def Within (lookup : Lookup) (program : Program) : Prop :=
  ∀ usage ∈ program.sites, ∀ site ∈ (lookup usage).sites, site ∈ program.sites

/-- Every answer to a usage of the program is a declaration of the program. -/
def Declares (lookup : Lookup) (program : Program) : Prop :=
  ∀ usage ∈ program.sites, ∀ site ∈ (lookup usage).sites, site ∈ program.declarations

theorem Declares.within {lookup : Lookup} {program : Program} (h : lookup.Declares program) :
    lookup.Within program :=
  fun usage husage site hsite => (Program.mem_declarations.1 (h usage husage site hsite)).1

end Lookup

namespace Program

theorem mem_sites_of_site? {program : Program} {definition : Definition} {site : Site}
    (h : program.site? definition = some site) : site ∈ program.sites := by
  obtain ⟨file, hfile, hlocate⟩ := Option.bind_eq_some_iff.1 h
  obtain ⟨focus, hfocus, rfl⟩ := Option.map_eq_some_iff.1 hlocate
  exact mem_sites.2 ⟨mem_sources_of_find? hfile, List.mem_of_find?_eq_some hfocus⟩

theorem lookup_within (program : Program) : program.lookup.Within program := by
  intro usage _ site hsite
  unfold lookup at hsite
  split at hsite
  · simp at hsite
  · obtain ⟨definition, _, hsite⟩ := List.mem_filterMap.1 hsite
    exact mem_sites_of_site? hsite

theorem lookup_declares {program : Program}
    (h : ∀ usage ∈ program.sites, ∀ site ∈ (program.lookup usage).sites,
      site.isDeclaration = true) : program.lookup.Declares program :=
  fun usage husage site hsite =>
    mem_declarations.2 ⟨program.lookup_within usage husage site hsite, h usage husage site hsite⟩

end Program

namespace Site

theorem Refers.mem_sites {lookup : Lookup} {program : Program} {site next : Site}
    (h : Refers lookup site next) (hlookup : lookup.Within program)
    (hsite : site ∈ program.sites) : next ∈ program.sites := by
  rcases h with hvisit | hfollow
  · exact (holds_of_mem_visits hvisit).mem_sites hsite
  · exact hlookup site hsite next (mem_sites_of_mem_follows hfollow)

theorem Reaches.mem_sites {lookup : Lookup} {program : Program} {site next : Site}
    (h : Reaches lookup site next) (hlookup : lookup.Within program)
    (hsite : site ∈ program.sites) : next ∈ program.sites := by
  induction h with
  | refl => exact hsite
  | tail _ hrefers ih => exact hrefers.mem_sites hlookup ih

theorem Reaches.rank_le {lookup : Lookup} {program : Program} {rank : Site → Nat}
    (hlookup : lookup.Within program)
    (hrank : ∀ site ∈ program.sites, ∀ next ∈ site.visits lookup ++ site.follows lookup,
      rank site ≤ rank next) {site next : Site} (h : Reaches lookup site next)
    (hsite : site ∈ program.sites) : rank site ≤ rank next := by
  induction h with
  | refl => exact Nat.le_refl _
  | @tail middle next hreaches hrefers ih =>
      have hmiddle := Reaches.mem_sites hreaches hlookup hsite
      exact Nat.le_trans ih (hrank middle hmiddle next (List.mem_append.2 hrefers))

end Site

/-! How answers make up a schema. -/

section Composition

variable (lookup : Lookup) (Visit : Site → Schema → Prop) (Follow : Site → Option Schema → Prop)

/-- The children of a property from what each declaration of its type gives; none if every
declaration is cut. -/
def childrenOf (found : List (Option Schema)) : Option Schema :=
  match found.reduceOption with
  | [] => none
  | schemas => some (Table.joined schemas)

theorem eq_joined_of_childrenOf {found : List (Option Schema)} {children : Schema}
    (h : childrenOf found = some children) : children = .joined found.reduceOption := by
  unfold childrenOf at h
  split at h
  · cases h
  · exact (Option.some.inj h).symm

theorem exists_some_of_childrenOf {found : List (Option Schema)} {children : Schema}
    (h : childrenOf found = some children) : ∃ schema, some schema ∈ found := by
  unfold childrenOf at h
  cases hreduced : found.reduceOption with
  | nil => simp [hreduced] at h
  | cons schema rest =>
      have hmem : schema ∈ found.reduceOption := by simp [hreduced]
      exact ⟨schema, by simpa [List.reduceOption] using hmem⟩

inductive Described (property : Site) : Entry → Prop where
  | untyped (hwritten : property.writtenType? = none) : Described property ⟨none, none, none, none⟩
  | unresolved {written : Site} (hwritten : property.writtenType? = some written)
      (hkind : written.typeKind = .reference) (hnone : (lookup property).sites = []) :
      Described property ⟨none, none, none, some written.text⟩
  | reference {written : Site} {found : List (Option Schema)}
      (hwritten : property.writtenType? = some written) (hkind : written.typeKind = .reference)
      (hsome : (lookup property).sites ≠ [])
      (hfound : List.Forall₂ Follow (lookup property).sites found) :
      Described property ⟨some .reference, none, childrenOf found, some written.text⟩
  | literal {written : Site} {children : Schema}
      (hwritten : property.writtenType? = some written) (hkind : written.typeKind ≠ .reference)
      (hliteral : written.bare.has .typeLiteral = true) (hchildren : Visit written.bare children) :
      Described property
        ⟨some written.typeKind, written.elementKind?, some children, some written.text⟩
  | leaf {written : Site} (hwritten : property.writtenType? = some written)
      (hkind : written.typeKind ≠ .reference)
      (hliteral : written.bare.has .typeLiteral = false) :
      Described property ⟨some written.typeKind, written.elementKind?, none, some written.text⟩

def Given : Part → Option Schema → Prop
  | .visit site, found => ∃ schema, found = some schema ∧ Visit site schema
  | .follow declaration, found => Follow declaration found
  | .key property name, found =>
      ∃ entry, found = some (.single name entry) ∧ Described lookup Visit Follow property entry

def Composed (site : Site) (schema : Schema) : Prop :=
  ∃ found, List.Forall₂ (Given lookup Visit Follow) (site.parts lookup) found ∧
    schema = .joined found.reduceOption

end Composition

/-! More may be given. -/

section Imp

variable {lookup : Lookup} {Visit Visit' : Site → Schema → Prop}
variable {Follow Follow' : Site → Option Schema → Prop}

theorem forall₂_imp_of_mem {α β : Type} {Rel Rel' : α → β → Prop} {items : List α}
    {others : List β} (h : List.Forall₂ Rel items others)
    (himp : ∀ item ∈ items, ∀ other, Rel item other → Rel' item other) :
    List.Forall₂ Rel' items others := by
  induction h with
  | nil => exact .nil
  | cons hfirst _ ih =>
      exact .cons (himp _ (by simp) _ hfirst) (ih fun item hitem => himp item (by simp [hitem]))

theorem forall₂_append_left {α β : Type} {Rel : α → β → Prop} {items rest : List α}
    {others : List β} (h : List.Forall₂ Rel (items ++ rest) others) :
    ∃ first last, others = first ++ last ∧ List.Forall₂ Rel items first ∧
      List.Forall₂ Rel rest last := by
  induction items generalizing others with
  | nil => exact ⟨[], others, rfl, .nil, h⟩
  | cons item items ih =>
      obtain ⟨other, others, hitem, hrest, rfl⟩ := List.forall₂_cons_left_iff.1 h
      obtain ⟨first, last, rfl, hfirst, hlast⟩ := ih hrest
      exact ⟨other :: first, last, rfl, .cons hitem hfirst, hlast⟩

theorem forall₂_exists_right {α β : Type} {Rel : α → β → Prop} {items : List α} {others : List β}
    (h : List.Forall₂ Rel items others) {item : α} (hitem : item ∈ items) :
    ∃ other ∈ others, Rel item other := by
  induction h with
  | nil => cases hitem
  | cons hfirst _ ih =>
      rcases List.mem_cons.1 hitem with rfl | hitem
      · exact ⟨_, by simp, hfirst⟩
      · obtain ⟨other, hother, hrel⟩ := ih hitem
        exact ⟨other, by simp [hother], hrel⟩

theorem forall₂_exists_left {α β : Type} {Rel : α → β → Prop} {items : List α} {others : List β}
    (h : List.Forall₂ Rel items others) {other : β} (hother : other ∈ others) :
    ∃ item ∈ items, Rel item other :=
  forall₂_exists_right h.flip hother

theorem Described.imp {property : Site} {entry : Entry}
    (h : Described lookup Visit Follow property entry)
    (hvisit : ∀ site ∈ property.literal?.toList, ∀ schema, Visit site schema → Visit' site schema)
    (hfollow : ∀ site ∈ property.named lookup, ∀ found, Follow site found → Follow' site found) :
    Described lookup Visit' Follow' property entry := by
  cases h with
  | untyped hwritten => exact .untyped hwritten
  | unresolved hwritten hkind hnone => exact .unresolved hwritten hkind hnone
  | reference hwritten hkind hsome hfound =>
      refine .reference hwritten hkind hsome (forall₂_imp_of_mem hfound ?_)
      intro site hsite
      exact hfollow site (by simpa [Site.named, hwritten, hkind] using hsite)
  | literal hwritten hkind hliteral hchildren =>
      refine .literal hwritten hkind hliteral (hvisit _ ?_ _ hchildren)
      simp [Site.literal?, hwritten, hliteral]
  | leaf hwritten hkind hliteral => exact .leaf hwritten hkind hliteral

theorem Given.imp {part : Part} {found : Option Schema}
    (h : Given lookup Visit Follow part found)
    (hvisit : ∀ site ∈ part.visits, ∀ schema, Visit site schema → Visit' site schema)
    (hfollow : ∀ site ∈ part.follows lookup, ∀ found, Follow site found → Follow' site found) :
    Given lookup Visit' Follow' part found := by
  cases part with
  | visit site =>
      obtain ⟨schema, rfl, hschema⟩ := h
      exact ⟨schema, rfl, hvisit site (by simp [Part.visits]) schema hschema⟩
  | follow declaration => exact hfollow declaration (by simp [Part.follows]) found h
  | key property name =>
      obtain ⟨entry, rfl, hentry⟩ := h
      exact ⟨entry, rfl, hentry.imp hvisit hfollow⟩

theorem Composed.imp {site : Site} {schema : Schema}
    (h : Composed lookup Visit Follow site schema)
    (hvisit : ∀ next ∈ site.visits lookup, ∀ schema, Visit next schema → Visit' next schema)
    (hfollow : ∀ next ∈ site.follows lookup, ∀ found, Follow next found → Follow' next found) :
    Composed lookup Visit' Follow' site schema := by
  obtain ⟨found, hfound, rfl⟩ := h
  refine ⟨found, forall₂_imp_of_mem hfound ?_, rfl⟩
  intro part hpart given hgiven
  exact hgiven.imp (fun next hnext => hvisit next (List.mem_flatMap.2 ⟨part, hpart, hnext⟩))
    fun next hnext => hfollow next (List.mem_flatMap.2 ⟨part, hpart, hnext⟩)

end Imp

end Keypath
