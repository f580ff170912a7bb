import Keypath.Proofs.Schema.Grammar
import Keypath.Proofs.Schema.Induction
import Keypath.Proofs.Outline

/-!
Where the keys of a schema come from.

Every chain of keys in a schema spells the names of a chain of properties, each written in what the
type of the one before it stands for. Schemas that were put on record for one node and used for
another, declarations that were cut and keys that were written over do not change that.
-/

namespace Keypath

open Keypath.Tree

/-- A chain of keys in a schema, and the entry at its end. -/
inductive Leads : Schema → List String → Entry → Prop where
  | last {schema : Schema} {key : String} {entry : Entry} (hkey : (key, entry) ∈ schema.entries) :
      Leads schema [key] entry
  | next {schema children : Schema} {key : String} {keys : List String} {outer entry : Entry}
      (hkey : (key, outer) ∈ schema.entries) (hchildren : outer.children = some children)
      (hkeys : Leads children keys entry) : Leads schema (key :: keys) entry

theorem Leads.of_joined {schemas : List Schema} {keys : List String} {entry : Entry}
    (h : Leads (.joined schemas) keys entry) : ∃ schema ∈ schemas, Leads schema keys entry := by
  cases h with
  | last hkey =>
      obtain ⟨schema, hschema, hkey⟩ := Table.mem_joined hkey
      exact ⟨schema, hschema, .last hkey⟩
  | next hkey hchildren hkeys =>
      obtain ⟨schema, hschema, hkey⟩ := Table.mem_joined hkey
      exact ⟨schema, hschema, .next hkey hchildren hkeys⟩

/-- A chain of properties by their names, the first from `First` and each next one below the one
before it. -/
inductive Spells (Below : Site → Site → Prop) : (Site → Prop) → List String → Site → Prop where
  | last {First : Site → Prop} {property : Site} {key : String} (hfirst : First property)
      (hname : property.propertyName? = some key) : Spells Below First [key] property
  | next {First : Site → Prop} {property last : Site} {key : String} {keys : List String}
      (hfirst : First property) (hname : property.propertyName? = some key)
      (hkeys : Spells Below (Below property) keys last) : Spells Below First (key :: keys) last

theorem Spells.mono {Below : Site → Site → Prop} {First First' : Site → Prop}
    {keys : List String} {property : Site} (h : Spells Below First keys property)
    (hfirst : ∀ property, First property → First' property) :
    Spells Below First' keys property := by
  cases h with
  | last hmem hname => exact .last (hfirst _ hmem) hname
  | next hmem hname hkeys => exact .next (hfirst _ hmem) hname hkeys

theorem Spells.imp (Mine : Site → Prop) {Below Below' : Site → Site → Prop}
    {First First' : Site → Prop} {keys : List String} {property : Site}
    (h : Spells Below First keys property)
    (hfirst : ∀ property, First property → Mine property ∧ First' property)
    (hbelow : ∀ property next, Mine property → Below property next →
      Mine next ∧ Below' property next) :
    Spells Below' First' keys property ∧ Mine property := by
  induction h generalizing First' with
  | last hmem hname => exact ⟨.last (hfirst _ hmem).2 hname, (hfirst _ hmem).1⟩
  | next hmem hname _ ih =>
      obtain ⟨hmine, hmem⟩ := hfirst _ hmem
      obtain ⟨hkeys, hlast⟩ := ih fun next hnext => hbelow _ next hmine hnext
      exact ⟨.next hmem hname hkeys, hlast⟩

section Traced

variable {lookup : Lookup} {Fits : Site → Entry → Prop}

def Site.Unfolds (lookup : Lookup) (property next : Site) : Prop :=
  next ∈ property.literal?.toList ∨ next ∈ property.named lookup

/-- Every chain of keys spells properties that the node offers, and the entry at its end fits the
last of them. -/
def Traced (lookup : Lookup) (Fits : Site → Entry → Prop) (site : Site) (schema : Schema) : Prop :=
  ∀ keys entry, Leads schema keys entry → ∃ property,
    Spells (Relation.Comp (Site.Unfolds lookup) (Site.Offers lookup)) (Site.Offers lookup site) keys
      property ∧ Fits property entry

theorem Site.Unfolds.mem_sites {program : Program} {property next : Site}
    (h : Site.Unfolds lookup property next) (hlookup : lookup.Within program)
    (hproperty : property ∈ program.sites) : next ∈ program.sites := by
  rcases h with h | h
  · exact (Site.holds_of_literal? (Option.mem_toList.1 h)).mem_sites hproperty
  · exact hlookup property hproperty next (Site.mem_sites_of_mem_named h)

theorem Traced.of_passes {site next : Site} {schema : Schema} (h : Traced lookup Fits next schema)
    (hpasses : Site.Passes lookup site next) : Traced lookup Fits site schema := by
  intro keys entry hkeys
  obtain ⟨property, hspells, hfits⟩ := h keys entry hkeys
  exact ⟨property, hspells.mono fun first hfirst => hfirst.head hpasses, hfits⟩

theorem Described.detail_eq {Visit : Site → Schema → Prop}
    {Follow : Site → Option Schema → Prop} {property : Site} {entry : Entry}
    (h : Described lookup Visit Follow property entry) :
    entry.detail = property.writtenType?.map Site.text := by
  cases h <;> simp [*]

theorem Described.traced_children {Visit : Site → Schema → Prop}
    {Follow : Site → Option Schema → Prop} {property : Site} {entry : Entry} {children : Schema}
    (h : Described lookup Visit Follow property entry) (hchildren : entry.children = some children)
    (hvisit : ∀ next schema, Visit next schema → Traced lookup Fits next schema)
    (hfollow : ∀ next schema, Follow next (some schema) → Traced lookup Fits next schema)
    {keys : List String} {last : Entry} (hkeys : Leads children keys last) :
    ∃ next schema, Site.Unfolds lookup property next ∧ Traced lookup Fits next schema ∧
      Leads schema keys last := by
  cases h with
  | untyped | unresolved | leaf => cases hchildren
  | literal hwritten _ hliteral hvisited =>
      obtain rfl := Option.some.inj hchildren
      refine ⟨_, _, .inl ?_, hvisit _ _ hvisited, hkeys⟩
      simp [Site.literal?, hwritten, hliteral]
  | @reference written found hwritten hkind _ hfound =>
      obtain rfl := eq_joined_of_childrenOf hchildren
      obtain ⟨schema, hschema, hkeys⟩ := hkeys.of_joined
      have hmem : some schema ∈ found := by simpa [List.reduceOption] using hschema
      obtain ⟨declaration, hdeclaration, hgiven⟩ := forall₂_exists_left hfound hmem
      refine ⟨declaration, schema, .inr ?_, hfollow _ _ hgiven, hkeys⟩
      simpa [Site.named, hwritten, hkind] using hdeclaration

theorem Composed.traced {Visit : Site → Schema → Prop} {Follow : Site → Option Schema → Prop}
    {site : Site} {schema : Schema} (h : Composed lookup Visit Follow site schema)
    (hvisit : ∀ next schema, Visit next schema → Traced lookup Fits next schema)
    (hfollow : ∀ next schema, Follow next (some schema) → Traced lookup Fits next schema)
    (hfits : ∀ entry, Described lookup Visit Follow site entry → Fits site entry) :
    Traced lookup Fits site schema := by
  obtain ⟨found, hfound, rfl⟩ := h
  intro keys entry hkeys
  obtain ⟨schema, hschema, hkeys⟩ := hkeys.of_joined
  have hmem : some schema ∈ found := by simpa [List.reduceOption] using hschema
  obtain ⟨part, hpart, hgiven⟩ := forall₂_exists_left hfound hmem
  cases part with
  | visit next =>
      obtain ⟨_, heq, hnext⟩ := hgiven
      obtain rfl := Option.some.inj heq
      exact (hvisit next schema hnext).of_passes (.inl hpart) keys entry hkeys
  | follow declaration =>
      exact (hfollow declaration schema hgiven).of_passes (.inr hpart) keys entry hkeys
  | key property name =>
      obtain ⟨rfl, hproperty, hname⟩ := Site.of_key_mem_parts hpart
      obtain ⟨own, heq, hown⟩ := hgiven
      obtain rfl := Option.some.inj heq
      have hself : Site.Offers lookup property property := ⟨.refl, hproperty⟩
      cases hkeys with
      | last hkey =>
          obtain ⟨rfl, rfl⟩ := Prod.mk.inj (List.mem_singleton.1 hkey)
          exact ⟨property, .last hself hname, hfits _ hown⟩
      | next hkey hchildren hrest =>
          obtain ⟨rfl, rfl⟩ := Prod.mk.inj (List.mem_singleton.1 hkey)
          obtain ⟨next, schema, hunfolds, htraced, hrest⟩ :=
            hown.traced_children hchildren hvisit hfollow hrest
          obtain ⟨last, hspells, hlast⟩ := htraced _ _ hrest
          refine ⟨last, .next hself hname (hspells.mono ?_), hlast⟩
          exact fun other hother => ⟨next, hunfolds, hother⟩

end Traced

/-- The property is written in what the type of another stands for. -/
def Below (lookup : Lookup) (property next : Site) : Prop :=
  (∃ literal, property.literal? = some literal ∧ next ∈ literal.members ∧
    next.has .property = true) ∨
  ∃ declaration ∈ (lookup property).sites, Belongs lookup declaration next

section Belongs

variable {program : Program} {lookup : Lookup}

theorem below_of_unfolds (hgrammar : program.Grammatical) (hlookup : lookup.Declares program)
    {property middle next : Site} (hproperty : property ∈ program.sites)
    (hunfolds : Site.Unfolds lookup property middle) (hoffers : Site.Offers lookup middle next) :
    Below lookup property next := by
  have hmiddle := hunfolds.mem_sites hlookup.within hproperty
  have hsource := source_of_offers hgrammar hlookup hmiddle hoffers
  rcases hunfolds with hliteral | hnamed
  · have hliteral := Option.mem_toList.1 hliteral
    exact .inl ⟨middle, hliteral, hsource.literal (Option.filter_eq_some_iff.1 hliteral).2,
      hoffers.2⟩
  · have hsites := Site.mem_sites_of_mem_named hnamed
    have hdeclaration := hlookup property hproperty middle hsites
    exact .inr ⟨middle, hsites, hsource.declaration (Program.mem_declarations.1 hdeclaration).2⟩

theorem Traced.belongs {Fits : Site → Entry → Prop} {root : Site} {schema : Schema}
    (h : Traced lookup Fits root schema) (hgrammar : program.Grammatical)
    (hlookup : lookup.Declares program) (hroot : root ∈ program.declarations)
    {keys : List String} {entry : Entry} (hkeys : Leads schema keys entry) :
    ∃ property, Spells (Below lookup) (Belongs lookup root) keys property ∧
      Fits property entry := by
  obtain ⟨hroot, hdeclaration⟩ := Program.mem_declarations.1 hroot
  obtain ⟨property, hspells, hfits⟩ := h keys entry hkeys
  refine ⟨property, And.left (hspells.imp (· ∈ program.sites) ?_ ?_), hfits⟩
  · intro first hfirst
    have hsource := source_of_offers hgrammar hlookup hroot hfirst
    exact ⟨hfirst.mem_sites hlookup.within hroot, hsource.declaration hdeclaration⟩
  · intro property next hproperty hresult
    obtain ⟨middle, hunfolds, hoffers⟩ := hresult
    have hmiddle := hunfolds.mem_sites hlookup.within hproperty
    exact ⟨hoffers.mem_sites hlookup.within hmiddle,
      below_of_unfolds hgrammar hlookup hproperty hunfolds hoffers⟩

end Belongs

namespace Expand

theorem inductive_traced (program : Program) (lookup : Lookup) :
    InductiveAnywhere program lookup (Traced lookup fun property entry =>
      entry.detail = property.writtenType?.map Site.text) := by
  intro outer site _ _ schema hcomposed
  refine hcomposed.traced (fun _ _ h => h) ?_ fun _ h => h.detail_eq
  intro _ _ hresult
  obtain ⟨⟨_, _, htraced⟩, _⟩ := hresult
  exact htraced

/-- Every chain of keys in the schema of a declaration spells properties, the first written in the
declaration or in one it extends, each next one in what the type of the one before it stands for.
The detail of the entry at its end is the type of the last one as written. -/
theorem node_keys_belong {program : Program} {lookup : Lookup} {root : Site}
    (hprogram : program.Built) (hgrammar : program.Grammatical)
    (hlookup : lookup.Declares program) (hroot : root ∈ program.declarations) :
    ∃ schema after, node lookup program.budget root .start = some (schema, after) ∧
      ∀ keys entry, Leads schema keys entry → ∃ property,
        Spells (Below lookup) (Belongs lookup root) keys property ∧
        entry.detail = property.writtenType?.map Site.text := by
  have hsite := (Program.mem_declarations.1 hroot).1
  obtain ⟨schema, after, hnode⟩ := exists_node hlookup hsite .start
  obtain ⟨htraced, _⟩ := LeftBy.start.good hprogram hlookup.within
    (inductive_traced program lookup) hsite hnode
  exact ⟨schema, after, hnode, fun keys entry hkeys =>
    htraced.belongs hgrammar hlookup hroot hkeys⟩

/-- `A` and `B` have keys of each other's types, and `B` has an inherited key. -/
def provenanceSample : List Outline :=
  [⟨'A', none, [⟨'b', some 'B'⟩]⟩, ⟨'B', some 'C', [⟨'a', some 'A'⟩]⟩, ⟨'C', none, [⟨'s', none⟩]⟩]

set_option maxRecDepth 10000 in
theorem node_keys_belong_sample :
    let program := Outline.program provenanceSample
    let root := Outline.site provenanceSample ⟨0, by decide +kernel⟩
    program.Built ∧ program.Grammatical ∧ program.lookup.Declares program ∧
    root ∈ program.declarations ∧
    ∃ schema after, node program.lookup program.budget root .start = some (schema, after) ∧
      ∀ keys entry, Leads schema keys entry → ∃ property,
        Spells (Below program.lookup) (Belongs program.lookup root) keys property ∧
        entry.detail = property.writtenType?.map Site.text := by
  intro program root
  have hprogram : program.Built := Outline.built_program _
  have hgrammar : program.Grammatical := ⟨by decide +kernel, by decide +kernel⟩
  have hlookup : program.lookup.Declares program := Program.lookup_declares (by decide +kernel)
  have hroot : root ∈ program.declarations := Outline.site_mem_declarations _ _
  exact ⟨hprogram, hgrammar, hlookup, hroot, node_keys_belong hprogram hgrammar hlookup hroot⟩

end Expand

end Keypath
