import Mathlib.Logic.Function.Basic
import Keypath.Proofs.Schema.Cycles
import Keypath.Proofs.Schema.Inheritance
import Keypath.Proofs.Schema.Meaning
import Keypath.Proofs.Schema.Precedence
import Keypath.Proofs.Schema.Record

/-!
Schemas that are put together from what declarations give.

With a schema given for every declaration, or none where it is cut, the subtree of a node determines
its schema. It depends on nothing that is given for declarations the node does not name. And an
interface that extends itself gets nothing new from its own schema.
-/

namespace Keypath

open Keypath.Tree

section Assembled

variable {lookup : Lookup} {given given' : NodeId → Option Schema}

/-- A relation that holds of every schema composed from schemas it holds of and from what is given
for the declarations that are followed. -/
def AssemblyClosed (lookup : Lookup) (given : NodeId → Option Schema)
    (Tree : Site → Schema → Prop) : Prop :=
  ∀ site schema,
    Composed lookup Tree (fun declaration found => found = given declaration.id) site schema →
    Tree site schema

/-- The schema of a node, put together from its subtree and from what is given for declarations:
the least relation of its kind. -/
def Assembled (lookup : Lookup) (given : NodeId → Option Schema) (site : Site) (schema : Schema) :
    Prop :=
  ∀ Tree, AssemblyClosed lookup given Tree → Tree site schema

theorem assemblyClosed_assembled (lookup : Lookup) (given : NodeId → Option Schema) :
    AssemblyClosed lookup given (Assembled lookup given) := by
  intro site schema hcomposed Tree hclosed
  exact hclosed site schema (hcomposed.imp (fun _ _ _ h => h Tree hclosed) fun _ _ _ h => h)

theorem Assembled.composed {site : Site} {schema : Schema}
    (h : Assembled lookup given site schema) :
    Composed lookup (Assembled lookup given)
      (fun declaration found => found = given declaration.id) site schema := by
  refine h _ fun site schema hcomposed => ?_
  exact hcomposed.imp (fun _ _ _ h => assemblyClosed_assembled lookup given _ _ h) fun _ _ _ h => h

theorem Assembled.unique {site : Site} {schema schema' : Schema}
    (h : Assembled lookup given site schema) (h' : Assembled lookup given site schema') :
    schema = schema' := by
  refine h (fun site schema => ∀ schema', Assembled lookup given site schema' → schema = schema')
    ?_ schema' h'
  intro site schema hcomposed schema' h'
  exact hcomposed.unique h'.composed (fun _ _ _ _ heq hother => heq _ hother)
    fun _ _ _ _ hfound hfound' => hfound.trans hfound'.symm

theorem Assembled.congr {site : Site} {schema : Schema} (h : Assembled lookup given site schema)
    (heq : ∀ other, Site.PointsTo lookup site other → given other.id = given' other.id) :
    Assembled lookup given' site schema := by
  refine h (fun next schema => Site.Visits lookup site next → Assembled lookup given' next schema)
    ?_ .refl
  intro next schema hcomposed hvisits
  refine assemblyClosed_assembled lookup given' next schema (hcomposed.imp ?_ ?_)
  · exact fun inner hinner _ h => h (hvisits.tail hinner)
  · rintro declaration hfollow _ rfl
    exact heq declaration ⟨next, hvisits, hfollow⟩

end Assembled

/-! An interface joins the schemas of its base types and of its members. -/

section Interface

variable {lookup : Lookup} {given : NodeId → Option Schema} {site : Site}

theorem reduceOption_map_some (schemas : List Schema) :
    (schemas.map some).reduceOption = schemas := by
  simp [List.reduceOption]

theorem composed_visits_iff {Visit : Site → Schema → Prop} {Follow : Site → Option Schema → Prop}
    {sites : List Site} (hparts : site.parts lookup = sites.map .visit) {schema : Schema} :
    Composed lookup Visit Follow site schema ↔
      ∃ schemas, List.Forall₂ Visit sites schemas ∧ schema = .joined schemas := by
  unfold Composed
  rw [hparts]
  constructor
  · rintro ⟨found, hfound, rfl⟩
    rw [List.forall₂_map_left_iff] at hfound
    obtain ⟨schemas, hschemas, rfl⟩ :
        ∃ schemas, List.Forall₂ Visit sites schemas ∧ found = schemas.map some := by
      clear hparts
      induction hfound with
      | nil => exact ⟨[], .nil, rfl⟩
      | cons hfirst _ ih =>
          obtain ⟨schema, rfl, hvisit⟩ := hfirst
          obtain ⟨schemas, hschemas, rfl⟩ := ih
          exact ⟨schema :: schemas, .cons hvisit hschemas, rfl⟩
    exact ⟨schemas, hschemas, by rw [reduceOption_map_some]⟩
  · rintro ⟨schemas, hschemas, rfl⟩
    refine ⟨schemas.map some, ?_, by rw [reduceOption_map_some]⟩
    rw [List.forall₂_map_left_iff, List.forall₂_map_right_iff]
    exact hschemas.imp fun _ schema hvisit => ⟨schema, rfl, hvisit⟩

theorem assembled_entry_iff (honly : site.Only .heritage) (hheritage : site.has .heritage = true)
    {schema : Schema} :
    Assembled lookup given site schema ↔
      schema = .joined ((lookup site).sites.filterMap fun base => given base.id) := by
  have hparts : site.parts lookup = (lookup site).sites.map .follow := by
    rw [Site.parts, honly.flatMap_eq (by simp [Site.contributing]), if_pos hheritage]
    rfl
  have hreduce : ((lookup site).sites.map fun base => given base.id).reduceOption =
      (lookup site).sites.filterMap fun base => given base.id := by
    rw [List.reduceOption, List.filterMap_map]
    rfl
  constructor
  · intro h
    obtain ⟨found, hfound, rfl⟩ := h.composed
    rw [hparts, List.forall₂_map_left_iff] at hfound
    rw [eq_map_of_forall₂ hfound, hreduce]
  · rintro rfl
    refine assemblyClosed_assembled lookup given site _ ⟨_, ?_, by rw [hreduce]⟩
    rw [hparts, List.forall₂_map_left_iff, List.forall₂_map_right_iff]
    exact List.forall₂_same.2 fun _ _ => rfl

theorem assembled_interface_iff {program : Program} (hgrammar : program.Grammatical)
    (hsite : site ∈ program.sites) (hinterface : site.has .interface = true) {schema : Schema} :
    Assembled lookup given site schema ↔
      ∃ own, List.Forall₂ (Assembled lookup given) site.members own ∧
        schema = .joined ((site.bases lookup).filterMap (fun base => given base.id) ++ own) := by
  have honly : site.Only .interface :=
    hgrammar.only hsite (by simp [Site.contributing]) hinterface (by simp)
  have hparts : site.parts lookup = (site.heritageEntries ++ site.members).map .visit := by
    rw [Site.parts, honly.flatMap_eq (by simp [Site.contributing]), if_pos hinterface]
    rfl
  let inherited (entry : Site) : List Schema :=
    (lookup entry).sites.filterMap fun base => given base.id
  have hentry : ∀ entry ∈ site.heritageEntries, ∀ schema,
      Assembled lookup given entry schema ↔ schema = .joined (inherited entry) := by
    intro entry hmem schema
    have hheritage := Site.isHeritageEntry_of_mem_heritageEntries hmem
    have hinside := (Site.holds_of_mem_heritageEntries hmem).mem_sites hsite
    exact assembled_entry_iff (hgrammar.entry entry hinside hheritage)
      (by simp [Site.has, hheritage])
  have hjoined (own : List Schema) :
      Table.joined (site.heritageEntries.map (fun entry => .joined (inherited entry)) ++ own) =
        .joined ((site.bases lookup).filterMap (fun base => given base.id) ++ own) := by
    rw [Site.bases, List.filterMap_flatMap, List.flatMap_def, ← Table.joined_groups, List.map_map]
    rfl
  constructor
  · intro h
    obtain ⟨schemas, hschemas, rfl⟩ := (composed_visits_iff hparts).1 h.composed
    obtain ⟨bases, own, rfl, hbases, hown⟩ := forall₂_append_left hschemas
    refine ⟨own, hown, ?_⟩
    have hinherited := eq_map_of_forall₂ (forall₂_imp_of_mem hbases fun entry hmem schema hschema =>
      (hentry entry hmem schema).1 hschema)
    rw [← hjoined, ← hinherited]
  · rintro ⟨own, hown, rfl⟩
    rw [← hjoined]
    refine assemblyClosed_assembled lookup given site _ ((composed_visits_iff hparts).2
      ⟨_, List.rel_append ?_ hown, rfl⟩)
    rw [List.forall₂_map_right_iff]
    exact List.forall₂_same.2 fun entry hmem => (hentry entry hmem _).2 rfl

end Interface

/-! An interface that extends itself. -/

/-- A property that is written in the declaration is of its type. -/
def NamesItself (lookup : Lookup) (declaration : Site) : Prop :=
  ∃ property, declaration.WritesWithin property ∧ property.propertyName?.isSome = true ∧
    declaration ∈ property.named lookup

section Own

variable {program : Program} {lookup : Lookup} {declaration : Site}

theorem isHeritageEntry_of_visits (hgrammar : program.Grammatical)
    (hlookup : lookup.Within program) {member usage : Site} (hmem : member ∈ program.sites)
    (honly : member.Only .property) (h : Site.Visits lookup member usage) :
    usage.focus.isHeritageEntry = false := by
  rcases Relation.ReflTransGen.cases_tail h with rfl | ⟨previous, hprevious, hstep⟩
  · exact honly.not_entry.1
  have hsite := (Site.Visits.reaches hprevious).mem_sites hlookup hmem
  have hplain : previous.isDeclaration = false := by
    rcases Relation.ReflTransGen.cases_tail hprevious with rfl | ⟨outer, houter, hvisit⟩
    · exact honly.isDeclaration_eq_false (by simp) (by simp)
    · have hsite' := (Site.Visits.reaches houter).mem_sites hlookup hmem
      exact hgrammar.isDeclaration_of_mem_visits hsite' hvisit
  have hinterface : previous.has .interface = false := by
    by_contra hhas
    rw [Site.isDeclaration_iff.2 (.inl (by simpa using hhas))] at hplain
    cases hplain
  have hliteral : usage.has .typeLiteral = true → usage.focus.isHeritageEntry = false := by
    intro hhas
    by_contra hentry
    have hmem' := h.reaches.mem_sites hlookup hmem
    cases hgrammar.entry usage hmem' (by simpa using hentry) .typeLiteral
      (by simp [Site.contributing]) hhas
  cases Site.visitedBy_of_mem_visits hstep with
  | entry hhas | member hhas =>
      rw [hinterface] at hhas
      cases hhas
  | nested hhas hmember =>
      exact (hgrammar.member previous hsite (.inr hhas) usage hmember).not_entry.1
  | written _ hwritten => exact hliteral (Option.filter_eq_some_iff.1 hwritten).2
  | aliased _ hvalue => exact hliteral (Option.filter_eq_some_iff.1 hvalue).2

theorem not_pointsTo_of_member (hgrammar : program.Grammatical) (hlookup : lookup.Within program)
    (hmem : declaration ∈ program.declarations)
    (hown : ¬NamesItself lookup declaration) (hinterface : declaration.has .interface = true)
    {member : Site} (hmember : member ∈ declaration.members) :
    ¬Site.PointsTo lookup member declaration := by
  rintro ⟨usage, hvisits, hfollow⟩
  obtain ⟨hsite, hdeclaration⟩ := Program.mem_declarations.1 hmem
  have hinside := (Site.holds_of_mem_members hmember).mem_sites hsite
  have honly := hgrammar.member declaration hsite (.inl hinterface) member hmember
  have hvisit : member ∈ declaration.visits lookup :=
    Site.mem_visits_of_partsOf (.visit member) (by simp [Site.contributing]) hinterface
      (by simp [Site.partsOf, hmember]) (by simp [Part.visits])
  obtain ⟨husage, hvisited⟩ := Site.visitedAs_of_visits hgrammar hmem (.head hvisit hvisits)
  rcases hvisited.names hgrammar hdeclaration husage hfollow with
    ⟨_, hentry, _⟩ | ⟨hwrites, hname, hnamed⟩
  · have hplain := isHeritageEntry_of_visits hgrammar hlookup hinside honly hvisits
    rw [Site.isHeritageEntry_of_mem_heritageEntries hentry] at hplain
    cases hplain
  · exact hown ⟨usage, hwrites, hname, hnamed⟩

theorem Assembled.update_of_not_pointsTo (hprogram : program.Built)
    (hlookup : lookup.Within program) {site : Site} (hsite : site ∈ program.sites)
    (hdeclaration : declaration ∈ program.sites)
    (hnot : ¬Site.PointsTo lookup site declaration) {others : NodeId → Option Schema}
    (latest : Option Schema) {schema : Schema} (h : Assembled lookup others site schema) :
    Assembled lookup (Function.update others declaration.id latest) site schema := by
  refine h.congr fun other hpoints => (Function.update_of_ne (fun hid => hnot ?_) _ _).symm
  rwa [← hprogram.eq_of_id_eq (hpoints.mem_sites hlookup hsite) hdeclaration hid]

theorem Assembled.update_self (hprogram : program.Built) (hgrammar : program.Grammatical)
    (hlookup : lookup.Within program) (hmem : declaration ∈ program.declarations)
    (hown : ¬NamesItself lookup declaration) {others : NodeId → Option Schema}
    (hnone : others declaration.id = none) {schema : Schema}
    (h : Assembled lookup others declaration schema) :
    Assembled lookup (Function.update others declaration.id (some schema)) declaration schema := by
  obtain ⟨hsite, hdeclaration⟩ := Program.mem_declarations.1 hmem
  rcases Site.isDeclaration_iff.1 hdeclaration with hinterface | halias
  · obtain ⟨own, hschemas, hschema⟩ := (assembled_interface_iff hgrammar hsite hinterface).1 h
    refine (assembled_interface_iff hgrammar hsite hinterface).2
      ⟨own, forall₂_imp_of_mem hschemas fun member hmember _ hmember' => ?_, Eq.symm ?_⟩
    · have hnot := not_pointsTo_of_member hgrammar hlookup hmem hown hinterface hmember
      have hinside := (Site.holds_of_mem_members hmember).mem_sites hsite
      exact hmember'.update_of_not_pointsTo hprogram hlookup hinside hsite hnot _
    · refine Table.joined_filterMap_absorbs (fun base _ => ?_) [] hschema.symm
      by_cases hid : base.id = declaration.id
      · exact .inr ⟨hid ▸ hnone, hid ▸ Function.update_self _ _ _⟩
      · exact .inl (Function.update_of_ne hid _ _)
  · refine h.update_of_not_pointsTo hprogram hlookup hsite hsite (fun hpoints => ?_) _
    rcases (Site.pointsTo_iff hgrammar hmem).1 hpoints with
      ⟨hinterface, _⟩ | ⟨property, hwrites, hname, hnamed⟩
    · have hkind : declaration.kind = .typeAliasDeclaration := by simpa [Site.has] using halias
      simp [Site.has, hkind] at hinterface
    · exact hown ⟨property, hwrites, hname, hnamed⟩

end Own

/-! A key of the type that has the key. -/

/-- The last member with the key names the interface and nothing else. -/
def Nests (lookup : Lookup) (declaration : Site) (name : String) : Prop :=
  declaration.has .interface = true ∧ ∃ earlier signature later,
    declaration.members = earlier ++ signature :: later ∧ signature.ownName? = some name ∧
    (∀ other ∈ later, other.ownName? ≠ some name) ∧ signature.named lookup = [declaration]

section Nested

variable {program : Program} {lookup : Lookup} {given : NodeId → Option Schema}
variable {declaration : Site} {schema : Schema}

theorem children_of_described {signature : Site} {entry : Entry} {Visit : Site → Schema → Prop}
    {Follow : Site → Option Schema → Prop} (h : Described lookup Visit Follow signature entry)
    (hnamed : signature.named lookup = [declaration]) :
    ∃ found, Follow declaration found ∧ entry.children = childrenOf [found] := by
  unfold Site.named at hnamed
  cases h with
  | untyped hwritten => simp [hwritten] at hnamed
  | unresolved hwritten hkind hnone => simp [hwritten, hkind, hnone] at hnamed
  | reference hwritten hkind _ hfound =>
      rw [hwritten] at hnamed
      simp only [hkind, if_true] at hnamed
      rw [hnamed] at hfound
      obtain ⟨found, rest, hfollow, hrest, rfl⟩ := List.forall₂_cons_left_iff.1 hfound
      cases hrest
      exact ⟨found, hfollow, rfl⟩
  | literal hwritten hkind | leaf hwritten hkind => simp [hwritten, hkind] at hnamed

theorem Assembled.childrenOf_eq (h : Assembled lookup given declaration schema) :
    childrenOf [some schema] = some schema := by
  obtain ⟨found, _, rfl⟩ := h.composed
  exact congrArg some (Table.empty_merge (Table.nodup_keys_joined _))

theorem Nests.children {name : String} (h : Nests lookup declaration name)
    (hgrammar : program.Grammatical) (hsite : declaration ∈ program.sites)
    (hassembled : Assembled lookup given declaration schema) :
    (schema.get? name).bind Entry.children = childrenOf [given declaration.id] := by
  obtain ⟨hinterface, earlier, signature, later, hsplit, hname, hlast, hnamed⟩ := h
  obtain ⟨own, hown, rfl⟩ := (assembled_interface_iff hgrammar hsite hinterface).1 hassembled
  have hmembers := hgrammar.member declaration hsite (.inl hinterface)
  rw [hsplit] at hown hmembers
  obtain ⟨schemas, rest, rfl, _, hrest⟩ := forall₂_append_left hown
  obtain ⟨schema, following, hsignature, hfollowing, rfl⟩ := List.forall₂_cons_left_iff.1 hrest
  rcases composed_member (hmembers signature (by simp)) hsignature.composed with
    ⟨hnone, _⟩ | ⟨key, entry, hkey, rfl, hentry⟩
  · rw [hnone] at hname
    cases hname
  obtain rfl := Option.some.inj (hkey.symm.trans hname)
  obtain ⟨_, rfl, hchildren⟩ := children_of_described hentry hnamed
  have hget := get?_of_last (fun other hother => hmembers other (by simp [hother])) hlast
    (hfollowing.imp fun _ _ hother => hother.composed)
  rw [Table.joined, ← List.append_assoc, List.foldl_append, hget]
  exact hchildren

end Nested

end Keypath
