import Keypath.Proofs.Schema.Provenance
import Keypath.Proofs.Schema.Visitors

/-!
Which of several contributions to a key counts, and where the key stands.

The schema of an interface is merged from the schemas of its base types and then of its members,
each expanded from the progress that the one before it left. A key stands where it came first and
has the entry that came last, so what an interface writes itself counts whatever its bases
contribute.
-/

namespace Keypath

open Keypath.Tree

namespace Site

/-- The key that a member of an interface stands for; none for what is no property, and for a
computed key. -/
def ownName? (member : Site) : Option String :=
  if member.has .property then member.propertyName? else none

def ownNames (site : Site) : List String := site.members.filterMap ownName?

theorem only_interface {site : Site} (hinterface : site.has .interface = true)
    (hentry : site.focus.isHeritageEntry = false) : site.Only .interface := by
  have hkind : site.kind = .interfaceDeclaration := by simpa [has] using hinterface
  intro other hshape hother
  cases other <;> simp_all [has, contributing, Focus.isHeritageClause]

end Site

section Members

variable {lookup : Lookup} {Visit : Site → Schema → Prop} {Follow : Site → Option Schema → Prop}

theorem composed_member {member : Site} (honly : member.Only .property) {schema : Schema}
    (h : Composed lookup Visit Follow member schema) :
    (member.ownName? = none ∧ schema = ∅) ∨
    ∃ name entry, member.ownName? = some name ∧ schema = .single name entry ∧
      Described lookup Visit Follow member entry := by
  obtain ⟨found, hfound, rfl⟩ := h
  rw [Site.parts, honly.flatMap_eq (by simp [Site.contributing])] at hfound
  unfold Site.ownName?
  by_cases hproperty : member.has .property = true
  · rw [if_pos hproperty, Site.partsOf] at hfound
    rw [if_pos hproperty]
    cases hname : member.propertyName? with
    | none =>
        rw [hname] at hfound
        cases hfound
        exact .inl ⟨rfl, rfl⟩
    | some name =>
        rw [hname] at hfound
        obtain ⟨given, rest, hgiven, hrest, rfl⟩ := List.forall₂_cons_left_iff.1 hfound
        cases hrest
        obtain ⟨entry, rfl, hentry⟩ := hgiven
        exact .inr ⟨name, entry, rfl, rfl, hentry⟩
  · rw [if_neg hproperty] at hfound
    rw [if_neg hproperty]
    cases hfound
    exact .inl ⟨rfl, rfl⟩

theorem keys_of_members {members : List Site} (hmembers : ∀ member ∈ members, member.Only .property)
    {schemas : List Schema} (h : List.Forall₂ (Composed lookup Visit Follow) members schemas) :
    schemas.flatMap Table.keys = members.filterMap Site.ownName? := by
  induction h with
  | nil => rfl
  | @cons member schema rest later hmember _ ih =>
      obtain ⟨honly, hothers⟩ := List.forall_mem_cons.1 hmembers
      rw [List.flatMap_cons, ih hothers]
      rcases composed_member honly hmember with ⟨hname, rfl⟩ | ⟨name, entry, hname, rfl, _⟩
      · rw [List.filterMap_cons_none hname]
        rfl
      · rw [List.filterMap_cons_some hname]
        rfl

theorem get?_of_last {later : List Site} (hmembers : ∀ member ∈ later, member.Only .property)
    {name : String} (hlast : ∀ other ∈ later, other.ownName? ≠ some name)
    {following : List Schema}
    (h : List.Forall₂ (Composed lookup Visit Follow) later following) (table : Schema)
    (entry : Entry) :
    ((Table.single name entry :: following).foldl Table.merge table).get? name = some entry := by
  have hfree : ∀ other ∈ following, name ∉ other.keys := by
    intro other hother hmem
    have hkeys : name ∈ following.flatMap Table.keys := List.mem_flatMap.2 ⟨other, hother, hmem⟩
    rw [keys_of_members hmembers h] at hkeys
    obtain ⟨member, hmember, hown⟩ := List.mem_filterMap.1 hkeys
    exact hlast member hmember hown
  rw [List.foldl_cons, Table.get?_foldl_merge_of_notMem hfree]
  exact (Table.get?_insert _ _ _ _).trans (if_pos rfl)

end Members

namespace Expand

theorem mergeAllWith_eq_mapM (recurse : Site → Expand Schema) (sites : List Site)
    (schema : Schema) :
    mergeAllWith recurse sites schema =
      sites.mapM recurse >>= fun schemas => pure (schemas.foldl Table.merge schema) := by
  unfold mergeAllWith
  induction sites generalizing schema with
  | nil => simp
  | cons site rest ih =>
      simp only [List.foldlM_cons, List.mapM_cons, bind_assoc, pure_bind, ih, List.foldl_cons]

section Interface

variable {lookup : Lookup} {recurse : Site → Expand Schema} {site : Site}

theorem bodyWith_interface (hinterface : site.has .interface = true)
    (honly : site.Only .interface) :
    bodyWith lookup recurse site = mergeInterfaceWith recurse site ∅ := by
  have hother (shape : Shape) (hshape : shape ∈ Site.contributing) (hne : shape ≠ .interface) :
      site.has shape = false := by
    by_contra hhas
    exact hne (honly shape hshape (by simpa using hhas))
  have hproperty := hother .property (by decide) (by decide)
  have himporting := hother .importing (by decide) (by decide)
  have hheritage := hother .heritage (by decide) (by decide)
  have hliteral := hother .typeLiteral (by decide) (by decide)
  have halias := hother .typeAlias (by decide) (by decide)
  simp [bodyWith, contributionsWith, hinterface, hproperty, himporting, hheritage, hliteral, halias]

theorem nodeWith_interface (hinterface : site.has .interface = true)
    (honly : site.Only .interface) {before after : Progress} {schema : Schema}
    (h : nodeWith lookup recurse site before = some (schema, after)) :
    ∃ inherited middle own done,
      site.heritageEntries.mapM recurse (before.opened site) = some (inherited, middle) ∧
      site.members.mapM recurse middle = some (own, done) ∧
      schema = .joined (inherited ++ own) := by
  rw [nodeWith_apply, bodyWith_interface hinterface honly] at h
  obtain ⟨⟨merged, done⟩, hbody, heq⟩ := Option.bind_eq_some_iff.1 h
  obtain ⟨rfl, rfl⟩ := Prod.mk.inj (Option.some.inj heq)
  simp only [mergeInterfaceWith, mergeAllWith_eq_mapM, bind_assoc, pure_bind] at hbody
  obtain ⟨inherited, middle, hentries, hrest⟩ := bind_eq_some.1 hbody
  obtain ⟨own, last, hmembers, hpure⟩ := bind_eq_some.1 hrest
  obtain ⟨rfl, rfl⟩ := Prod.mk.inj (Option.some.inj hpure)
  exact ⟨inherited, middle, own, last, hentries, hmembers, by rw [Table.joined, List.foldl_append]⟩

end Interface

section Runs

variable {lookup : Lookup} {budget : Nat}

theorem composed_of_node (site : Site) (before : Progress) (schema : Schema) (after : Progress)
    (h : node lookup budget site before = some (schema, after)) :
    Composed lookup (fun _ _ => True) (fun _ _ => True) site schema := by
  cases budget with
  | zero => cases h
  | succ budget =>
      have hany {α : Type} (result : Option (α × Progress)) :
          Outcome True (fun _ _ => True ∧ True) result := by
        cases result with
        | none => trivial
        | some pair => exact ⟨trivial, trivial⟩
      have hvisits : KeptByVisits True (fun _ => True) (fun _ _ => True) (node lookup budget)
          (site.visits lookup) := fun _ _ _ _ => hany _
      have hfollows : KeptByFollows True (fun _ => True) (fun _ _ => True) (node lookup budget)
          (site.follows lookup) := fun _ _ _ _ => hany _
      have hrun : Outcome True _ (node lookup (budget + 1) site before) :=
        outcome_nodeWith (fun _ _ _ _ => trivial) hvisits hfollows trivial
      rw [h] at hrun
      obtain ⟨_, _, hcomposed, _⟩ := hrun
      exact hcomposed

theorem get?_of_last_member {earlier later : List Site} {signature : Site} {name : String}
    (hmembers : ∀ member ∈ earlier ++ signature :: later, member.Only .property)
    (hname : signature.ownName? = some name)
    (hlast : ∀ other ∈ later, other.ownName? ≠ some name)
    {middle done : Progress} {own : List Schema}
    (h : (earlier ++ signature :: later).mapM (node lookup budget) middle = some (own, done)) :
    ∃ schemas before entry left,
      earlier.mapM (node lookup budget) middle = some (schemas, before) ∧
      node lookup budget signature before = some (.single name entry, left) ∧
      entry.detail = signature.writtenType?.map Site.text ∧
      ∀ table, (own.foldl Table.merge table).get? name = some entry := by
  obtain ⟨schemas, before, rest, hearlier, hrest, rfl⟩ := mapM_append_eq_some h
  obtain ⟨schema, left, following, hsignature, hlater, rfl⟩ := mapM_cons_eq_some.1 hrest
  have honly : signature.Only .property := hmembers signature (by simp)
  have hothers : ∀ other ∈ later, other.Only .property := fun other hother =>
    hmembers other (by simp [hother])
  rcases composed_member honly (composed_of_node _ _ _ _ hsignature) with
    ⟨hnone, _⟩ | ⟨key, entry, hkey, rfl, hentry⟩
  · rw [hnone] at hname
    cases hname
  obtain rfl := Option.some.inj (hkey.symm.trans hname)
  refine ⟨schemas, before, entry, left, hearlier, hsignature, hentry.detail_eq, fun table => ?_⟩
  rw [List.foldl_append]
  exact get?_of_last hothers hlast (forall₂_of_mapM composed_of_node hlater) _ entry

end Runs

/-- The keys of an interface are those of its base types, clause after clause, and then its own in
the order of the body, each where it comes first. An own key has the entry that the last signature
with that name gives, whatever the base types give. -/
theorem node_own_members_win {lookup : Lookup} {site : Site}
    (hinterface : site.has .interface = true) (hentry : site.focus.isHeritageEntry = false)
    (hmembers : ∀ member ∈ site.members, member.Only .property) (progress : Progress) :
    (∀ budget schema after, node lookup (budget + 1) site progress = some (schema, after) →
      ∃ inherited middle own done,
        site.heritageEntries.mapM (node lookup budget) (progress.opened site) =
          some (inherited, middle) ∧
        site.members.mapM (node lookup budget) middle = some (own, done) ∧
        schema.keys = (inherited.flatMap Table.keys ++ site.ownNames).eraseDups ∧
        ∀ earlier signature later name, site.members = earlier ++ signature :: later →
          signature.ownName? = some name → (∀ other ∈ later, other.ownName? ≠ some name) →
          ∃ schemas before entry left,
            earlier.mapM (node lookup budget) middle = some (schemas, before) ∧
            node lookup budget signature before = some (.single name entry, left) ∧
            schema.get? name = some entry ∧
            entry.detail = signature.writtenType?.map Site.text) ∧
    ∀ program : Program, lookup.Declares program → site ∈ program.sites →
      ∃ schema after, node lookup program.budget site progress = some (schema, after) := by
  refine ⟨fun budget schema after hnode => ?_, fun program hlookup hsite =>
    exists_node hlookup hsite progress⟩
  obtain ⟨inherited, middle, own, done, hentries, hown, rfl⟩ :=
    nodeWith_interface hinterface (Site.only_interface hinterface hentry) hnode
  refine ⟨inherited, middle, own, done, hentries, hown, ?_, ?_⟩
  · have hcomposed := forall₂_of_mapM composed_of_node hown
    rw [Table.keys_joined, List.flatMap_append, keys_of_members hmembers hcomposed, Site.ownNames]
  · intro earlier signature later name hsplit hname hlast
    rw [hsplit] at hown hmembers
    obtain ⟨schemas, before, entry, left, hearlier, hsignature, hdetail, hget⟩ :=
      get?_of_last_member hmembers hname hlast hown
    refine ⟨schemas, before, entry, left, hearlier, hsignature, ?_, hdetail⟩
    rw [Table.joined, List.foldl_append]
    exact hget _

/-- `A` has the key `k` twice, and inherits it from `B`. -/
def precedenceSample : List Outline :=
  [⟨'A', some 'B', [⟨'k', none⟩, ⟨'b', some 'B'⟩, ⟨'k', some 'A'⟩]⟩,
   ⟨'B', none, [⟨'x', some 'A'⟩, ⟨'k', none⟩]⟩]

set_option maxRecDepth 10000 in
/-- From the progress that the expansion of `B` leaves. -/
theorem node_own_members_win_sample :
    let program := Outline.program precedenceSample
    let root := Outline.site precedenceSample ⟨0, by decide +kernel⟩
    let base := Outline.site precedenceSample ⟨1, by decide +kernel⟩
    root.has .interface = true ∧ root.focus.isHeritageEntry = false ∧
    (∀ member ∈ root.members, member.Only .property) ∧
    program.lookup.Declares program ∧ root ∈ program.sites ∧
    ∃ (first schema : Schema) (inherited : List Schema) (progress after : Progress) (entry : Entry),
      node program.lookup program.budget base .start = some (first, progress) ∧
      node program.lookup program.budget root progress = some (schema, after) ∧
      schema.keys = (inherited.flatMap Table.keys ++ ["k", "b", "k"]).eraseDups ∧
      schema.get? "k" = some entry ∧ entry.detail = some "A" := by
  intro program root base
  have hinterface : root.has .interface = true := by decide +kernel
  have hentry : root.focus.isHeritageEntry = false := by decide +kernel
  have hmembers : ∀ member ∈ root.members, member.Only .property := by decide +kernel
  have hlookup : program.lookup.Declares program := Program.lookup_declares (by decide +kernel)
  have hsite : root ∈ program.sites := Outline.site_mem_sites _ _
  refine ⟨hinterface, hentry, hmembers, hlookup, hsite, ?_⟩
  have hown : root.ownNames = ["k", "b", "k"] := by decide +kernel
  let signature : Site := root.members.get ⟨2, by decide +kernel⟩
  have hsplit : root.members = root.members.take 2 ++ signature :: root.members.drop 3 := by
    have hdrop : root.members.drop 2 = signature :: root.members.drop 3 :=
      List.drop_eq_getElem_cons _
    rw [← hdrop, List.take_append_drop]
  have hname : signature.ownName? = some "k" := by decide +kernel
  have hdetail : signature.writtenType?.map Site.text = some "A" := by decide +kernel
  have hlast : ∀ other ∈ root.members.drop 3, other.ownName? ≠ some "k" := by decide +kernel
  obtain ⟨budget, hbudget⟩ := Nat.exists_eq_succ_of_ne_zero
    (show program.budget ≠ 0 by decide +kernel)
  obtain ⟨first, progress, hfirst⟩ := exists_node hlookup
    (Outline.site_mem_sites precedenceSample ⟨1, by decide +kernel⟩) .start
  obtain ⟨schema, after, hnode⟩ :=
    (node_own_members_win hinterface hentry hmembers progress).2 program hlookup hsite
  rw [hbudget] at hnode
  obtain ⟨inherited, middle, own, done, _, _, hkeys, hlastOwn⟩ :=
    (node_own_members_win hinterface hentry hmembers progress).1 budget schema after hnode
  obtain ⟨schemas, before, entry, left, _, _, hget, hwritten⟩ :=
    hlastOwn _ signature _ "k" hsplit hname hlast
  rw [← hbudget] at hnode
  exact ⟨first, schema, inherited, progress, after, entry, hfirst, hnode, hown ▸ hkeys, hget,
    hwritten.trans hdetail⟩

end Expand

end Keypath
