import Keypath.Proofs.Layout
import Keypath.Proofs.Schema.Cycles

/-!
Where a node is visited from.

A node of a tree stands in one place only, so what surrounds it tells which node visits it: base
types are visited from the interface around their clause, members from the interface around their
body or from the object type they stand in, and object types from the property or the alias that
they are written for.
-/

namespace Keypath

open Keypath.Tree

/-! Children and the nodes around a node. -/

/-- Brackets around a type, and the colon in front of it. -/
def Tree.Kind.wraps : Kind → Bool
  | .parenthesizedType | .readonlyType | .typeAscription => true
  | _ => false

namespace Tree.Focus

theorem Inside.length_above_lt {outer inner : Focus} (h : Inside outer inner) :
    outer.above.length < inner.above.length := by
  have hchild {focus child : Focus} (h : child ∈ focus.children) :
      focus.above.length < child.above.length := by
    obtain ⟨frame, habove, _⟩ := above_of_mem_childrenAfter h
    rw [habove]
    exact Nat.lt_succ_self _
  induction h with
  | single h => exact hchild h
  | tail _ h ih => exact ih.trans (hchild h)

theorem nodup_childrenAfter (label : Label) (above : List Frame) (before nodes : List Node) :
    (childrenAfter label above before nodes).Nodup := by
  induction nodes generalizing before with
  | nil => exact List.nodup_nil
  | cons child later ih =>
      refine List.nodup_cons.2 ⟨fun hmem => ?_, ih _⟩
      obtain ⟨earlier, _, _, habove⟩ := split_childrenAfter hmem
      have hbefore := congrArg (fun frames => frames.head?.map fun frame => frame.before.length)
        habove
      simp at hbefore
      omega

theorem nodup_children (focus : Focus) : focus.children.Nodup :=
  nodup_childrenAfter _ _ _ _

theorem nodup_members (focus : Focus) : focus.members.Nodup :=
  focus.nodup_children.filter _

theorem nodup_bodyMembers (focus : Focus) : focus.bodyMembers.Nodup := by
  unfold bodyMembers
  split
  · exact nodup_members _
  · exact List.nodup_nil

theorem parent?_of_mem_members {focus member : Focus} (h : member ∈ focus.members) :
    member.parent? = some focus :=
  parent?_of_mem_children (mem_children_of_mem_members h)

theorem nodup_heritageEntries (focus : Focus) : focus.heritageEntries.Nodup := by
  refine List.nodup_flatMap.2 ⟨fun clause _ => clause.nodup_members, ?_⟩
  have hclauses : (focus.namedChildren.filter isHeritageClause).Nodup :=
    (focus.nodup_children.filter _).filter _
  refine hclauses.imp fun {clause other} hne => ?_
  intro entry hentry hentry'
  have hparent := (parent?_of_mem_members hentry).symm.trans (parent?_of_mem_members hentry')
  exact hne (Option.some.inj hparent)

def ownerUnder (node : Node) : List Frame → Option Focus
  | [] => none
  | frame :: outer =>
      if frame.label.kind.wraps then ownerUnder (frame.around node) outer
      else some ⟨frame.around node, outer⟩

/-- The nearest node around a type that is neither a bracket nor a colon. -/
def owner? (focus : Focus) : Option Focus := ownerUnder focus.node focus.above

theorem owner?_eq {focus parent : Focus} (h : focus.parent? = some parent) :
    focus.owner? = if parent.kind.wraps then parent.owner? else some parent := by
  obtain ⟨node, above⟩ := focus
  cases above with
  | nil => cases h
  | cons frame outer =>
      obtain rfl := Option.some.inj h
      rfl

theorem owner?_bareType (focus : Focus) : focus.bareType.owner? = focus.owner? := by
  fun_induction bareType focus with
  | case1 focus hkind inner hinner ih | case3 focus hkind inner hinner ih =>
      have hparent := parent?_of_mem_members (List.mem_of_mem_head? hinner)
      rw [ih, owner?_eq hparent, hkind]
      rfl
  | case2 | case4 | case5 => rfl

theorem owner?_of_child? {focus child : Focus} {role : Role} (h : focus.child? role = some child)
    (hkind : focus.kind.wraps = false) : child.owner? = some focus := by
  rw [owner?_eq (parent?_of_mem_children (List.mem_of_find?_eq_some h)), hkind]
  rfl

theorem owner?_of_annotatedType? {focus written : Focus}
    (h : focus.annotatedType? = some written) (hkind : focus.kind.wraps = false) :
    written.owner? = some focus := by
  unfold annotatedType? at h
  split at h
  · rename_i annotation hannotation
    have howner := owner?_of_child? hannotation hkind
    split at h
    · rename_i hcolon
      have hparent := parent?_of_mem_members (List.mem_of_mem_head? h)
      rw [owner?_eq hparent, hcolon]
      exact howner
    · obtain rfl := Option.some.inj h
      exact howner
  · cases h

/-- An object type that is not the body of an interface. -/
def isLiteral (focus : Focus) : Bool :=
  focus.kind = .objectType &&
    !focus.parent?.any fun parent => parent.kind = .interfaceDeclaration

/-- The one node that this one can be visited from. -/
def visitor? (focus : Focus) : Option Focus :=
  if focus.isHeritageEntry then focus.parent?.bind parent?
  else if focus.kind = .objectType then focus.owner?
  else focus.parent?.bind fun around => if around.isLiteral then some around else around.parent?

end Tree.Focus

namespace Site

section Owner

variable {site next : Site}

theorem wraps_eq_false {shape : Shape} (hhas : site.has shape = true)
    (hshape : shape = .property ∨ shape = .typeAlias) :
    site.focus.kind.wraps = false ∧ site.focus.kind ≠ .interfaceDeclaration := by
  rcases hshape with rfl | rfl
  · have hkind : site.focus.kind = .propertySignature := by simpa [has] using hhas
    rw [hkind]
    exact ⟨rfl, by decide⟩
  · have hkind : site.focus.kind = .typeAliasDeclaration := by simpa [has] using hhas
    rw [hkind]
    exact ⟨rfl, by decide⟩

theorem owner?_of_literal? (hproperty : site.has .property = true)
    (h : site.literal? = some next) : next.focus.owner? = some site.focus := by
  obtain ⟨hbare, _⟩ := Option.filter_eq_some_iff.1 h
  obtain ⟨written, hwritten, rfl⟩ := Option.map_eq_some_iff.1 hbare
  obtain ⟨focus, hfocus, rfl⟩ := Option.map_eq_some_iff.1 hwritten
  exact (Focus.owner?_bareType focus).trans
    (Focus.owner?_of_annotatedType? hfocus (wraps_eq_false hproperty (.inl rfl)).1)

theorem owner?_of_aliasLiteral? (halias : site.has .typeAlias = true)
    (h : site.aliasLiteral? = some next) : next.focus.owner? = some site.focus := by
  obtain ⟨hvalue, _⟩ := Option.filter_eq_some_iff.1 h
  obtain ⟨value, hchild, rfl⟩ := Option.map_eq_some_iff.1 hvalue
  exact (Focus.owner?_bareType value).trans
    (Focus.owner?_of_child? hchild (wraps_eq_false halias (.inr rfl)).1)

theorem isLiteral_of_owner? {focus owner : Focus} (hkind : focus.kind = .objectType)
    (howner : focus.owner? = some owner) (hother : owner.kind ≠ .interfaceDeclaration) :
    focus.isLiteral = true := by
  simp only [Focus.isLiteral, hkind, decide_true, Bool.true_and, Bool.not_eq_true']
  cases hparent : focus.parent? with
  | none => rfl
  | some parent =>
      rw [Focus.owner?_eq hparent] at howner
      simp only [Option.any_some, decide_eq_false_iff_not]
      intro hinterface
      rw [hinterface] at howner
      obtain rfl := Option.some.inj howner
      exact hother hinterface

end Owner

section Visitor

variable {program : Program} {lookup : Lookup} {site next : Site}

theorem kind_of_has_typeLiteral (h : site.has .typeLiteral = true) :
    site.focus.kind = .objectType := by
  simpa [has] using h

theorem parent?_of_mem_members {member : Site} (h : member ∈ site.members)
    (hkind : site.focus.kind ≠ .interfaceDeclaration) :
    member.focus.parent? = some site.focus := by
  obtain ⟨focus, hfocus, rfl⟩ := List.mem_map.1 h
  simp only [Focus.bodyMembers, Focus.container?, hkind, if_false] at hfocus
  exact Focus.parent?_of_mem_members hfocus

theorem parent?_parent?_of_mem_members {member : Site} (h : member ∈ site.members)
    (hkind : site.focus.kind = .interfaceDeclaration) :
    ∃ body, member.focus.parent? = some body ∧ body.parent? = some site.focus := by
  obtain ⟨focus, hfocus, rfl⟩ := List.mem_map.1 h
  simp only [Focus.bodyMembers, Focus.container?, hkind, if_true] at hfocus
  cases hbody : site.focus.child? .body with
  | none => simp [hbody] at hfocus
  | some body =>
      rw [hbody] at hfocus
      exact ⟨body, Focus.parent?_of_mem_members hfocus,
        Focus.parent?_of_mem_children (List.mem_of_find?_eq_some hbody)⟩

theorem parent?_parent?_of_mem_heritageEntries {entry : Site} (h : entry ∈ site.heritageEntries) :
    entry.focus.parent?.bind Focus.parent? = some site.focus := by
  obtain ⟨focus, hfocus, rfl⟩ := List.mem_map.1 h
  obtain ⟨clause, hclause, hentry⟩ := List.mem_flatMap.1 hfocus
  have hchild := (List.mem_filter.1 (List.mem_filter.1 hclause).1).1
  change focus.parent?.bind Focus.parent? = _
  rw [Focus.parent?_of_mem_members hentry]
  exact Focus.parent?_of_mem_children hchild

theorem Only.not_entry {member : Site} (h : member.Only .property) :
    member.focus.isHeritageEntry = false ∧ member.focus.kind ≠ .objectType := by
  constructor
  · by_contra hentry
    have hhas : member.has .heritage = true := by
      simp only [has, Bool.not_eq_false] at hentry ⊢
      simp [hentry]
    cases h _ (by simp [contributing]) hhas
  · intro hkind
    have hhas : member.has .typeLiteral = true := by simp [has, hkind]
    cases h _ (by simp [contributing]) hhas

theorem visitor?_eq (hgrammar : program.Grammatical) (hsite : site ∈ program.sites)
    (hliteral : site.has .typeLiteral = true → site.focus.isLiteral = true)
    (h : next ∈ site.visits lookup) : next.focus.visitor? = some site.focus := by
  have hnext := (holds_of_mem_visits h).mem_sites hsite
  have hwritten (hhas : next.has .typeLiteral = true)
      (howner : next.focus.owner? = some site.focus) :
      next.focus.visitor? = some site.focus := by
    have hentry : next.focus.isHeritageEntry = false := by
      by_contra hentry
      cases hgrammar.entry next hnext (by simpa using hentry) _ (by simp [contributing]) hhas
    simp only [Focus.visitor?, hentry, kind_of_has_typeLiteral hhas, if_true, howner]
    rfl
  cases visitedBy_of_mem_visits h with
  | entry _ hentry =>
      simp only [Focus.visitor?, isHeritageEntry_of_mem_heritageEntries hentry, if_true]
      exact parent?_parent?_of_mem_heritageEntries hentry
  | member hinterface hmember =>
      obtain ⟨hentry, hkind⟩ := (hgrammar.member site hsite (.inl hinterface) next hmember).not_entry
      have hsitekind : site.focus.kind = .interfaceDeclaration := by
        simpa [has] using hinterface
      obtain ⟨body, hbody, hparent⟩ := parent?_parent?_of_mem_members hmember hsitekind
      have hnot : body.isLiteral = false := by
        simp [Focus.isLiteral, hparent, hsitekind]
      simp only [Focus.visitor?, hentry, hkind, hbody, hparent, Option.bind_some, hnot]
      rfl
  | nested hhas hmember =>
      obtain ⟨hentry, hkind⟩ := (hgrammar.member site hsite (.inr hhas) next hmember).not_entry
      have hsitekind := kind_of_has_typeLiteral hhas
      have hparent := parent?_of_mem_members hmember (by rw [hsitekind]; decide)
      simp only [Focus.visitor?, hentry, hkind, hparent, Option.bind_some, hliteral hhas]
      rfl
  | written hproperty hwrites =>
      exact hwritten (Option.filter_eq_some_iff.1 hwrites).2 (owner?_of_literal? hproperty hwrites)
  | aliased halias hwrites =>
      exact hwritten (Option.filter_eq_some_iff.1 hwrites).2
        (owner?_of_aliasLiteral? halias hwrites)

theorem isLiteral_of_visits (hgrammar : program.Grammatical) {declaration : Site}
    (hdeclaration : declaration ∈ program.declarations) (h : Visits lookup declaration site)
    (hhas : site.has .typeLiteral = true) : site.focus.isLiteral = true := by
  have hkind := kind_of_has_typeLiteral hhas
  obtain ⟨hmem, hdeclares⟩ := Program.mem_declarations.1 hdeclaration
  rcases Relation.ReflTransGen.cases_tail h with rfl | ⟨middle, hmiddle, hvisit⟩
  · simp [isDeclaration, Kind.isDeclaration, kind, hkind] at hdeclares
  · have hmiddle := (visitedAs_of_visits hgrammar hdeclaration hmiddle).1
    have hsite := (holds_of_mem_visits hvisit).mem_sites hmiddle
    cases visitedBy_of_mem_visits hvisit with
    | entry _ hentry =>
        have honly := hgrammar.entry site hsite (isHeritageEntry_of_mem_heritageEntries hentry)
        cases honly _ (by simp [contributing]) hhas
    | member hinterface hmember =>
        exact absurd hkind (hgrammar.member middle hmiddle (.inl hinterface) site hmember).not_entry.2
    | nested hliteral hmember =>
        exact absurd hkind (hgrammar.member middle hmiddle (.inr hliteral) site hmember).not_entry.2
    | written hproperty hwrites =>
        exact isLiteral_of_owner? hkind (owner?_of_literal? hproperty hwrites)
          (wraps_eq_false hproperty (.inl rfl)).2
    | aliased halias hwrites =>
        exact isLiteral_of_owner? hkind (owner?_of_aliasLiteral? halias hwrites)
          (wraps_eq_false halias (.inr rfl)).2

theorem visitor_unique (hgrammar : program.Grammatical) {declaration declaration' other : Site}
    (hdeclaration : declaration ∈ program.declarations)
    (hdeclaration' : declaration' ∈ program.declarations)
    (hsite : Visits lookup declaration site) (hother : Visits lookup declaration' other)
    (h : next ∈ site.visits lookup) (h' : next ∈ other.visits lookup) : site = other := by
  have hfocus := visitor?_eq hgrammar (visitedAs_of_visits hgrammar hdeclaration hsite).1
    (isLiteral_of_visits hgrammar hdeclaration hsite) h
  have hfocus' := visitor?_eq hgrammar (visitedAs_of_visits hgrammar hdeclaration' hother).1
    (isLiteral_of_visits hgrammar hdeclaration' hother) h'
  have hfile := (holds_of_mem_visits h).1.symm.trans (holds_of_mem_visits h').1
  obtain ⟨file, focus⟩ := site
  obtain ⟨file', focus'⟩ := other
  cases hfile
  rw [hfocus] at hfocus'
  cases hfocus'
  rfl

end Visitor

/-! A node of the grammar contributes in one way, so it visits no node twice. -/

theorem Only.flatMap_eq {α : Type} {site : Site} {shape : Shape} (honly : site.Only shape)
    (hshape : shape ∈ contributing) (pieces : Shape → List α) :
    (contributing.flatMap fun other => if site.has other then pieces other else []) =
      if site.has shape then pieces shape else [] := by
  have hother : ∀ other ∈ contributing, other ≠ shape →
      (if site.has other = true then pieces other else []) = [] := by
    intro other hmem hne
    exact if_neg fun hhas => hne (honly other hmem hhas)
  obtain ⟨earlier, later, hsplit⟩ := List.append_of_mem hshape
  have hnodup : contributing.Nodup := by decide
  rw [hsplit] at hnodup hother ⊢
  obtain ⟨hlater, hearlier⟩ : shape ∉ later ∧ shape ∉ earlier := by
    simp only [List.nodup_append, List.nodup_cons] at hnodup
    exact ⟨hnodup.2.1.1, fun hmem => hnodup.2.2 shape hmem shape List.mem_cons_self rfl⟩
  rw [List.flatMap_append, List.flatMap_cons, List.flatMap_eq_nil_iff.2, List.flatMap_eq_nil_iff.2,
    List.nil_append, List.append_nil]
  · intro other hmem
    exact hother other (by simp [hmem]) fun heq => hlater (heq ▸ hmem)
  · intro other hmem
    exact hother other (by simp [hmem]) fun heq => hearlier (heq ▸ hmem)

end Site

namespace Program

variable {program : Program} {lookup : Lookup} {site : Site}

theorem Grammatical.exists_only (hgrammar : program.Grammatical) (hsite : site ∈ program.sites) :
    ∃ shape ∈ Site.contributing, site.Only shape := by
  by_cases hnone : ∃ shape ∈ Site.contributing, site.has shape = true
  · obtain ⟨shape, hshape, hhas⟩ := hnone
    by_cases hheritage : shape = .heritage
    · subst hheritage
      refine ⟨.heritage, hshape, ?_⟩
      simp only [Site.has, Bool.or_eq_true] at hhas
      rcases hhas with hclause | hentry
      · have hkind : site.focus.kind = .extendsTypeClause := by
          simpa [Focus.isHeritageClause] using hclause
        intro other hother hhas
        cases other <;> simp_all [Site.has, Site.contributing]
      · exact hgrammar.entry site hsite hentry
    · exact ⟨shape, hshape, hgrammar.only hsite hshape hhas hheritage⟩
  · refine ⟨.property, by simp [Site.contributing], ?_⟩
    exact fun other hother hhas => absurd ⟨other, hother, hhas⟩ hnone

theorem Grammatical.nodup_visits (hgrammar : program.Grammatical) (hsite : site ∈ program.sites) :
    (site.visits lookup).Nodup := by
  have hmove (places : List Focus) (h : places.Nodup) : (places.map site.move).Nodup :=
    h.map fun _ _ heq => congrArg Site.focus heq
  have htoList (found : Option Site) : found.toList.Nodup := by
    cases found with
    | none => exact List.nodup_nil
    | some next => exact List.nodup_singleton next
  have hvisit (sites : List Site) : (sites.map Part.visit).flatMap Part.visits = sites := by
    rw [List.flatMap_map]
    exact List.flatMap_singleton' sites
  have hfollow (sites : List Site) : (sites.map Part.follow).flatMap Part.visits = [] := by
    rw [List.flatMap_map]
    exact List.flatMap_eq_nil_iff.2 fun _ _ => rfl
  obtain ⟨shape, hshape, honly⟩ := hgrammar.exists_only hsite
  rw [Site.visits, Site.parts, honly.flatMap_eq hshape]
  by_cases hhas : site.has shape = true
  · rw [if_pos hhas]
    cases shape with
    | interface =>
        rw [Site.partsOf, hvisit, List.nodup_append]
        refine ⟨hmove _ (Focus.nodup_heritageEntries _), hmove _ (Focus.nodup_bodyMembers _), ?_⟩
        rintro entry hentry _ hmember rfl
        have hnot := (hgrammar.member site hsite (.inl hhas) entry hmember).not_entry.1
        rw [Site.isHeritageEntry_of_mem_heritageEntries hentry] at hnot
        cases hnot
    | property =>
        simp only [Site.partsOf]
        cases site.propertyName? with
        | none => exact List.nodup_nil
        | some name => simpa [Part.visits] using htoList site.literal?
    | importing | heritage =>
        rw [Site.partsOf, hfollow]
        exact List.nodup_nil
    | typeLiteral =>
        rw [Site.partsOf, hvisit]
        exact hmove _ (Focus.nodup_bodyMembers _)
    | typeAlias =>
        rw [Site.partsOf, hvisit]
        exact htoList site.aliasLiteral?
    | arrayType => exact List.nodup_nil
  · rw [if_neg hhas]
    exact List.nodup_nil

end Program

end Keypath
