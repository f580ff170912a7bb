import Keypath.Usage
import Keypath.Proofs.Identifier
import Keypath.Proofs.Outline
import Keypath.Schema.WrittenType

/-!
The question about a usage and the type that the usage writes.

The question is asked one byte behind the full start of the type. What ends behind that byte and
stands before the type is a comment, so the first identifier behind it is one of the type, if any of
the type's identifiers ends there. A name of one letter right behind the colon does not, and the
question then goes to whatever identifier comes next.
-/

namespace Keypath

open Keypath.Tree

namespace Tree.Focus

/-- The type that a base of an interface or a property writes. -/
def usedType? (focus : Focus) : Option Focus :=
  if focus.isHeritageEntry then some focus
  else if focus.kind = .propertySignature then focus.annotatedType?
  else none

/-- `ns.Foo` in `ns.Foo<T>`. -/
def typeHead (focus : Focus) : Focus :=
  if focus.kind = .genericType then (focus.child? .name).getD focus else focus

/-- `ns` in `ns.Foo` and `ns.Foo<T>`. -/
def qualifier? (focus : Focus) : Option Focus :=
  if focus.typeHead.kind = .nestedTypeIdentifier then focus.typeHead.child? .qualifier else none

/-- `Foo` and `ns.Foo`, but not `a.b.Foo`. -/
def isSimpleName (focus : Focus) : Bool :=
  match focus.kind with
  | .typeIdentifier | .identifier => true
  | .nestedTypeIdentifier =>
      focus.members.all (fun member => member.kind.isIdentifier) &&
        (focus.child? .name).all (fun name => name.kind.isIdentifier) &&
        (focus.child? .qualifier).all fun outer => outer.kind = .identifier
  | _ => false

/-- A simple name, with arguments behind it if there are any. -/
def isSimplyNamed (focus : Focus) : Bool :=
  focus.typeHead.isSimpleName &&
    (focus.kind ≠ .genericType ||
      focus.firstMember?.any fun first => first.label.roles.contains .name)

/-- The extras between two offsets are comments: leaves, and no identifiers. -/
def PlainBetween (root : Focus) (low high : Nat) : Prop :=
  ∀ place ∈ root.preorder, place.label.extra = true → low ≤ place.start → place.stop ≤ high →
    place.node.children = [] ∧ place.kind.isIdentifier = false

instance (root : Focus) (low high : Nat) : Decidable (root.PlainBetween low high) :=
  inferInstanceAs (Decidable (∀ place ∈ root.preorder, place.label.extra = true →
    low ≤ place.start → place.stop ≤ high →
      place.node.children = [] ∧ place.kind.isIdentifier = false))

def typeReference? (ident : Focus) : Option TypeReference :=
  match ident.parent? with
  | none => some ⟨ident, none⟩
  | some parent =>
      if parent.kind = .nestedTypeIdentifier then
        (parent.child? .name).map fun name =>
          ⟨name, (parent.child? .qualifier).filter fun outer => outer.kind = .identifier⟩
      else some ⟨ident, none⟩

/-- The node is no part of a longer name. -/
def Unqualified (focus : Focus) : Prop :=
  ∀ parent, focus.parent? = some parent → parent.kind ≠ .nestedTypeIdentifier

theorem Unqualified.typeReference?_eq {focus : Focus} (h : focus.Unqualified) :
    focus.typeReference? = some ⟨focus, none⟩ := by
  unfold typeReference?
  split
  · rfl
  · rename_i parent hparent
    rw [if_neg (h parent hparent)]

theorem unqualified_of_mem_children {parent child : Focus} (h : child ∈ parent.children)
    (hkind : parent.kind ≠ .nestedTypeIdentifier) : child.Unqualified := by
  intro other hother
  rw [parent?_of_mem_children h] at hother
  obtain rfl := Option.some.inj hother
  exact hkind

/-! Before the written type. -/

section Before

variable {root outer focus parent child place : Focus} {low high offset : Nat}

theorem PlainBetween.find?_eq_none (plain : root.PlainBetween low high)
    (hplace : place ∈ root.preorder) (hextra : place.label.extra = true) (hlow : low ≤ place.start)
    (hhigh : place.stop ≤ high) : place.preorder.find? (isIdentifierBehind offset) = none := by
  obtain ⟨hleaf, hident⟩ := plain place hplace hextra hlow hhigh
  exact find?_eq_none_of_leaf hleaf hident

theorem PlainBetween.of_not_isMember (plain : root.PlainBetween low high) (tokens : root.Tokens)
    (hplace : place ∈ root.preorder) (hmember : place.label.isMember = false)
    (hlow : low ≤ place.start) (hhigh : place.stop ≤ high) :
    place.node.children = [] ∧ place.kind.isIdentifier = false := by
  cases hnamed : place.label.named with
  | true => exact plain place hplace (by simpa [Label.isMember, hnamed] using hmember) hlow hhigh
  | false =>
      exact ⟨tokens.anonymous place hplace hnamed, tokens.kind_of_anonymous hplace hnamed⟩

theorem NoneBefore.extend (h : NoneBefore (isIdentifierBehind offset) outer parent)
    (tokens : root.Tokens) (hparent : Within root parent) {earlier later : List Focus}
    (split : parent.children = earlier ++ child :: later)
    (left : ∀ sibling ∈ earlier, sibling.preorder.find? (isIdentifierBehind offset) = none) :
    NoneBefore (isIdentifierBehind offset) outer child := by
  have hchild : child ∈ parent.children := by simp [split]
  refine .child h ?_ split left
  simp [isIdentifierBehind, tokens.kind_of_mem_children (mem_preorder.2 hparent) hchild]

variable (laid : root.LaidOut) (tokens : root.Tokens)

include laid tokens

theorem noneBefore_of_start_le (h : Within root focus) (hstart : focus.start ≤ offset) :
    NoneBefore (isIdentifierBehind offset) root focus := by
  induction h with
  | refl => exact .root
  | @tail parent child hparent hchild ih =>
      have laidHere := laid.within hparent
      have hspan := laidHere.span_child hchild
      obtain ⟨earlier, later, split, _⟩ := split_children hchild
      refine (ih (by omega)).extend tokens hparent split ?_
      intro sibling hsibling
      have hstop := laidHere.stop_le_of_split split hsibling
      exact (laidHere.within (.single (by simp [split, hsibling]))).find?_eq_none (by omega)

variable (plain : root.PlainBetween low high)

include plain

theorem noneBefore_of_fullStart_le (h : Within root focus) (hroot : root.above = [])
    (hlow : low ≤ focus.fullStart) (hfull : focus.fullStart ≤ offset)
    (hhigh : focus.start ≤ high) : NoneBefore (isIdentifierBehind offset) root focus := by
  induction h with
  | refl => exact .root
  | @tail parent child hparent hchild ih =>
      have laidHere := laid.within hparent
      have hspan := laidHere.span_child hchild
      obtain ⟨earlier, later, split, hcases⟩ := fullStart_cases hchild
      have hmem : ∀ sibling ∈ earlier, sibling ∈ parent.children := by
        intro sibling hsibling
        simp [split, hsibling]
      rcases hcases with ⟨front, sibling, gap, rfl, hgap, -, hstart⟩ | ⟨hextras, hstart⟩
      -- the parent starts before the offset, and what stands before the sibling ends before it
      · have hsibling := laidHere.span_child (hmem sibling (by simp))
        have splitThere : parent.children = front ++ sibling :: (gap ++ child :: later) := by
          simp [split]
        have hbefore : NoneBefore (isIdentifierBehind offset) root parent :=
          noneBefore_of_start_le laid tokens hparent (by omega)
        refine hbefore.extend tokens hparent split ?_
        intro place hplace
        have hahead := laidHere.stop_le_of_split split hplace
        have laidThere := laidHere.within (.single (hmem place hplace))
        simp only [List.mem_append, List.mem_cons] at hplace
        rcases hplace with hfront | rfl | hplaceGap
        · have hstop := laidHere.stop_le_of_split splitThere hfront
          exact laidThere.find?_eq_none (by omega)
        · exact laidThere.find?_eq_none (by omega)
        · have hafter : sibling.stop ≤ place.start :=
            laidHere.le_start_of_split splitThere (by simp [hplaceGap])
          have hplace := mem_preorder.2 (hparent.tail (hmem place (by simp [hplaceGap])))
          exact plain.find?_eq_none hplace (hgap place hplaceGap) (by omega) (by omega)
      · refine (ih (by omega) (by omega) (by omega)).extend tokens hparent split ?_
        intro sibling hsibling
        have hparentFull := laid.fullStart_le_start hroot hparent
        have hsiblingSpan := laidHere.span_child (hmem sibling hsibling)
        have hstop := laidHere.stop_le_of_split split hsibling
        exact plain.find?_eq_none (mem_preorder.2 (hparent.tail (hmem sibling hsibling)))
          (hextras sibling hsibling) (by omega) (by omega)

theorem noneBefore_of_no_member (hparent : Within root parent) {earlier later : List Focus}
    (split : parent.children = earlier ++ child :: later)
    (hmember : ∀ sibling ∈ earlier, sibling.label.isMember = false) (hlow : low ≤ parent.start)
    (hhigh : child.start ≤ high) : NoneBefore (isIdentifierBehind offset) parent child := by
  refine NoneBefore.root.extend tokens hparent split ?_
  intro sibling hsibling
  have hmem : sibling ∈ parent.children := by simp [split, hsibling]
  have hspan := (laid.within hparent).span_child hmem
  have hstop := (laid.within hparent).stop_le_of_split split hsibling
  obtain ⟨hleaf, hident⟩ := plain.of_not_isMember tokens (mem_preorder.2 (hparent.tail hmem))
    (hmember sibling hsibling) (by omega) (by omega)
  exact find?_eq_none_of_leaf hleaf hident

end Before

section Written

variable {root focus parent child name : Focus} {low high offset : Nat}

theorem split_firstMember? (h : parent.firstMember? = some child) :
    ∃ earlier later, parent.children = earlier ++ child :: later ∧
      ∀ sibling ∈ earlier, sibling.label.isMember = false := by
  rw [firstMember?, members, List.head?_filter] at h
  obtain ⟨_, earlier, later, split, hmember⟩ := List.find?_eq_some_iff_append.1 h
  exact ⟨earlier, later, split, fun sibling hsibling => by simpa using hmember sibling hsibling⟩

theorem split_name? (hname : parent.child? .name = some child)
    (hfirst : (parent.firstMember?.any fun first => first.label.roles.contains .name) = true) :
    ∃ earlier later, parent.children = earlier ++ child :: later ∧
      ∀ sibling ∈ earlier, sibling.label.isMember = false := by
  obtain ⟨_, earlier, later, split, hrole⟩ := List.find?_eq_some_iff_append.1 hname
  refine ⟨earlier, later, split, ?_⟩
  rw [firstMember?, members, List.head?_filter, split, List.find?_append] at hfirst
  cases hearlier : earlier.find? fun sibling => sibling.label.isMember with
  | none => simpa using hearlier
  | some first =>
      have hplays := hrole first (List.mem_of_find?_eq_some hearlier)
      rw [hearlier] at hfirst
      simp_all

theorem noneBefore_bareType (laid : root.LaidOut) (tokens : root.Tokens)
    (plain : root.PlainBetween low high) (h : Within root focus)
    (hlow : low ≤ focus.start) (hhigh : focus.bareType.start ≤ high) :
    NoneBefore (isIdentifierBehind offset) focus focus.bareType := by
  fun_induction bareType focus with
  | case1 focus _ inner hinner ih | case3 focus _ inner hinner ih =>
      obtain ⟨earlier, later, split, hmember⟩ := split_firstMember? hinner
      have hchild : inner ∈ focus.children := by simp [split]
      have hspan := (laid.within h).span_child hchild
      have hbare := (laid.within (h.tail hchild)).span_within (within_bareType inner)
      have hfirst : NoneBefore (isIdentifierBehind offset) focus inner :=
        noneBefore_of_no_member laid tokens plain h split hmember hlow (by omega)
      exact hfirst.trans (ih (h.tail hchild) (by omega) hhigh)
  | case2 | case4 | case5 => exact .root

theorem Unqualified.bareType (h : focus.Unqualified) : focus.bareType.Unqualified := by
  fun_induction Focus.bareType focus with
  | case1 focus hkind inner hinner ih | case3 focus hkind inner hinner ih =>
      apply ih
      refine unqualified_of_mem_children
        (mem_children_of_mem_members (mem_members_of_firstMember? hinner)) ?_
      rw [hkind]
      decide
  | case2 | case4 | case5 => exact h

/-! The name of the written type. -/

theorem typeName?_of_isIdentifier (h : focus.kind.isIdentifier = true) :
    focus.typeName? = some focus := by
  rw [typeName?]
  split <;> simp_all [Kind.isIdentifier]

theorem find?_of_isIdentifierBehind {offset : Nat} (h : isIdentifierBehind offset focus = true) :
    focus.preorder.find? (isIdentifierBehind offset) = some focus := by
  rw [find?_preorder, if_pos h]

/-- The first identifier of `ns.Foo` behind an offset is one of its own two. -/
theorem find?_mem_children_of_nested (laid : root.LaidOut) (tokens : root.Tokens)
    (plain : root.PlainBetween low high) (h : Within root focus)
    (hmembers : ∀ member ∈ focus.members, member.kind.isIdentifier = true)
    (hname : focus.child? .name = some name)
    (hbehind : isIdentifierBehind offset name = true) (hlow : low ≤ focus.start)
    (hhigh : name.start ≤ high) :
    ∃ hit ∈ focus.children, focus.preorder.find? (isIdentifierBehind offset) = some hit := by
  obtain ⟨_, earlier, later, split, _⟩ := List.find?_eq_some_iff_append.1 hname
  have hchild : name ∈ focus.children := by simp [split]
  have hhere : isIdentifierBehind offset focus = false := by
    simp [isIdentifierBehind, tokens.kind_of_mem_children (mem_preorder.2 h) hchild]
  rw [find?_preorder, hhere, split, List.findSome?_append, List.findSome?_cons,
    find?_of_isIdentifierBehind hbehind]
  cases hearlier : earlier.findSome? fun sibling =>
      sibling.preorder.find? (isIdentifierBehind offset) with
  | none => exact ⟨name, by simp, rfl⟩
  | some hit =>
      obtain ⟨sibling, hsibling, hhit⟩ := List.exists_of_findSome?_eq_some hearlier
      have hmem : sibling ∈ focus.children := by simp [split, hsibling]
      have hplace := mem_preorder.2 (h.tail hmem)
      have hleaf : sibling.node.children = [] := by
        cases hmember : sibling.label.isMember with
        | true =>
            have hident := hmembers sibling (List.mem_filter.2 ⟨hmem, hmember⟩)
            exact (tokens.identifier sibling hplace hident).2
        | false =>
            have hspan := (laid.within h).span_child hmem
            have hstop := (laid.within h).stop_le_of_split split hsibling
            exact (plain.of_not_isMember tokens hplace hmember (by omega) (by omega)).1
      obtain rfl := eq_of_within_leaf hleaf (mem_preorder.1 (List.mem_of_find?_eq_some hhit))
      exact ⟨hit, by simp [hsibling], rfl⟩

theorem typeReference?_of_nested (hchild : child ∈ focus.children)
    (hkind : focus.kind = .nestedTypeIdentifier) (hname : focus.child? .name = some name)
    (hqualifier : ∀ outer, focus.child? .qualifier = some outer → outer.kind = .identifier) :
    child.typeReference? = some ⟨name, focus.child? .qualifier⟩ := by
  have hfilter : ((focus.child? .qualifier).filter fun outer => outer.kind = .identifier) =
      focus.child? .qualifier := by
    cases houter : focus.child? .qualifier with
    | none => rfl
    | some outer => simp [Option.filter, hqualifier outer houter]
  simp only [typeReference?, parent?_of_mem_children hchild, hkind, if_true, hname, hfilter,
    Option.map_some]

theorem find?_typeReference?_of_isSimpleName (laid : root.LaidOut) (tokens : root.Tokens)
    (plain : root.PlainBetween low high) (h : Within root focus)
    (hsimple : focus.isSimpleName = true) (hname : focus.typeName? = some name)
    (hfree : focus.Unqualified) (hbehind : offset < name.stop) (hlow : low ≤ focus.start)
    (hhigh : name.start ≤ high) :
    ∃ hit, focus.preorder.find? (isIdentifierBehind offset) = some hit ∧
      hit.typeReference? = some ⟨name,
        if focus.kind = .nestedTypeIdentifier then focus.child? .qualifier else none⟩ := by
  unfold isSimpleName at hsimple
  split at hsimple
  case h_1 hkind | h_2 hkind =>
    rw [typeName?_of_isIdentifier (by rw [hkind]; rfl)] at hname
    obtain rfl := Option.some.inj hname
    refine ⟨focus, find?_of_isIdentifierBehind ?_, ?_⟩
    · simp [isIdentifierBehind, hkind, Kind.isIdentifier, hbehind]
    · rw [hfree.typeReference?_eq, hkind]
      rfl
  case h_3 hkind =>
    simp only [Bool.and_eq_true, List.all_eq_true, Option.all_eq_true, decide_eq_true_eq] at hsimple
    obtain ⟨⟨hmembers, hident⟩, hqualifier⟩ := hsimple
    rw [typeName?] at hname
    simp only [hkind] at hname
    split at hname
    case h_2 => cases hname
    case h_1 own hown =>
      rw [typeName?_of_isIdentifier (hident own hown)] at hname
      obtain rfl := Option.some.inj hname
      have hhere : isIdentifierBehind offset own = true := by
        simp [isIdentifierBehind, hident _ hown, hbehind]
      obtain ⟨hit, hhit, hfind⟩ :=
        find?_mem_children_of_nested laid tokens plain h hmembers hown hhere hlow hhigh
      refine ⟨hit, hfind, ?_⟩
      rw [typeReference?_of_nested hhit hkind hown hqualifier, if_pos hkind]
  case h_4 => cases hsimple

theorem within_of_typeName? (h : focus.typeName? = some name) : Within focus name := by
  fun_induction typeName? focus with
  | case1 | case2 =>
      obtain rfl := Option.some.inj h
      exact .refl
  | case3 focus _ inner hinner ih | case5 focus _ inner hinner ih =>
      exact .head (List.mem_of_find?_eq_some hinner) (ih h)
  | case4 | case6 | case7 => cases h

theorem find?_typeReference?_of_isSimplyNamed (laid : root.LaidOut) (tokens : root.Tokens)
    (plain : root.PlainBetween low high) (h : Within root focus)
    (hsimple : focus.isSimplyNamed = true) (hname : focus.typeName? = some name)
    (hfree : focus.Unqualified) (hbehind : offset < name.stop) (hlow : low ≤ focus.start)
    (hhigh : name.start ≤ high) :
    ∃ hit, focus.preorder.find? (isIdentifierBehind offset) = some hit ∧
      hit.typeReference? = some ⟨name, focus.qualifier?⟩ := by
  simp only [isSimplyNamed, Bool.and_eq_true, Bool.or_eq_true, decide_eq_true_eq] at hsimple
  obtain ⟨hhead, hfirst⟩ := hsimple
  unfold qualifier?
  by_cases hkind : focus.kind = .genericType
  · rw [typeName?] at hname
    simp only [hkind] at hname
    split at hname
    case h_2 => cases hname
    case h_1 inner hinner =>
      have hhere : focus.typeHead = inner := by simp [typeHead, hkind, hinner]
      rw [hhere] at hhead ⊢
      obtain ⟨earlier, later, split, hmember⟩ :=
        split_name? hinner (hfirst.resolve_left (fun hother => hother hkind))
      have hchild : inner ∈ focus.children := by simp [split]
      have hspan := (laid.within h).span_child hchild
      have hinside := (laid.within (h.tail hchild)).span_within (within_of_typeName? hname)
      have hbefore : NoneBefore (isIdentifierBehind offset) focus inner :=
        noneBefore_of_no_member laid tokens plain h split hmember hlow (by omega)
      have hinnerFree : inner.Unqualified := by
        apply unqualified_of_mem_children hchild
        rw [hkind]
        decide
      obtain ⟨hit, hfind, hreference⟩ := find?_typeReference?_of_isSimpleName laid tokens plain
        (h.tail hchild) hhead hname hinnerFree hbehind (by omega) hhigh
      exact ⟨hit, hbefore.find?_eq hfind, hreference⟩
  · have hhere : focus.typeHead = focus := by simp [typeHead, hkind]
    rw [hhere] at hhead ⊢
    exact find?_typeReference?_of_isSimpleName laid tokens plain h hhead hname hfree hbehind hlow
      hhigh

end Written

/-! Usages. -/

section Usages

variable {usage written name : Focus}

theorem kind_of_parent? {focus parent : Focus} {frame : Frame} {outer : List Frame}
    (habove : focus.above = frame :: outer) (h : focus.parent? = some parent) :
    parent.kind = frame.label.kind := by
  rw [parent?, habove] at h
  obtain rfl := Option.some.inj h
  rfl

theorem unqualified_of_isHeritageEntry (h : usage.isHeritageEntry = true) :
    usage.Unqualified := by
  intro parent hparent
  simp only [isHeritageEntry, Bool.and_eq_true] at h
  obtain ⟨_, hclause⟩ := h
  split at hclause
  · rename_i frame outer habove
    rw [kind_of_parent? habove hparent, of_decide_eq_true hclause]
    decide
  · cases hclause

theorem unqualified_of_annotatedType? (hkind : usage.kind = .propertySignature)
    (h : usage.annotatedType? = some written) : written.Unqualified := by
  unfold annotatedType? at h
  split at h
  case h_2 => cases h
  case h_1 annotation hannotation =>
    split at h
    case isTrue hascription =>
      apply unqualified_of_mem_children
        (mem_children_of_mem_members (mem_members_of_firstMember? h))
      rw [hascription]
      decide
    case isFalse =>
      obtain rfl := Option.some.inj h
      apply unqualified_of_mem_children (List.mem_of_find?_eq_some hannotation)
      rw [hkind]
      decide

theorem unqualified_of_usedType? (h : usage.usedType? = some written) :
    Within usage written ∧ written.Unqualified := by
  unfold usedType? at h
  split at h
  case isTrue hentry =>
    obtain rfl := Option.some.inj h
    exact ⟨.refl, unqualified_of_isHeritageEntry hentry⟩
  case isFalse =>
    split at h
    case isTrue hkind =>
      exact ⟨(inside_of_annotatedType? h).to_reflTransGen, unqualified_of_annotatedType? hkind h⟩
    case isFalse => cases h

theorem usageAnchor?_of_usedType? (h : usage.usedType? = some written)
    (hname : written.bareType.typeName? = some name) :
    usage.usageAnchor? = some written.fullStart := by
  unfold usedType? at h
  split at h
  case isTrue hentry =>
    obtain rfl := Option.some.inj h
    have hclause : usage.isHeritageClause = false := by
      by_contra hclause
      have hkind : usage.kind = .extendsTypeClause := by simpa [isHeritageClause] using hclause
      have hbare : usage.bareType = usage := by
        rw [bareType]
        simp only [hkind]
      rw [hbare, typeName?] at hname
      simp only [hkind] at hname
      cases hname
    simp [usageAnchor?, hclause, hentry]
  case isFalse hentry =>
    split at h
    case isTrue hkind => simp [usageAnchor?, isHeritageClause, hkind, hentry, h]
    case isFalse => cases h

end Usages

end Tree.Focus

namespace SourceFile

theorem referenceAt?_eq (file : SourceFile) (offset : Nat) :
    file.referenceAt? offset = (file.identifierAt? offset).bind Focus.typeReference? := by
  rw [referenceAt?]
  cases file.identifierAt? offset <;> rfl

/-- Where only comments stand in front of the name of the written type, the identifier asked about
is one of the type exactly when one of the type's identifiers ends behind the byte asked at; and a
type with at most one qualifier is asked about by its name if that ends there. -/
theorem probe_finds_written_type {file : SourceFile} {usage written name : Focus}
    (laid : file.root.LaidOut) (tokens : file.root.Tokens) (husage : usage ∈ file.root.preorder)
    (hwritten : usage.usedType? = some written) (hname : written.bareType.typeName? = some name)
    (plain : file.root.PlainBetween written.fullStart name.start) :
    ∃ anchor, usage.usageAnchor? = some anchor ∧
      (∀ ident, file.identifierAt? (probeOffset anchor) = some ident →
        (Focus.Within written ident ↔
          ∃ other, Focus.Within written other ∧
            other.isIdentifierBehind (probeOffset anchor) = true)) ∧
      (written.bareType.isSimplyNamed = true → probeOffset anchor < name.stop →
        file.referenceAt? (probeOffset anchor) =
          some ⟨name, written.bareType.qualifier?⟩) := by
  obtain ⟨hinside, hfree⟩ := Focus.unqualified_of_usedType? hwritten
  refine ⟨written.fullStart, Focus.usageAnchor?_of_usedType? hwritten hname, ?_⟩
  have hwithin : Focus.Within file.root written := (Focus.mem_preorder.1 husage).trans hinside
  have hbareWithin := Focus.within_bareType written
  have hfull := laid.fullStart_le_start rfl hwithin
  have hbareSpan := (laid.within hwithin).span_within hbareWithin
  have hnameSpan := (laid.within (hwithin.trans hbareWithin)).span_within
    (Focus.within_of_typeName? hname)
  have hprobe : written.fullStart ≤ probeOffset written.fullStart := Nat.le_succ _
  have hbefore := Focus.noneBefore_of_fullStart_le laid tokens plain hwithin rfl (Nat.le_refl _)
    hprobe (by omega)
  rw [referenceAt?_eq, identifierAt?_eq laid tokens]
  constructor
  · intro ident hident
    constructor
    · intro hin
      exact ⟨ident, hin, List.find?_some hident⟩
    · rintro ⟨other, hother, hbehind⟩
      have hsome := List.find?_isSome.2 ⟨other, Focus.mem_preorder.2 hother, hbehind⟩
      obtain ⟨hit, hhit⟩ := Option.isSome_iff_exists.1 hsome
      rw [hbefore.find?_eq hhit] at hident
      obtain rfl := Option.some.inj hident
      exact Focus.mem_preorder.1 (List.mem_of_find?_eq_some hhit)
  · intro hsimple hbehind
    obtain ⟨hit, hfind, hreference⟩ := Focus.find?_typeReference?_of_isSimplyNamed laid tokens
      plain (hwithin.trans hbareWithin) hsimple hname hfree.bareType hbehind (by omega)
      (Nat.le_refl _)
    have hbare := hbefore.trans
      (Focus.noneBefore_bareType laid tokens plain hwithin hfull (by omega))
    rw [hbare.find?_eq hfind]
    exact hreference

open Outline in
/-- `interface A { x:/**/n.B<T> }` -/
def commentedFile : SourceFile :=
  let type := inner .genericType 20 26 []
    [inner .nestedTypeIdentifier 20 23 [.name]
        [inner .identifier 20 21 [.qualifier] [], mark "." 21,
          inner .typeIdentifier 22 23 [.name] []],
      inner (.other "type_arguments") 23 26 [.typeArguments]
        [mark "<" 23, inner .typeIdentifier 24 25 [] [], mark ">" 25]]
  let comment : Node := ⟨⟨.other "comment", 16, 20, true, true, false, []⟩, []⟩
  let property := inner .propertySignature 14 26 []
    [inner (.other "property_identifier") 14 15 [.name] [],
      inner .typeAscription 15 26 [.type] [mark ":" 15, comment, type]]
  let body := inner (.other "interface_body") 12 28 [.body]
    [mark "\x7b" 12, property, mark "\x7d" 27]
  { id := 0
    path := .ofText "/ws/a.ts"
    text := "interface A \x7b x:/**/n.B<T> \x7d"
    tree := inner (.other "program") 0 28 []
      [inner .interfaceDeclaration 0 28 []
        [mark "interface" 0, inner .typeIdentifier 10 11 [.name] [], body]] }

set_option maxRecDepth 10000 in
theorem probe_finds_written_type_commented :
    ∃ usage written name,
      (commentedFile.root.LaidOut ∧ commentedFile.root.Tokens ∧
        usage ∈ commentedFile.root.preorder ∧ usage.usedType? = some written ∧
        written.bareType.typeName? = some name ∧
        commentedFile.root.PlainBetween written.fullStart name.start) ∧
      ∃ anchor, usage.usageAnchor? = some anchor ∧
        commentedFile.referenceAt? (probeOffset anchor) =
          some ⟨name, written.bareType.qualifier?⟩ ∧
        commentedFile.textOf name = "B" ∧
        written.bareType.qualifier?.map commentedFile.textOf = some "n" := by
  let usage := commentedFile.root.preorder.get ⟨6, by decide +kernel⟩
  let written := usage.usedType?.get (by decide +kernel)
  let name := written.bareType.typeName?.get (by decide +kernel)
  have laid : commentedFile.root.LaidOut := by decide +kernel
  have tokens : commentedFile.root.Tokens := ⟨by decide +kernel, by decide +kernel⟩
  have husage : usage ∈ commentedFile.root.preorder := List.get_mem _ _
  have hwritten : usage.usedType? = some written := (Option.some_get _).symm
  have hname : written.bareType.typeName? = some name := (Option.some_get _).symm
  have plain : commentedFile.root.PlainBetween written.fullStart name.start := by decide +kernel
  obtain ⟨anchor, hanchor, _, hreference⟩ :=
    probe_finds_written_type laid tokens husage hwritten hname plain
  have hstart : usage.usageAnchor? = some 16 := by decide +kernel
  obtain rfl : 16 = anchor := Option.some.inj (hstart.symm.trans hanchor)
  exact ⟨usage, written, name, ⟨laid, tokens, husage, hwritten, hname, plain⟩, 16, hstart,
    hreference (by decide +kernel) (by decide +kernel), by decide +kernel, by decide +kernel⟩

end SourceFile

open Outline in
/-- `interface A extends M { x:B; y: C }`, and interfaces `B` and `C`. -/
def tightTree : Node :=
  let property := inner .propertySignature 24 27 []
    [inner (.other "property_identifier") 24 25 [.name] [],
      inner .typeAscription 25 27 [.type] [mark ":" 25, inner .typeIdentifier 26 27 [] []]]
  let body := inner (.other "interface_body") 22 35 [.body]
    [mark "\x7b" 22, property, mark ";" 27, fieldNode ⟨'y', some 'C'⟩ 29, mark "\x7d" 34]
  let clause := inner .extendsTypeClause 12 21 []
    [mark "extends" 12, inner .typeIdentifier 20 21 [.type] []]
  inner (.other "program") 0 87 []
    (inner .interfaceDeclaration 0 35 []
        [mark "interface" 0, inner .typeIdentifier 10 11 [.name] [], clause, body] ::
      nodesFrom 36 [⟨'B', none, [⟨'b', none⟩]⟩, ⟨'C', none, [⟨'c', none⟩]⟩])

def tightProgram : Program :=
  let text := "interface A extends M \x7b x:B; y: C \x7d\n" ++
    "interface B \x7b b: string \x7d\ninterface C \x7b c: string \x7d"
  Program.empty.store (.ofText "/ws/a.ts") text tightTree

set_option maxRecDepth 10000 in
/-- The question about `x:B` falls on `C`. -/
theorem probe_leaves_written_type :
    ∃ file ∈ tightProgram.sources, ∃ usage ∈ file.root.preorder, ∃ written name reference,
      usage.usedType? = some written ∧ (Site.mk file written).typeKind = .reference ∧
      written.bareType.typeName? = some name ∧ usage.usageAnchor? = some 26 ∧
      file.referenceAt? (probeOffset 26) = some reference ∧
      file.textOf name = "B" ∧ file.textOf reference.name = "C" ∧
      ¬Focus.Within written reference.name ∧
      (tightProgram.lookup ⟨file, usage⟩).sites.map Site.nameText? = [some "C"] := by
  let file := tightProgram.sources.get ⟨0, by decide +kernel⟩
  let usage := file.root.preorder.get ⟨9, by decide +kernel⟩
  let written := usage.usedType?.get (by decide +kernel)
  let name := written.bareType.typeName?.get (by decide +kernel)
  let reference := (file.referenceAt? (probeOffset 26)).get (by decide +kernel)
  have hleaf : written.node.children = [] := by decide +kernel
  have hapart : reference.name.start ≠ written.start := by decide +kernel
  refine ⟨file, List.get_mem _ _, usage, List.get_mem _ _, written, name, reference,
    (Option.some_get _).symm, by decide +kernel, (Option.some_get _).symm, by decide +kernel,
    (Option.some_get _).symm, by decide +kernel, by decide +kernel, ?_, by decide +kernel⟩
  intro hwithin
  exact hapart (congrArg Focus.start (Focus.eq_of_within_leaf hleaf hwithin))

end Keypath
