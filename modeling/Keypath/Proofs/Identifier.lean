import Keypath.Definition
import Keypath.Proofs.Layout

/-!
The identifier at an offset is the first one in pre-order that ends behind it.

The search goes down to a node at the offset and from there upwards again. On the way down it leaves
nothing behind it that it looks for, and the subtrees it does not enter hold nothing of the kind.
-/

namespace Keypath

open Keypath.Tree

namespace Tree.Focus

variable {p : Focus → Bool} {root focus parent child place : Focus}

/-! First hits in pre-order. -/

theorem find?_preorder (focus : Focus) (p : Focus → Bool) :
    focus.preorder.find? p =
      if p focus then some focus
      else focus.children.findSome? fun child => child.preorder.find? p := by
  rw [preorder_eq, List.find?_cons, List.find?_flatMap]
  cases p focus <;> rfl

theorem findSome?_filter_enter {enter : Label → Bool} {children : List Focus}
    (h : ∀ child ∈ children,
      (enter child.label = true → (child.walk enter).find? p = child.preorder.find? p) ∧
      (enter child.label = false → child.preorder.find? p = none)) :
    ((children.filter fun child => enter child.label).findSome? fun child =>
        (child.walk enter).find? p) =
      children.findSome? fun child => child.preorder.find? p := by
  induction children with
  | nil => rfl
  | cons child later ih =>
      obtain ⟨hentered, hpassed⟩ := h child (by simp)
      have ih := ih fun other hother => h other (by simp [hother])
      cases henter : enter child.label with
      | true =>
          simp only [List.filter_cons, henter, if_true, List.findSome?_cons, hentered henter, ih]
      | false =>
          simp only [List.filter_cons, henter, Bool.false_eq_true, if_false, List.findSome?_cons,
            hpassed henter, ih]

theorem find?_walk {enter : Label → Bool}
    (h : ∀ place, Inside focus place → enter place.label = false → place.preorder.find? p = none) :
    (focus.walk enter).find? p = focus.preorder.find? p := by
  induction focus using children_induction with
  | step focus ih =>
      rw [find?_preorder, walk_eq, List.find?_cons, List.find?_flatMap, findSome?_filter_enter]
      · cases p focus <;> rfl
      · intro child hchild
        constructor
        · intro _
          apply ih child hchild
          intro place hplace
          exact h place (.head hchild hplace)
        · exact h child (.single hchild)

/-- No hit comes before the place: on the way from the root to it, neither the nodes passed through
nor the subtrees to their left hold one. -/
inductive NoneBefore (p : Focus → Bool) (root : Focus) : Focus → Prop where
  | root : NoneBefore p root root
  | child {parent child : Focus} {earlier later : List Focus} (before : NoneBefore p root parent)
      (here : p parent = false) (split : parent.children = earlier ++ child :: later)
      (left : ∀ sibling ∈ earlier, sibling.preorder.find? p = none) : NoneBefore p root child

theorem NoneBefore.trans (houter : NoneBefore p root parent) (h : NoneBefore p parent place) :
    NoneBefore p root place := by
  induction h with
  | root => exact houter
  | child _ here split left ih => exact .child ih here split left

theorem NoneBefore.find?_eq (h : NoneBefore p root place) {hit : Focus}
    (hhit : place.preorder.find? p = some hit) : root.preorder.find? p = some hit := by
  induction h with
  | root => exact hhit
  | @child parent child earlier later _ here split left ih =>
      apply ih
      have hearlier : (earlier.findSome? fun child => child.preorder.find? p) = none :=
        List.findSome?_eq_none_iff.2 left
      rw [find?_preorder, here, split, List.findSome?_append, hearlier, List.findSome?_cons, hhit]
      rfl

theorem NoneBefore.within (h : NoneBefore p root place) : Within root place := by
  induction h with
  | root => exact .refl
  | child _ _ split _ ih => exact .tail ih (by simp [split])

/-! Identifiers. -/

/-- Nodes without a rule of their own and identifiers are leaves, and identifiers have a rule. -/
structure Tokens (root : Focus) : Prop where
  anonymous : ∀ place ∈ root.preorder, place.label.named = false → place.node.children = []
  identifier : ∀ place ∈ root.preorder, place.kind.isIdentifier = true →
    place.label.named = true ∧ place.node.children = []

def isIdentifierBehind (offset : Nat) (place : Focus) : Bool :=
  place.kind.isIdentifier && offset < place.stop

theorem children_eq_nil (h : focus.node.children = []) : focus.children = [] := by
  rw [← List.map_eq_nil_iff, map_node_children, h]

theorem Tokens.kind_of_mem_children (tokens : root.Tokens) (hparent : parent ∈ root.preorder)
    (hchild : child ∈ parent.children) : parent.kind.isIdentifier = false := by
  by_contra hident
  have hleaf := children_eq_nil
    (tokens.identifier parent hparent (by simpa using hident)).2
  rw [hleaf] at hchild
  cases hchild

theorem Tokens.kind_of_anonymous (tokens : root.Tokens) (hplace : place ∈ root.preorder)
    (hnamed : place.label.named = false) : place.kind.isIdentifier = false := by
  by_contra hident
  have hrule := (tokens.identifier place hplace (by simpa using hident)).1
  rw [hnamed] at hrule
  cases hrule

theorem find?_eq_none_of_leaf {offset : Nat} (hleaf : place.node.children = [])
    (hkind : place.kind.isIdentifier = false) :
    place.preorder.find? (isIdentifierBehind offset) = none := by
  rw [find?_preorder, children_eq_nil hleaf]
  simp [isIdentifierBehind, hkind]

theorem LaidOut.find?_eq_none {offset : Nat} (laid : place.LaidOut) (h : place.stop ≤ offset) :
    place.preorder.find? (isIdentifierBehind offset) = none := by
  rw [List.find?_eq_none]
  intro inner hinner hhit
  have hspan := laid.span_within (mem_preorder.1 hinner)
  simp only [isIdentifierBehind, Bool.and_eq_true, decide_eq_true_eq] at hhit
  omega

theorem identifierAfter?_eq (laid : root.LaidOut) (tokens : root.Tokens)
    (hfocus : Within root focus) (offset : Nat) :
    focus.identifierAfter? offset = focus.preorder.find? (isIdentifierBehind offset) := by
  apply find?_walk
  intro place hplace henter
  have hwithin : Within root place := hfocus.trans hplace.to_reflTransGen
  have hmem := mem_preorder.2 hwithin
  cases hnamed : place.label.named with
  | false =>
      exact find?_eq_none_of_leaf (tokens.anonymous place hmem hnamed)
        (tokens.kind_of_anonymous hmem hnamed)
  | true =>
      apply (laid.within hwithin).find?_eq_none
      simpa [hnamed] using henter

theorem climbToIdentifier?_eq (focus : Focus) (offset : Nat) :
    climbToIdentifier? offset focus.node focus.above =
      (focus.identifierAfter? offset).or
        (focus.parent?.bind fun parent => climbToIdentifier? offset parent.node parent.above) := by
  obtain ⟨node, above⟩ := focus
  cases above with
  | nil =>
      rw [climbToIdentifier?]
      cases identifierAfter? ⟨node, []⟩ offset <;> rfl
  | cons frame outer =>
      rw [climbToIdentifier?]
      cases identifierAfter? ⟨node, frame :: outer⟩ offset <;> rfl

variable {offset : Nat}

theorem NoneBefore.climb (laid : root.LaidOut) (tokens : root.Tokens) (hroot : root.above = [])
    (h : NoneBefore (isIdentifierBehind offset) root focus) :
    climbToIdentifier? offset focus.node focus.above =
      root.preorder.find? (isIdentifierBehind offset) := by
  induction h with
  | root =>
      have hparent : root.parent? = none := by rw [parent?, hroot]
      rw [climbToIdentifier?_eq, hparent, identifierAfter?_eq laid tokens .refl]
      simp
  | @child parent child earlier later before here split left ih =>
      have hchild : child ∈ parent.children := by simp [split]
      have hwithin := before.within.tail hchild
      rw [climbToIdentifier?_eq, parent?_of_mem_children hchild, Option.bind_some, ih,
        identifierAfter?_eq laid tokens hwithin]
      cases hhit : child.preorder.find? (isIdentifierBehind offset) with
      | none => rfl
      | some hit =>
          have hchildBefore : NoneBefore _ root child := .child before here split left
          rw [hchildBefore.find?_eq hhit]
          rfl

theorem le_of_passes (h : child.passes offset = true) : child.stop ≤ offset := by
  simp only [passes, Bool.or_eq_true, Bool.and_eq_true, decide_eq_true_eq] at h
  omega

/-- What lies to the left of the way down ends before the offset. The walk ends at its last named
node, or at a leaf right below it. -/
theorem NoneBefore.descend (laid : root.LaidOut) (tokens : root.Tokens) {last : Focus}
    (hlast : NoneBefore (isIdentifierBehind offset) root last)
    (hfocus : focus = last ∨ focus.node.children = []) :
    NoneBefore (isIdentifierBehind offset) root (focus.descend offset last) := by
  fun_induction Focus.descend offset focus last with
  | case1 => exact hlast
  | case2 => exact hlast
  | case3 focus last child hfind _ ih =>
      obtain ⟨_, earlier, later, split, hpassed⟩ := List.find?_eq_some_iff_append.1 hfind
      have hchild : child ∈ focus.children := by simp [split]
      obtain rfl : focus = last := by
        rcases hfocus with hsame | hleaf
        · exact hsame
        · rw [children_eq_nil hleaf] at hchild
          cases hchild
      have hmem := mem_preorder.2 hlast.within
      cases hnamed : child.label.named with
      | false =>
          simp only [hnamed, Bool.false_eq_true, if_false] at ih ⊢
          exact ih hlast (.inr (tokens.anonymous child
            (mem_preorder_of_mem_children hmem hchild) hnamed))
      | true =>
          simp only [hnamed, if_true] at ih ⊢
          refine ih (.child hlast ?_ split ?_) (.inl rfl)
          · simp [isIdentifierBehind, tokens.kind_of_mem_children hmem hchild]
          · intro sibling hsibling
            have hwithin : Within root sibling := hlast.within.tail (by simp [split, hsibling])
            exact (laid.within hwithin).find?_eq_none
              (le_of_passes (by simpa using hpassed sibling hsibling))

end Tree.Focus

theorem SourceFile.identifierAt?_eq {file : SourceFile} (laid : file.root.LaidOut)
    (tokens : file.root.Tokens) (offset : Nat) :
    file.identifierAt? offset =
      file.root.preorder.find? (Focus.isIdentifierBehind offset) :=
  (Focus.NoneBefore.root.descend laid tokens (.inl rfl)).climb laid tokens rfl

namespace SourceFile

/-- The identifier at an offset is what a plain search of the whole tree finds, and there is none
exactly when all identifiers end at the offset or before it. -/
theorem identifierAt?_eq_plain_search {file : SourceFile} (laid : file.root.LaidOut)
    (tokens : file.root.Tokens) (offset : Nat) :
    file.identifierAt? offset = (file.root.preorder.find? fun place =>
      place.kind.isIdentifier && offset < place.stop) ∧
    (file.identifierAt? offset = none ↔
      ∀ place ∈ file.root.preorder, place.kind.isIdentifier = true → place.stop ≤ offset) := by
  refine ⟨identifierAt?_eq laid tokens offset, ?_⟩
  rw [identifierAt?_eq laid tokens, List.find?_eq_none]
  simp [Focus.isIdentifierBehind]

/-- `type A = ; x`, where the type is missing at 9. -/
def missingTypeFile : SourceFile where
  id := 0
  path := .ofText "/ws/a.ts"
  text := "type A = ; x"
  tree :=
    let leaf (kind : Kind) (start stop : Nat) (named missing : Bool) (roles : List Role) : Node :=
      ⟨⟨kind, start, stop, named, false, missing, roles⟩, []⟩
    ⟨⟨.other "program", 0, 12, true, false, false, []⟩,
      [⟨⟨.typeAliasDeclaration, 0, 10, true, false, false, []⟩,
        [leaf (.other "type") 0 4 false false [], leaf .typeIdentifier 5 6 true false [.name],
          leaf (.other "=") 7 8 false false [], leaf .typeIdentifier 9 9 true true [.value],
          leaf (.other ";") 9 10 false false []]⟩,
      ⟨⟨.other "expression_statement", 11, 12, true, false, false, []⟩,
        [leaf .identifier 11 12 true false []]⟩]⟩

/-- The search goes from the missing type on to `x`, and there is nothing behind the text. -/
theorem identifierAt?_missing_type :
    missingTypeFile.root.LaidOut ∧ missingTypeFile.root.Tokens ∧
    (missingTypeFile.root.namedAt 9).label.missing = true ∧
    (missingTypeFile.identifierAt? 9).map Focus.start = some 11 ∧
    missingTypeFile.identifierAt? 40 = none := by
  have laid : missingTypeFile.root.LaidOut := by decide +kernel
  have tokens : missingTypeFile.root.Tokens := ⟨by decide +kernel, by decide +kernel⟩
  refine ⟨laid, tokens, by decide +kernel, ?_, ?_⟩
  · rw [(identifierAt?_eq_plain_search laid tokens 9).1]
    decide +kernel
  · exact (identifierAt?_eq_plain_search laid tokens 40).2.2 (by decide +kernel)

end SourceFile

end Keypath
