import Keypath.Proofs.Layout
import Keypath.Proofs.Outline

/-!
Full starts and tokens.

A full start is looked for among the earlier siblings of a node and of the nodes around it. In a
tree whose inner nodes end where their last child ends, this is the end of the token before the
node: all that stands between the sibling that is found and the node are extras, and the last token
inside of that sibling ends where the sibling does.
-/

namespace Keypath.Tree.Focus

/-- Tokens are the leaves that are no extras. -/
def isToken (focus : Focus) : Bool := focus.node.children.isEmpty && !focus.label.extra

/-- Where the last token among some places ends; zero if there is none. -/
def tokensStop (places : List Focus) : Nat :=
  match (places.filter isToken).getLast? with
  | some token => token.stop
  | none => 0

/-- Extras are leaves, and an inner node that is no extra ends with its last child, which is no
extra either. The root is excepted, for it also covers what stands behind the last statement. -/
structure EndsInTokens (root : Focus) : Prop where
  leaf_of_extra : ∀ place ∈ root.preorder, place.label.extra = true → place.node.children = []
  last_child : ∀ place ∈ root.preorder, place.label.extra = false → place.above ≠ [] →
    ∀ last ∈ place.node.children.getLast?,
      last.label.extra = false ∧ last.label.stop = place.stop

instance (root : Focus) : Decidable root.EndsInTokens :=
  decidable_of_iff
    ((∀ place ∈ root.preorder, place.label.extra = true → place.node.children = []) ∧
      ∀ place ∈ root.preorder, place.label.extra = false → place.above ≠ [] →
        ∀ last ∈ place.node.children.getLast?,
          last.label.extra = false ∧ last.label.stop = place.stop)
    ⟨fun h => ⟨h.1, h.2⟩, fun h => ⟨h.leaf_of_extra, h.last_child⟩⟩

/-! Tokens in a list of places. -/

theorem tokensStop_append_of_none {places more : List Focus}
    (h : ∀ place ∈ more, place.isToken = false) :
    tokensStop (places ++ more) = tokensStop places := by
  have hmore : more.filter isToken = [] :=
    List.filter_eq_nil_iff.2 fun place hplace => by simp [h place hplace]
  rw [tokensStop, List.filter_append, hmore, List.append_nil, tokensStop]

theorem tokensStop_append_of_last {places more : List Focus} {token : Focus}
    (h : (more.filter isToken).getLast? = some token) :
    tokensStop (places ++ more) = token.stop := by
  rw [tokensStop, List.filter_append, List.getLast?_append, h]
  rfl

theorem children_of_isToken {focus : Focus} (h : focus.isToken = true) :
    focus.node.children = [] := by
  rw [isToken, Bool.and_eq_true] at h
  exact List.isEmpty_iff.1 h.1

theorem above_ne_nil_of_mem_children {focus child : Focus} (h : child ∈ focus.children) :
    child.above ≠ [] := by
  obtain ⟨frame, habove, _⟩ := above_of_mem_childrenAfter h
  rw [habove]
  exact List.cons_ne_nil _ _

theorem isToken_eq_false_of_mem_children {focus child : Focus} (h : child ∈ focus.children) :
    focus.isToken = false := by
  refine eq_false_of_ne_true fun htoken => ?_
  have hnode := node_mem_of_mem_children h
  rw [children_of_isToken htoken] at hnode
  cases hnode

variable {root focus child place : Focus}

theorem EndsInTokens.within (ends : root.EndsInTokens) (h : Within root place) :
    place.EndsInTokens where
  leaf_of_extra := fun inner hinner =>
    ends.leaf_of_extra inner (mem_preorder.2 (h.trans (mem_preorder.1 hinner)))
  last_child := fun inner hinner =>
    ends.last_child inner (mem_preorder.2 (h.trans (mem_preorder.1 hinner)))

theorem EndsInTokens.not_token (ends : root.EndsInTokens) {places : List Focus}
    (hplaces : ∀ place ∈ places, place ∈ root.preorder)
    (hextra : ∀ place ∈ places, place.label.extra = true) :
    ∀ place ∈ places.flatMap preorder, place.isToken = false := by
  intro inner hinner
  obtain ⟨place, hplace, hinner⟩ := List.mem_flatMap.1 hinner
  have hleaf := ends.leaf_of_extra place (hplaces place hplace) (hextra place hplace)
  rw [eq_of_within_leaf hleaf (mem_preorder.1 hinner), isToken, hextra place hplace, Bool.not_true,
    Bool.and_false]

theorem EndsInTokens.exists_last_token (ends : focus.EndsInTokens)
    (hextra : focus.label.extra = false) (habove : focus.above ≠ []) :
    ∃ token, (focus.preorder.filter isToken).getLast? = some token ∧ token.stop = focus.stop := by
  induction focus using children_induction with
  | step focus ih =>
      have hself : focus ∈ focus.preorder := mem_preorder.2 .refl
      have hnodes := focus.map_node_children
      rw [preorder_eq]
      rcases List.eq_nil_or_concat focus.children with hchildren | ⟨front, last, hchildren⟩
      · rw [hchildren] at hnodes ⊢
        have htoken : focus.isToken = true := by
          rw [isToken, ← hnodes, hextra]
          rfl
        rw [List.flatMap_nil, List.filter_cons_of_pos htoken]
        exact ⟨focus, rfl, rfl⟩
      · rw [List.concat_eq_append] at hchildren
        rw [hchildren, List.map_append] at hnodes
        have hlast : last ∈ focus.children := by simp [hchildren]
        have hend := ends.last_child focus hself hextra habove last.node (by simp [← hnodes])
        obtain ⟨token, htoken, hstop⟩ := ih last hlast (ends.within (.single hlast)) hend.1
          (above_ne_nil_of_mem_children hlast)
        refine ⟨token, ?_, hstop.trans hend.2⟩
        rw [hchildren, List.flatMap_append, List.flatMap_cons, List.flatMap_nil, List.append_nil,
          ← List.cons_append, List.filter_append, List.getLast?_append, htoken]
        rfl

/-! Places and what stands before them. -/

theorem above_of_split_childrenAfter {label : Label} {above : List Frame} {before nodes : List Node}
    {earlier later : List Focus}
    (h : childrenAfter label above before nodes = earlier ++ child :: later) :
    child.above =
      ⟨label, (earlier.map Focus.node).reverse ++ before, later.map Focus.node⟩ :: above := by
  induction earlier generalizing before nodes with
  | nil =>
      cases nodes with
      | nil => cases h
      | cons first rest =>
          obtain ⟨rfl, rfl⟩ := List.cons.inj h
          simp [map_node_childrenAfter]
  | cons sibling earlier ih =>
      cases nodes with
      | nil => cases h
      | cons first rest =>
          obtain ⟨rfl, hrest⟩ := List.cons.inj h
          simpa using ih hrest

theorem EndsInTokens.fullStart_child (ends : focus.EndsInTokens)
    {before earlier later : List Focus}
    (hfocus : focus.fullStart = tokensStop before)
    (hsplit : focus.children = earlier ++ child :: later) :
    child.fullStart = tokensStop (before ++ focus :: earlier.flatMap preorder) := by
  have hmem : ∀ place ∈ earlier, place ∈ focus.children := fun place hplace => by
    simp [hsplit, hplace]
  have hpreorder : ∀ place ∈ earlier, place ∈ focus.preorder := fun place hplace =>
    mem_preorder.2 (.single (hmem place hplace))
  have hchild : child ∈ focus.children := by simp [hsplit]
  have hnotToken := isToken_eq_false_of_mem_children hchild
  rw [fullStart, above_of_split_childrenAfter hsplit, fullStartUnder, List.append_nil]
  rcases split_extras earlier with
    ⟨front, sibling, gap, rfl, hsibling, hgap, hfind⟩ | ⟨hall, hfind⟩
  · have hwithin := hmem sibling (by simp)
    obtain ⟨token, htoken, hstop⟩ := (ends.within (.single hwithin)).exists_last_token hsibling
      (above_ne_nil_of_mem_children hwithin)
    -- what stands between the sibling and the child are extras
    have hnone := ends.not_token (fun place hplace => hpreorder place (by simp [hplace]))
      fun place hplace => (hgap place hplace).1
    have hlist : before ++ focus :: (front ++ sibling :: gap).flatMap preorder =
        (before ++ focus :: front.flatMap preorder ++ sibling.preorder) ++
          gap.flatMap preorder := by simp
    rw [hfind, hlist, tokensStop_append_of_none hnone, tokensStop_append_of_last htoken, hstop]
  · have hnone : ∀ place ∈ focus :: earlier.flatMap preorder, place.isToken = false := by
      intro place hplace
      rcases List.mem_cons.1 hplace with rfl | hplace
      · exact hnotToken
      · exact ends.not_token hpreorder hall place hplace
    rw [hfind, tokensStop_append_of_none hnone, ← hfocus, fullStart]

theorem split_flatMap {α β : Type} {items : List α} {parts : α → List β} {earlier later : List β}
    {part : β} (h : items.flatMap parts = earlier ++ part :: later) :
    ∃ front item rest inner outer, items = front ++ item :: rest ∧
      parts item = inner ++ part :: outer ∧ earlier = front.flatMap parts ++ inner := by
  induction items generalizing earlier with
  | nil => simp at h
  | cons first rest ih =>
      rw [List.flatMap_cons] at h
      rcases List.append_eq_append_iff.1 h with ⟨middle, rfl, hrest⟩ | ⟨middle, hfirst, hmiddle⟩
      · obtain ⟨front, item, others, inner, outer, rfl, hparts, rfl⟩ := ih hrest
        exact ⟨first :: front, item, others, inner, outer, rfl, hparts, by simp⟩
      · cases middle with
        | nil =>
            have hnext : rest.flatMap parts = [] ++ part :: later := hmiddle.symm
            obtain ⟨front, item, others, inner, outer, rfl, hparts, hnil⟩ := ih hnext
            refine ⟨first :: front, item, others, inner, outer, rfl, hparts, ?_⟩
            rw [List.append_nil] at hfirst
            rw [List.flatMap_cons, List.append_assoc, ← hnil, List.append_nil, hfirst]
        | cons next others =>
            obtain ⟨rfl, rfl⟩ := List.cons.inj hmiddle
            exact ⟨[], first, rest, earlier, others, rfl, hfirst, rfl⟩

theorem EndsInTokens.fullStart_of_split (ends : focus.EndsInTokens)
    {before earlier later : List Focus} (hfocus : focus.fullStart = tokensStop before)
    (hsplit : focus.preorder = earlier ++ place :: later) :
    place.fullStart = tokensStop (before ++ earlier) := by
  induction focus using children_induction generalizing before earlier later with
  | step focus ih =>
      rw [preorder_eq] at hsplit
      cases earlier with
      | nil =>
          obtain ⟨rfl, _⟩ := List.cons.inj hsplit
          rw [List.append_nil, hfocus]
      | cons first earlier =>
          obtain ⟨rfl, hrest⟩ := List.cons.inj hsplit
          obtain ⟨front, child, rest, inner, outer, hchildren, hinner, rfl⟩ := split_flatMap hrest
          have hchild : child ∈ focus.children := by simp [hchildren]
          have hstart := ends.fullStart_child hfocus hchildren
          rw [ih child hchild (ends.within (.single hchild)) hstart hinner]
          simp

/-! The order of full starts. -/

theorem LaidOut.tokensStop_le (laid : root.LaidOut) {earlier more later : List Focus}
    (hsplit : root.preorder = earlier ++ more ++ later) :
    tokensStop earlier ≤ tokensStop (earlier ++ more) := by
  cases hmore : (more.filter isToken).getLast? with
  | none =>
      rw [List.getLast?_eq_none_iff, List.filter_eq_nil_iff] at hmore
      have hnone : ∀ place ∈ more, place.isToken = false := fun place hplace => by
        simpa using hmore place hplace
      exact Nat.le_of_eq (tokensStop_append_of_none hnone).symm
  | some token =>
      rw [tokensStop_append_of_last hmore, tokensStop]
      cases hearlier : (earlier.filter isToken).getLast? with
      | none => exact Nat.zero_le _
      | some previous =>
          have htoken := (List.mem_filter.1 (List.mem_of_getLast? hmore)).1
          obtain ⟨hprevious, hisToken⟩ := List.mem_filter.1 (List.mem_of_getLast? hearlier)
          have hordered := laid.pairwise_preorder
          rw [hsplit, List.pairwise_append, List.pairwise_append] at hordered
          have hmem : token ∈ root.preorder := by simp [hsplit, htoken]
          have hspan := laid.span_within (mem_preorder.1 hmem)
          change previous.stop ≤ token.stop
          rcases hordered.1.2.2 previous hprevious token htoken with hinside | hapart
          · -- a token has nothing inside of it
            have hsame := eq_of_within_leaf (children_of_isToken hisToken) hinside.to_reflTransGen
            exact Nat.le_of_eq (congrArg Focus.stop hsame.symm)
          · omega

theorem pairwise_of_splits {α : Type} {related : α → α → Prop} {items : List α}
    (h : ∀ earlier item between other later,
      items = earlier ++ item :: between ++ other :: later → related item other) :
    items.Pairwise related := by
  induction items with
  | nil => exact .nil
  | cons first rest ih =>
      refine List.pairwise_cons.2 ⟨?_, ih ?_⟩
      · intro other hother
        obtain ⟨between, later, rfl⟩ := List.append_of_mem hother
        exact h [] first between other later rfl
      · intro earlier item between other later hrest
        exact h (first :: earlier) item between other later (by rw [hrest]; rfl)

/-- In a tree that is laid out, with extras for leaves and inner nodes that end with their last
child, the full start of a node is the end of the last leaf before it in pre-order that is no extra,
and zero if there is none. It is never behind the start of the node, and it never gets smaller from
one node to a later one. -/
theorem fullStart_eq_tokensStop (tree : Node) (laid : (ofRoot tree).LaidOut)
    (ends : (ofRoot tree).EndsInTokens) :
    (∀ earlier place later, (ofRoot tree).preorder = earlier ++ place :: later →
      place.fullStart = tokensStop earlier) ∧
    (∀ place ∈ (ofRoot tree).preorder, place.fullStart ≤ place.start) ∧
    (ofRoot tree).preorder.Pairwise fun place later => place.fullStart ≤ later.fullStart := by
  have hroot : (ofRoot tree).fullStart = tokensStop [] := rfl
  have hstarts : ∀ earlier place later, (ofRoot tree).preorder = earlier ++ place :: later →
      place.fullStart = tokensStop earlier := fun earlier place later hsplit =>
    ends.fullStart_of_split hroot hsplit
  refine ⟨hstarts, ?_, pairwise_of_splits ?_⟩
  · intro place hplace
    exact laid.fullStart_le_start rfl (mem_preorder.1 hplace)
  · intro earlier place between other later hsplit
    rw [hstarts earlier place (between ++ other :: later) (by rw [hsplit]; simp),
      hstarts (earlier ++ place :: between) other later hsplit]
    exact laid.tokensStop_le hsplit

/-- `interface /* */ A { } // x`, with one comment in front of the name and one behind the last
statement. -/
def commentedTree : Node :=
  let comment (start stop : Nat) : Node :=
    ⟨⟨.other "comment", start, stop, true, true, false, []⟩, []⟩
  Outline.inner (.other "program") 0 26 []
    [Outline.inner .interfaceDeclaration 0 21 []
      [Outline.mark "interface" 0, comment 10 15, Outline.inner .typeIdentifier 16 17 [.name] [],
        Outline.inner (.other "interface_body") 18 21 [.body]
          [Outline.mark "\x7b" 18, Outline.mark "\x7d" 20]],
      comment 22 26]

theorem fullStart_eq_tokensStop_commented :
    (ofRoot commentedTree).LaidOut ∧ (ofRoot commentedTree).EndsInTokens ∧
    ∃ earlier place later, (ofRoot commentedTree).preorder = earlier ++ place :: later ∧
      place.kind = .typeIdentifier ∧ place.start = 16 ∧ place.fullStart = tokensStop earlier ∧
      tokensStop earlier = 9 := by
  have laid : (ofRoot commentedTree).LaidOut := by decide +kernel
  have ends : (ofRoot commentedTree).EndsInTokens := by decide +kernel
  obtain ⟨hstarts, -, -⟩ := fullStart_eq_tokensStop commentedTree laid ends
  have hsplit : (ofRoot commentedTree).preorder =
      (ofRoot commentedTree).preorder.take 4 ++
        (ofRoot commentedTree).preorder.get ⟨4, by decide +kernel⟩ ::
          (ofRoot commentedTree).preorder.drop 5 := by simp
  exact ⟨laid, ends, _, _, _, hsplit, by decide +kernel, by decide +kernel,
    hstarts _ _ _ hsplit, by decide +kernel⟩

end Keypath.Tree.Focus
