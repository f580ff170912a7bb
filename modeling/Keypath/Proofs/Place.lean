import Mathlib.Logic.Relation
import Keypath.Tree.Shape

namespace Keypath.Tree

/-! Places of one tree. What lies inside a place is a place of the same tree again, and an address
names at most one place of a tree. -/

def Focus.whole : (node : Node) → (above : List Frame) → Node
  | node, [] => node
  | node, frame :: outer => Focus.whole (frame.around node) outer

mutual

theorem Node.whole_of_mem_walkFrom {enter : Label → Bool} {above : List Frame} {place : Focus} :
    (node : Node) → place ∈ node.walkFrom enter above →
      Focus.whole place.node place.above = Focus.whole node above
  | ⟨label, children⟩, h => by
      simp only [Node.walkFrom, List.mem_cons] at h
      rcases h with rfl | h
      · rfl
      · exact Node.whole_of_mem_walkChildren [] children h

theorem Node.whole_of_mem_walkChildren {enter : Label → Bool} {label : Label}
    {above : List Frame} {place : Focus} (before : List Node) :
    (nodes : List Node) → place ∈ Node.walkChildren enter label above before nodes →
      Focus.whole place.node place.above =
        Focus.whole ⟨label, before.reverse ++ nodes⟩ above
  | [], h => by simp [Node.walkChildren] at h
  | child :: later, h => by
      simp only [Node.walkChildren, List.mem_append] at h
      rcases h with h | h
      · split at h
        · exact Node.whole_of_mem_walkFrom child h
        · simp at h
      · have hlater := Node.whole_of_mem_walkChildren (child :: before) later h
        simpa using hlater

end

mutual

theorem Node.child_mem_walkFrom {above : List Frame} {place child : Focus}
    (hchild : child ∈ place.children) :
    (node : Node) → place ∈ node.walkFrom (fun _ => true) above →
      child ∈ node.walkFrom (fun _ => true) above
  | ⟨label, children⟩, h => by
      simp only [Node.walkFrom, List.mem_cons] at h ⊢
      right
      rcases h with rfl | h
      · exact Node.mem_walkChildren_of_mem_childrenAfter [] children hchild
      · exact Node.child_mem_walkChildren hchild [] children h

theorem Node.child_mem_walkChildren {label : Label} {above : List Frame} {place child : Focus}
    (hchild : child ∈ place.children) (before : List Node) :
    (nodes : List Node) → place ∈ Node.walkChildren (fun _ => true) label above before nodes →
      child ∈ Node.walkChildren (fun _ => true) label above before nodes
  | [], h => by simp [Node.walkChildren] at h
  | first :: later, h => by
      simp only [Node.walkChildren, if_true, List.mem_append] at h ⊢
      rcases h with h | h
      · exact .inl (Node.child_mem_walkFrom hchild first h)
      · exact .inr (Node.child_mem_walkChildren hchild (first :: before) later h)

theorem Node.mem_walkChildren_of_mem_childrenAfter {label : Label} {above : List Frame}
    {child : Focus} (before : List Node) :
    (nodes : List Node) → child ∈ Focus.childrenAfter label above before nodes →
      child ∈ Node.walkChildren (fun _ => true) label above before nodes
  | [], h => by simp [Focus.childrenAfter] at h
  | ⟨firstLabel, grandchildren⟩ :: later, h => by
      simp only [Focus.childrenAfter, List.mem_cons] at h
      simp only [Node.walkChildren, Node.walkFrom, if_true, List.mem_append, List.mem_cons]
      rcases h with rfl | h
      · exact .inl (.inl rfl)
      · exact .inr (Node.mem_walkChildren_of_mem_childrenAfter _ later h)

end

mutual

theorem Node.length_walkFrom (above : List Frame) :
    (node : Node) → (node.walkFrom (fun _ => true) above).length = node.size
  | ⟨label, children⟩ => by
      simp only [Node.walkFrom, Node.size, List.length_cons]
      rw [Node.length_walkChildren label above [] children]

theorem Node.length_walkChildren (label : Label) (above : List Frame) (before : List Node) :
    (nodes : List Node) →
      (Node.walkChildren (fun _ => true) label above before nodes).length = Node.sizeAll nodes
  | [] => rfl
  | child :: later => by
      simp only [Node.walkChildren, Node.sizeAll, if_true, List.length_append]
      rw [Node.length_walkFrom _ child, Node.length_walkChildren label above _ later]

end

mutual

theorem Node.size_le_of_mem_walkFrom {enter : Label → Bool} {above : List Frame}
    {place : Focus} :
    (node : Node) → place ∈ node.walkFrom enter above → place.size ≤ node.size
  | ⟨label, children⟩, h => by
      simp only [Node.walkFrom, List.mem_cons] at h
      rcases h with rfl | h
      · exact Nat.le_refl _
      · have hchildren := Node.size_le_of_mem_walkChildren [] children h
        simp only [Node.size]
        omega

theorem Node.size_le_of_mem_walkChildren {enter : Label → Bool} {label : Label}
    {above : List Frame} {place : Focus} (before : List Node) :
    (nodes : List Node) → place ∈ Node.walkChildren enter label above before nodes →
      place.size ≤ Node.sizeAll nodes
  | [], h => by simp [Node.walkChildren] at h
  | child :: later, h => by
      simp only [Node.walkChildren, List.mem_append] at h
      simp only [Node.sizeAll]
      rcases h with h | h
      · split at h
        · have hchild := Node.size_le_of_mem_walkFrom child h
          omega
        · simp at h
      · have hlater := Node.size_le_of_mem_walkChildren (child :: before) later h
        omega

end

namespace Focus

theorem mem_preorder_of_mem_children {root place child : Focus} (hplace : place ∈ root.preorder)
    (hchild : child ∈ place.children) : child ∈ root.preorder :=
  Node.child_mem_walkFrom hchild root.node hplace

theorem size_le_of_mem_preorder {root place : Focus} (h : place ∈ root.preorder) :
    place.size ≤ root.size :=
  Node.size_le_of_mem_walkFrom root.node h

theorem length_preorder (focus : Focus) : focus.preorder.length = focus.size :=
  Node.length_walkFrom focus.above focus.node

theorem eq_of_whole_eq {node other : Node} {above beyond : List Frame}
    (hwhole : whole node above = whole other beyond)
    (haddress : address ⟨node, above⟩ = address ⟨other, beyond⟩) :
    node = other ∧ above = beyond := by
  induction above generalizing node other beyond with
  | nil =>
      cases beyond with
      | nil => exact ⟨hwhole, rfl⟩
      | cons _ _ => simp [address] at haddress
  | cons frame outer ih =>
      cases beyond with
      | nil => simp [address] at haddress
      | cons frame' outer' =>
          simp only [address, List.map_cons, List.cons.injEq] at haddress
          obtain ⟨hlength, houter⟩ := haddress
          have hparents : whole (frame.around node) outer =
              whole (frame'.around other) outer' := hwhole
          obtain ⟨haround, rfl⟩ := ih hparents houter
          -- the two frames hold their child at the same position of the same list
          simp only [Frame.around, Node.mk.injEq] at haround
          obtain ⟨hlabel, hchildren⟩ := haround
          obtain ⟨hbefore, hrest⟩ := List.append_inj hchildren (by simpa using hlength)
          obtain ⟨rfl, hafter⟩ := List.cons.inj hrest
          refine ⟨rfl, ?_⟩
          obtain ⟨label, before, after⟩ := frame
          obtain ⟨label', before', after'⟩ := frame'
          simp_all

theorem eq_of_address_eq {root place other : Focus} (hplace : place ∈ root.preorder)
    (hother : other ∈ root.preorder) (h : place.address = other.address) : place = other := by
  have hwhole : whole place.node place.above = whole other.node other.above :=
    (Node.whole_of_mem_walkFrom root.node hplace).trans
      (Node.whole_of_mem_walkFrom root.node hother).symm
  obtain ⟨hnode, habove⟩ := eq_of_whole_eq hwhole h
  obtain ⟨node, above⟩ := place
  obtain ⟨node', above'⟩ := other
  exact congrArg₂ Focus.mk hnode habove

/-! Places inside a place. -/

/-- One or more steps from parent to child. -/
def Inside (outer inner : Focus) : Prop :=
  Relation.TransGen (fun place child => child ∈ place.children) outer inner

def Within (outer inner : Focus) : Prop :=
  Relation.ReflTransGen (fun place child => child ∈ place.children) outer inner

theorem Within.mem_preorder {root outer inner : Focus} (h : Within outer inner)
    (houter : outer ∈ root.preorder) : inner ∈ root.preorder := by
  induction h with
  | refl => exact houter
  | tail _ hchild ih => exact mem_preorder_of_mem_children ih hchild

theorem Within.size_le {outer inner : Focus} (h : Within outer inner) :
    inner.size ≤ outer.size := by
  induction h with
  | refl => exact Nat.le_refl _
  | tail _ hchild ih => exact Nat.le_trans (Nat.le_of_lt (size_lt_of_mem_children hchild)) ih

theorem Inside.size_lt {outer inner : Focus} (h : Inside outer inner) :
    inner.size < outer.size := by
  obtain ⟨middle, hwithin, hchild⟩ := Relation.TransGen.tail'_iff.1 h
  exact Nat.lt_of_lt_of_le (size_lt_of_mem_children hchild) (Within.size_le hwithin)

theorem Inside.mem_preorder {root outer inner : Focus} (h : Inside outer inner)
    (houter : outer ∈ root.preorder) : inner ∈ root.preorder :=
  Within.mem_preorder h.to_reflTransGen houter

theorem inside_of_mem_children {focus child : Focus} (h : child ∈ focus.children) :
    Inside focus child :=
  .single h

theorem inside_of_mem_members {focus child : Focus} (h : child ∈ focus.members) :
    Inside focus child :=
  .single (mem_children_of_mem_members h)

theorem inside_of_child? {focus child : Focus} {role : Role}
    (h : focus.child? role = some child) : Inside focus child :=
  .single (List.mem_of_find?_eq_some h)

theorem mem_members_of_firstMember? {focus child : Focus} (h : focus.firstMember? = some child) :
    child ∈ focus.members :=
  List.mem_of_mem_head? h

theorem within_bareType (focus : Focus) : Within focus focus.bareType := by
  fun_induction bareType focus with
  | case1 focus _ inner hinner ih =>
      exact .head (mem_children_of_mem_members (mem_members_of_firstMember? hinner)) ih
  | case2 => exact .refl
  | case3 focus _ inner hinner ih =>
      exact .head (mem_children_of_mem_members (mem_members_of_firstMember? hinner)) ih
  | case4 => exact .refl
  | case5 => exact .refl

theorem inside_of_annotatedType? {focus written : Focus}
    (h : focus.annotatedType? = some written) : Inside focus written := by
  unfold annotatedType? at h
  split at h
  · rename_i annotation hannotation
    split at h
    · exact (inside_of_child? hannotation).trans
        (inside_of_mem_members (mem_members_of_firstMember? h))
    · obtain rfl := Option.some.inj h
      exact inside_of_child? hannotation
  · cases h

theorem inside_of_mem_heritageEntries {focus entry : Focus} (h : entry ∈ focus.heritageEntries) :
    Inside focus entry := by
  simp only [heritageEntries, namedChildren, List.mem_flatMap, List.mem_filter] at h
  obtain ⟨clause, ⟨⟨hclause, _⟩, _⟩, hentry⟩ := h
  exact (inside_of_mem_children hclause).trans (inside_of_mem_members hentry)

theorem above_of_mem_childrenAfter {label : Label} {above : List Frame} {child : Focus}
    {before nodes : List Node} (h : child ∈ childrenAfter label above before nodes) :
    ∃ frame, child.above = frame :: above ∧ frame.label = label := by
  induction nodes generalizing before with
  | nil => cases h
  | cons first later ih =>
      rcases List.mem_cons.1 h with rfl | h
      · exact ⟨_, rfl, rfl⟩
      · exact ih h

theorem isHeritageEntry_of_mem_heritageEntries {focus entry : Focus}
    (h : entry ∈ focus.heritageEntries) : entry.isHeritageEntry = true := by
  simp only [heritageEntries, List.mem_flatMap, List.mem_filter] at h
  obtain ⟨clause, ⟨_, hclause⟩, hentry⟩ := h
  obtain ⟨hchild, hmember⟩ := List.mem_filter.1 hentry
  obtain ⟨frame, habove, hlabel⟩ := above_of_mem_childrenAfter hchild
  have hkind : frame.label.kind = .extendsTypeClause := by
    rw [hlabel]
    simpa [isHeritageClause, kind] using hclause
  simp [isHeritageEntry, hmember, habove, hkind]

theorem inside_of_mem_bodyMembers {focus member : Focus} (h : member ∈ focus.bodyMembers) :
    Inside focus member := by
  unfold bodyMembers container? at h
  by_cases hkind : focus.kind = .interfaceDeclaration
  · rw [if_pos hkind] at h
    cases hbody : focus.child? .body with
    | none => simp [hbody] at h
    | some body =>
        rw [hbody] at h
        exact (inside_of_child? hbody).trans (inside_of_mem_members h)
  · rw [if_neg hkind] at h
    exact inside_of_mem_members h

end Focus

end Keypath.Tree
