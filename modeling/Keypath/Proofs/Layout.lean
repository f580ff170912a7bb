import Mathlib.Data.List.Induction
import Keypath.Proofs.Place

/-!
How the nodes of a tree lie in its text.

In a tree that is laid out, children stand inside their parent and one behind the other, so two
places of one tree either lie one within the other or apart.
-/

namespace Keypath.Tree

structure Node.LaidOut (node : Node) : Prop where
  span : node.label.start ≤ node.label.stop
  inside : ∀ child ∈ node.children,
    node.label.start ≤ child.label.start ∧ child.label.stop ≤ node.label.stop
  ordered : node.children.Pairwise fun child later => child.label.stop ≤ later.label.start

instance (node : Node) : Decidable node.LaidOut :=
  decidable_of_iff
    (node.label.start ≤ node.label.stop ∧
      (∀ child ∈ node.children,
        node.label.start ≤ child.label.start ∧ child.label.stop ≤ node.label.stop) ∧
      node.children.Pairwise fun child later => child.label.stop ≤ later.label.start)
    ⟨fun h => ⟨h.1, h.2.1, h.2.2⟩, fun h => ⟨h.span, h.inside, h.ordered⟩⟩

namespace Focus

/-! Walks and children. -/

theorem walkChildren_eq (enter : Label → Bool) (label : Label) (above : List Frame)
    (before nodes : List Node) :
    Node.walkChildren enter label above before nodes =
      ((childrenAfter label above before nodes).filter fun child => enter child.label).flatMap
        (walk enter) := by
  induction nodes generalizing before with
  | nil => rfl
  | cons child later ih =>
      simp only [Node.walkChildren, childrenAfter, List.filter_cons, ih]
      by_cases henter : enter child.label = true
      · rw [if_pos henter, if_pos henter, List.flatMap_cons]
        rfl
      · rw [if_neg henter, if_neg henter, List.nil_append]

theorem walk_eq (enter : Label → Bool) (focus : Focus) :
    focus.walk enter =
      focus :: (focus.children.filter fun child => enter child.label).flatMap (walk enter) := by
  obtain ⟨⟨label, children⟩, above⟩ := focus
  rw [walk, Node.walkFrom, walkChildren_eq]
  rfl

theorem preorder_eq (focus : Focus) :
    focus.preorder = focus :: focus.children.flatMap preorder := by
  have hall : (focus.children.filter fun _ => true) = focus.children := by simp
  rw [preorder, walk_eq, hall]
  rfl

theorem children_induction {motive : Focus → Prop}
    (step : ∀ focus, (∀ child ∈ focus.children, motive child) → motive focus) (focus : Focus) :
    motive focus :=
  step focus fun child hchild =>
    have := size_lt_of_mem_children hchild
    children_induction step child
termination_by focus.size

theorem mem_preorder {focus place : Focus} : place ∈ focus.preorder ↔ Within focus place := by
  constructor
  · intro hplace
    induction focus using children_induction with
    | step focus ih =>
        rw [preorder_eq, List.mem_cons, List.mem_flatMap] at hplace
        rcases hplace with rfl | ⟨child, hchild, hplace⟩
        · exact .refl
        · exact .head hchild (ih child hchild hplace)
  · intro hwithin
    apply hwithin.mem_preorder
    rw [preorder_eq]
    exact List.mem_cons_self

theorem split_childrenAfter {label : Label} {above : List Frame} {child : Focus}
    {before nodes : List Node} (h : child ∈ childrenAfter label above before nodes) :
    ∃ earlier later, childrenAfter label above before nodes = earlier ++ child :: later ∧
      child.above =
        ⟨label, (earlier.map Focus.node).reverse ++ before, later.map Focus.node⟩ :: above := by
  induction nodes generalizing before with
  | nil => cases h
  | cons first rest ih =>
      rcases List.mem_cons.1 h with rfl | h
      · exact ⟨[], _, rfl, by simp [map_node_childrenAfter]⟩
      · obtain ⟨earlier, later, hsplit, habove⟩ := ih h
        refine ⟨_ :: earlier, later, congrArg (List.cons _) hsplit, ?_⟩
        simpa using habove

theorem split_children {focus child : Focus} (h : child ∈ focus.children) :
    ∃ earlier later, focus.children = earlier ++ child :: later ∧
      child.above =
        ⟨focus.label, (earlier.map Focus.node).reverse, later.map Focus.node⟩ :: focus.above := by
  simpa [children] using split_childrenAfter h

theorem node_mem_of_mem_children {focus child : Focus} (h : child ∈ focus.children) :
    child.node ∈ focus.node.children := by
  rw [← map_node_children]
  exact List.mem_map_of_mem h

theorem parent?_of_mem_children {focus child : Focus} (h : child ∈ focus.children) :
    child.parent? = some focus := by
  obtain ⟨earlier, later, hsplit, habove⟩ := split_children h
  have hnodes : earlier.map Focus.node ++ child.node :: later.map Focus.node =
      focus.node.children := by
    rw [← map_node_children, hsplit]
    simp
  obtain ⟨⟨label, nodes⟩, above⟩ := focus
  simp only [parent?, habove, Frame.around, List.reverse_reverse, hnodes]

theorem eq_of_within_leaf {place inner : Focus} (leaf : place.node.children = [])
    (h : Within place inner) : inner = place := by
  rcases Relation.ReflTransGen.cases_head h with rfl | ⟨child, hchild, _⟩
  · rfl
  · have hnode := node_mem_of_mem_children hchild
    rw [leaf] at hnode
    cases hnode

/-! Spans in a tree that is laid out. -/

def LaidOut (root : Focus) : Prop := ∀ place ∈ root.preorder, place.node.LaidOut

instance (root : Focus) : Decidable root.LaidOut :=
  inferInstanceAs (Decidable (∀ place ∈ root.preorder, place.node.LaidOut))

variable {root focus child place other : Focus}

theorem LaidOut.within (laid : root.LaidOut) (h : Within root place) : place.LaidOut := by
  intro inner hinner
  exact laid inner (mem_preorder.2 (h.trans (mem_preorder.1 hinner)))

theorem LaidOut.node (laid : focus.LaidOut) : focus.node.LaidOut :=
  laid focus (mem_preorder.2 .refl)

theorem LaidOut.span (laid : focus.LaidOut) : focus.start ≤ focus.stop :=
  laid.node.span

theorem LaidOut.span_child (laid : focus.LaidOut) (h : child ∈ focus.children) :
    focus.start ≤ child.start ∧ child.start ≤ child.stop ∧ child.stop ≤ focus.stop := by
  have hinside := laid.node.inside child.node (node_mem_of_mem_children h)
  exact ⟨hinside.1, (laid.within (.single h)).span, hinside.2⟩

theorem LaidOut.ordered (laid : focus.LaidOut) :
    focus.children.Pairwise fun child later => child.stop ≤ later.start := by
  have hordered := laid.node.ordered
  rw [← map_node_children] at hordered
  exact List.pairwise_map.1 hordered

theorem LaidOut.stop_le_of_split (laid : focus.LaidOut) {earlier later : List Focus}
    (hsplit : focus.children = earlier ++ child :: later) (h : place ∈ earlier) :
    place.stop ≤ child.start := by
  have hordered := laid.ordered
  rw [hsplit, List.pairwise_append] at hordered
  exact hordered.2.2 place h child (by simp)

theorem LaidOut.le_start_of_split (laid : focus.LaidOut) {earlier later : List Focus}
    (hsplit : focus.children = earlier ++ child :: later) (h : place ∈ later) :
    child.stop ≤ place.start := by
  have hordered := laid.ordered
  rw [hsplit, List.pairwise_append, List.pairwise_cons] at hordered
  exact hordered.2.1.1 place h

theorem LaidOut.span_within (laid : focus.LaidOut) (h : Within focus place) :
    focus.start ≤ place.start ∧ place.start ≤ place.stop ∧ place.stop ≤ focus.stop := by
  induction h with
  | refl => exact ⟨Nat.le_refl _, laid.span, Nat.le_refl _⟩
  | tail hparent hchild ih =>
      have hspan := (laid.within hparent).span_child hchild
      omega

theorem LaidOut.pairwise_preorder (laid : focus.LaidOut) :
    focus.preorder.Pairwise fun place later => Inside place later ∨ place.stop ≤ later.start := by
  induction focus using children_induction with
  | step focus ih =>
      rw [preorder_eq, List.pairwise_cons]
      constructor
      · intro place hplace
        obtain ⟨child, hchild, hplace⟩ := List.mem_flatMap.1 hplace
        exact .inl (.head' hchild (mem_preorder.1 hplace))
      · rw [List.pairwise_flatMap]
        constructor
        · intro child hchild
          exact ih child hchild (laid.within (.single hchild))
        -- places of different children keep the order of the children
        · apply List.Pairwise.imp_of_mem _ laid.ordered
          intro child later hchild hlater hordered place hplace other hother
          have hfirst := (laid.within (.single hchild)).span_within (mem_preorder.1 hplace)
          have hsecond := (laid.within (.single hlater)).span_within (mem_preorder.1 hother)
          right
          omega

theorem LaidOut.within_or_apart (laid : root.LaidOut) (hplace : place ∈ root.preorder)
    (hother : other ∈ root.preorder) :
    Within place other ∨ Within other place ∨
      place.stop ≤ other.start ∨ other.stop ≤ place.start := by
  let related (place other : Focus) : Prop :=
    Within place other ∨ Within other place ∨ place.stop ≤ other.start ∨ other.stop ≤ place.start
  refine List.Pairwise.forall_of_forall_of_flip (R := related) ?_ ?_ ?_ hplace hother
  · intro place _
    exact .inl .refl
  · apply laid.pairwise_preorder.imp
    intro place later hrelated
    rcases hrelated with hinside | hapart
    · exact .inl hinside.to_reflTransGen
    · exact .inr (.inr (.inl hapart))
  · apply laid.pairwise_preorder.imp
    intro place later hrelated
    rcases hrelated with hinside | hapart
    · exact .inr (.inl hinside.to_reflTransGen)
    · exact .inr (.inr (.inr hapart))

theorem LaidOut.eq_of_stop_eq (laid : root.LaidOut) (hplace : place ∈ root.preorder)
    (hother : other ∈ root.preorder) (hleaf : place.node.children = [])
    (hleaf' : other.node.children = []) (hwide : place.start < place.stop)
    (hwide' : other.start < other.stop) (hstop : place.stop = other.stop) : place = other := by
  rcases laid.within_or_apart hplace hother with h | h | h | h
  · exact (eq_of_within_leaf hleaf h).symm
  · exact eq_of_within_leaf hleaf' h
  · omega
  · omega

/-! Full starts. -/

/-- The siblings before a node, parted at the nearest one that is no extra. -/
theorem split_extras (earlier : List Focus) :
    let before := (earlier.map Focus.node).reverse
    (∃ front sibling gap, earlier = front ++ sibling :: gap ∧ sibling.label.extra = false ∧
      (∀ place ∈ gap, place.label.extra = true ∧
        place.node ∈ before.takeWhile fun node => node.label.extra) ∧
      (before.find? fun node => !node.label.extra) = some sibling.node) ∨
    (∀ place ∈ earlier, place.label.extra = true) ∧
      (before.find? fun node => !node.label.extra) = none := by
  -- the nearest sibling is the last of the list
  induction earlier using List.reverseRecOn with
  | nil => exact .inr ⟨by simp, rfl⟩
  | append_singleton earlier last ih =>
      simp only [List.map_append, List.map_cons, List.map_nil, List.reverse_append,
        List.reverse_cons, List.reverse_nil, List.nil_append, List.singleton_append]
      cases hextra : last.label.extra with
      | false => exact .inl ⟨earlier, last, [], by simp, hextra, by simp, by simp [hextra]⟩
      | true =>
          rcases ih with ⟨front, sibling, gap, rfl, hsibling, hgap, hfind⟩ | ⟨hall, hfind⟩
          · refine .inl ⟨front, sibling, gap ++ [last], by simp, hsibling, ?_, ?_⟩
            · intro place hplace
              rw [List.takeWhile_cons, if_pos hextra]
              rcases List.mem_append.1 hplace with hplace | hplace
              · exact ⟨(hgap place hplace).1, List.mem_cons_of_mem _ (hgap place hplace).2⟩
              · obtain rfl := List.mem_singleton.1 hplace
                exact ⟨hextra, List.mem_cons_self⟩
            · rw [List.find?_cons_of_neg (by simp [hextra]), hfind]
          · refine .inr ⟨?_, ?_⟩
            · intro place hplace
              rcases List.mem_append.1 hplace with hplace | hplace
              · exact hall place hplace
              · obtain rfl := List.mem_singleton.1 hplace
                exact hextra
            · rw [List.find?_cons_of_neg (by simp [hextra]), hfind]

/-- The full start of a child is the end of the nearest sibling before it that is no extra, or the
full start of its parent if all siblings before it are extras. -/
theorem fullStart_cases (h : child ∈ focus.children) :
    ∃ earlier later, focus.children = earlier ++ child :: later ∧
      ((∃ front sibling gap, earlier = front ++ sibling :: gap ∧
          (∀ place ∈ gap, place.label.extra = true) ∧ sibling.label.extra = false ∧
          child.fullStart = sibling.stop) ∨
        ((∀ place ∈ earlier, place.label.extra = true) ∧ child.fullStart = focus.fullStart)) := by
  obtain ⟨earlier, later, hsplit, habove⟩ := split_children h
  refine ⟨earlier, later, hsplit, ?_⟩
  rw [fullStart, habove, fullStartUnder]
  rcases split_extras earlier with ⟨front, sibling, gap, hearlier, hextra, hgap, hfind⟩ | hall
  · have hextras : ∀ place ∈ gap, place.label.extra = true := fun place hplace =>
      (hgap place hplace).1
    refine .inl ⟨front, sibling, gap, hearlier, hextras, hextra, ?_⟩
    rw [hfind]
  · refine .inr ⟨hall.1, ?_⟩
    rw [hall.2]
    rfl

theorem LaidOut.fullStart_le_start (laid : root.LaidOut) (hroot : root.above = [])
    (h : Within root place) : place.fullStart ≤ place.start := by
  induction h with
  | refl =>
      rw [fullStart, hroot]
      exact Nat.zero_le _
  | @tail parent child hparent hchild ih =>
      have laid := laid.within hparent
      obtain ⟨earlier, later, hsplit, ⟨front, sibling, gap, rfl, -, -, hstart⟩ | ⟨-, hstart⟩⟩ :=
        fullStart_cases hchild
      · rw [hstart]
        exact laid.stop_le_of_split hsplit (by simp)
      · have hspan := laid.span_child hchild
        omega

/-- A full start is where the text begins or where a node ends that is no extra. -/
theorem exists_stop_eq_fullStart (hroot : root.above = []) (h : Within root place) :
    place.fullStart = 0 ∨
      ∃ sibling ∈ root.preorder, sibling.label.extra = false ∧
        sibling.stop = place.fullStart := by
  induction h with
  | refl => exact .inl (by rw [fullStart, hroot, fullStartUnder])
  | @tail parent child hparent hchild ih =>
      obtain ⟨earlier, later, hsplit,
        ⟨front, sibling, gap, rfl, -, hextra, hstart⟩ | ⟨-, hstart⟩⟩ := fullStart_cases hchild
      · have hsibling : sibling ∈ parent.children := by simp [hsplit]
        exact .inr ⟨sibling, mem_preorder.2 (hparent.tail hsibling), hextra, hstart.symm⟩
      · rw [hstart]
        exact ih

end Focus

end Keypath.Tree
