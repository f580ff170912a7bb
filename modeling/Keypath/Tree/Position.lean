import Keypath.Tree.Node

namespace Keypath.Tree.Focus

/-- A child that ends before an offset is passed over, and so is one that ends at it, unless it has
no width. -/
def passes (offset : Nat) (child : Focus) : Bool :=
  child.stop < offset || (child.stop = offset && child.start ≠ child.stop)

/-- Go down to the innermost node at an offset; `last` is the innermost named one so far. -/
def descend (offset : Nat) (focus last : Focus) : Focus :=
  match _h : focus.children.find? fun child => !child.passes offset with
  | none => last
  | some child =>
      if offset < child.start then last
      else child.descend offset (if child.label.named then child else last)
termination_by focus.size
decreasing_by exact size_lt_of_mem_children (List.mem_of_find?_eq_some _h)

def namedAt (focus : Focus) (offset : Nat) : Focus := focus.descend offset focus

/-- The first identifier in a subtree that ends behind an offset, reached through named nodes that
do so too. -/
def identifierAfter? (focus : Focus) (offset : Nat) : Option Focus :=
  (focus.walk fun label => label.named && offset < label.stop).find? fun place =>
    place.kind.isIdentifier && offset < place.stop

/-- The first identifier behind an offset in the subtree or, failing that, in the subtree of the
parent, and so on upwards. -/
def climbToIdentifier? (offset : Nat) (node : Node) (above : List Frame) : Option Focus :=
  match identifierAfter? ⟨node, above⟩ offset with
  | some ident => some ident
  | none =>
      match above with
      | [] => none
      | frame :: outer => climbToIdentifier? offset (frame.around node) outer

end Keypath.Tree.Focus
