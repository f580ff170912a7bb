import Keypath.Tree.Kind

/-!
Concrete syntax trees and places in them.

A `Focus` is a node together with the frames above it, innermost first. A frame holds the parent's
label and the siblings on either side, so the parent, and with it the whole tree, can be put
together again: every focus is a place in the tree it comes from.
-/

namespace Keypath.Tree

structure Label where
  kind : Kind
  /-- Byte offsets into the source text. -/
  start : Nat
  stop : Nat
  /-- Named nodes are the ones the grammar has a rule for; keywords and marks are not named. -/
  named : Bool
  /-- Extra nodes, such as comments, may stand anywhere. -/
  extra : Bool
  /-- Missing nodes were put in by error recovery and have no width. -/
  missing : Bool
  roles : List Role
deriving DecidableEq, Repr, Inhabited

/-- Members are the children that carry content: named, and not an extra. -/
def Label.isMember (label : Label) : Bool := label.named && !label.extra

structure Node where
  label : Label
  children : List Node
deriving Repr, Inhabited

mutual

def Node.size : Node → Nat
  | ⟨_, children⟩ => sizeAll children + 1

def Node.sizeAll : List Node → Nat
  | [] => 0
  | child :: rest => child.size + sizeAll rest

end

theorem Node.size_le_sizeAll {node : Node} {nodes : List Node} (h : node ∈ nodes) :
    node.size ≤ Node.sizeAll nodes := by
  induction nodes with
  | nil => cases h
  | cons first rest ih =>
      simp only [Node.sizeAll]
      rcases List.mem_cons.1 h with rfl | h
      · omega
      · have := ih h
        omega

theorem Node.size_lt_of_mem {node child : Node} (h : child ∈ node.children) :
    child.size < node.size := by
  obtain ⟨label, children⟩ := node
  have : child.size ≤ Node.sizeAll children := Node.size_le_sizeAll h
  simp only [Node.size]
  omega

structure Frame where
  label : Label
  /-- Earlier siblings, the nearest first. -/
  before : List Node
  after : List Node
deriving Repr

def Frame.around (frame : Frame) (child : Node) : Node :=
  ⟨frame.label, frame.before.reverse ++ child :: frame.after⟩

structure Focus where
  node : Node
  above : List Frame
deriving Repr

namespace Focus

def ofRoot (root : Node) : Focus := ⟨root, []⟩

abbrev label (focus : Focus) : Label := focus.node.label

abbrev kind (focus : Focus) : Kind := focus.node.label.kind

abbrev start (focus : Focus) : Nat := focus.node.label.start

abbrev stop (focus : Focus) : Nat := focus.node.label.stop

def size (focus : Focus) : Nat := focus.node.size

def parent? (focus : Focus) : Option Focus :=
  match focus.above with
  | [] => none
  | frame :: outer => some ⟨frame.around focus.node, outer⟩

/-- The places of `later`, seen from a parent whose earlier children are `before`. -/
def childrenAfter (label : Label) (above : List Frame) (before : List Node) :
    List Node → List Focus
  | [] => []
  | child :: later =>
      ⟨child, ⟨label, before, later⟩ :: above⟩ ::
        childrenAfter label above (child :: before) later

def children (focus : Focus) : List Focus :=
  childrenAfter focus.label focus.above [] focus.node.children

/-- Child positions from the node up to the root. Two places of one tree with the same address are
the same place. -/
def address (focus : Focus) : List Nat :=
  focus.above.map fun frame => frame.before.length

theorem map_node_childrenAfter (label : Label) (above : List Frame) (before nodes : List Node) :
    (childrenAfter label above before nodes).map Focus.node = nodes := by
  induction nodes generalizing before with
  | nil => rfl
  | cons child later ih => simp [childrenAfter, ih]

@[simp] theorem map_node_children (focus : Focus) :
    focus.children.map Focus.node = focus.node.children :=
  map_node_childrenAfter _ _ _ _

theorem size_lt_of_mem_children {focus child : Focus} (h : child ∈ focus.children) :
    child.size < focus.size := by
  apply Node.size_lt_of_mem
  rw [← map_node_children]
  exact List.mem_map_of_mem h

def namedChildren (focus : Focus) : List Focus :=
  focus.children.filter fun child => child.label.named

def members (focus : Focus) : List Focus :=
  focus.children.filter fun child => child.label.isMember

def child? (focus : Focus) (role : Role) : Option Focus :=
  focus.children.find? fun child => child.label.roles.contains role

def firstMember? (focus : Focus) : Option Focus := focus.members.head?

def member? (focus : Focus) (kind : Kind) : Option Focus :=
  focus.members.find? fun child => child.kind = kind

theorem size_lt_of_child? {focus child : Focus} {role : Role}
    (h : focus.child? role = some child) : child.size < focus.size :=
  size_lt_of_mem_children (List.mem_of_find?_eq_some h)

theorem mem_children_of_mem_members {focus child : Focus} (h : child ∈ focus.members) :
    child ∈ focus.children :=
  (List.mem_filter.1 h).1

theorem size_lt_of_firstMember? {focus child : Focus} (h : focus.firstMember? = some child) :
    child.size < focus.size :=
  size_lt_of_mem_children (mem_children_of_mem_members (List.mem_of_mem_head? h))

end Focus

/-! Pre-order walks that go into a child only where `enter` lets them. -/

mutual

def Node.walkFrom (enter : Label → Bool) (above : List Frame) : Node → List Focus
  | ⟨label, children⟩ =>
      ⟨⟨label, children⟩, above⟩ :: walkChildren enter label above [] children

def Node.walkChildren (enter : Label → Bool) (label : Label) (above : List Frame)
    (before : List Node) : List Node → List Focus
  | [] => []
  | child :: later =>
      (if enter child.label then child.walkFrom enter (⟨label, before, later⟩ :: above) else []) ++
        walkChildren enter label above (child :: before) later

end

namespace Focus

def walk (enter : Label → Bool) (focus : Focus) : List Focus :=
  focus.node.walkFrom enter focus.above

/-- Every place in the subtree, parents before children. -/
def preorder (focus : Focus) : List Focus := focus.walk fun _ => true

end Focus

end Keypath.Tree
