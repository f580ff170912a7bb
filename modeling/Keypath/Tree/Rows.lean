import Keypath.Tree.Node

/-!
Trees as rows.

A tree is written as one row per node, parents before children, each row with its depth. Reading
goes from the last row to the first: a row takes as its children the finished trees right behind it
that are deeper than itself.
-/

namespace Keypath.Tree

structure Row where
  depth : Nat
  label : Label
deriving Repr

/-- A row as it is written: the flags are one for a named node, two for an extra, four for a missing
one, added up; the roles are separated by commas. -/
def Row.ofCells (depth : Nat) (kind : String) (start stop flags : Nat) (roles : String) : Row where
  depth := depth
  label :=
    { kind := .ofName kind
      start := start
      stop := stop
      named := flags.testBit 0
      extra := flags.testBit 1
      missing := flags.testBit 2
      roles := (roles.splitOn ",").filterMap Role.ofName? }

structure Grown where
  depth : Nat
  node : Node
deriving Repr

def Row.grow (row : Row) (grown : List Grown) : List Grown :=
  let inside := grown.takeWhile fun tree => row.depth < tree.depth
  ⟨row.depth, ⟨row.label, inside.map Grown.node⟩⟩ :: grown.drop inside.length

/-- The tree that rows describe, if they describe exactly one. -/
def Node.ofRows? (rows : List Row) : Option Node :=
  match rows.foldr Row.grow [] with
  | [tree] => some tree.node
  | _ => none

mutual

def Node.rowsAt (depth : Nat) : Node → List Row
  | ⟨label, children⟩ => ⟨depth, label⟩ :: rowsAll (depth + 1) children

def Node.rowsAll (depth : Nat) : List Node → List Row
  | [] => []
  | child :: rest => child.rowsAt depth ++ rowsAll depth rest

end

def Node.toRows (node : Node) : List Row := node.rowsAt 0

end Keypath.Tree
