import Keypath.Program

/-!
Anchors: the offset by which a node is found again from a position in its file.

A declaration is anchored where its name begins, blanks counted in; any other node where it begins
itself. Extras have no anchor. Of several nodes with one anchor, the first in pre-order is the one
that is found.
-/

namespace Keypath

open Keypath.Tree

def Tree.Focus.anchor? (focus : Focus) : Option Nat :=
  if focus.label.extra then none
  else if focus.kind.isDeclaration then (focus.child? .name).map Focus.fullStart
  else some focus.fullStart

namespace SourceFile

def locate? (file : SourceFile) (offset : Nat) : Option Site :=
  (file.root.preorder.find? fun focus => focus.anchor? = some offset).map (Site.mk file)

/-- The first interface at file level with a base that goes by the marker's name. -/
def configRoot? (file : SourceFile) (marker : String) : Option Site :=
  (file.topLevel.find? fun focus =>
    focus.kind = .interfaceDeclaration &&
      focus.heritageEntries.any fun base =>
        match base.typeName? with
        | some name => file.textOf name = marker
        | none => false).map (Site.mk file)

end SourceFile

end Keypath
