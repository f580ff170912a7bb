import Keypath.Anchor
import Keypath.Definition

/-!
Usages: the nodes that name a declaration, and the look-up that finds what they name.

A usage is asked about one byte behind its anchor, so that the question falls on the name when one
blank stands in front of it. An answer is located one byte before the name it spans, which is where
a declaration written with one blank before its name is anchored. An answer at whose place nothing
is anchored is dropped.
-/

namespace Keypath

open Keypath.Tree

def probeOffset (anchor : Nat) : Nat := anchor + 1

def locateOffset (start : Nat) : Nat := start - 1

/-- Where a usage begins, blanks counted in; nothing for a node that names no declaration. -/
def Tree.Focus.usageAnchor? (focus : Focus) : Option Nat :=
  if focus.isHeritageClause then focus.firstMember?.map Focus.fullStart
  else if focus.isHeritageEntry then some focus.fullStart
  else
    match focus.kind with
    | .propertySignature => focus.annotatedType?.map Focus.fullStart
    | .importStatement =>
        match focus.member? .importClause with
        | some clause => clause.firstBinding?.map Focus.fullStart
        | none => none
    | _ => none

inductive LookupEvent where
  | queried (usage : NodeId) (probe results : Nat)
  /-- An answer has nothing anchored at its place. -/
  | dropped (file : Path) (offset : Nat)
deriving DecidableEq, Repr

structure Answer where
  sites : List Site
  events : List LookupEvent

abbrev Lookup := Site → Answer

namespace Program

def site? (program : Program) (definition : Definition) : Option Site :=
  (program.find? definition.file).bind fun file => file.locate? (locateOffset definition.start)

def dropped? (program : Program) (definition : Definition) : Option LookupEvent :=
  match program.site? definition with
  | some _ => none
  | none => some (.dropped definition.file (locateOffset definition.start))

def lookup (program : Program) : Lookup := fun usage =>
  match usage.focus.usageAnchor? with
  | none => ⟨[], []⟩
  | some anchor =>
      let probe := probeOffset anchor
      let definitions := program.definitionsAt usage.file.path probe
      ⟨definitions.filterMap program.site?,
        .queried usage.id probe definitions.length :: definitions.filterMap program.dropped?⟩

end Program

end Keypath
