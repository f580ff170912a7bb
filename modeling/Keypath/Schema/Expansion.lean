import Keypath.Schema.WrittenType
import Keypath.Usage

/-!
Expansion: from a node to the schema it describes.

Every shape a node has contributes to one table, in a fixed order, later contributions over earlier
ones. A reference is followed through a look-up that the caller supplies. A declaration is expanded
once: while it is being expanded a reference back to it is cut and reported, afterwards its schema
is taken from the record.

The recursion goes from a node into its subtree and through references from declaration to
declaration. It is written with a budget of nested steps, and gives nothing when the budget runs
out; `Program.budget` is what a program can need at most.
-/

namespace Keypath

open Keypath.Tree

inductive Event where
  | lookup (event : LookupEvent)
  /-- A property's type name means nothing known. -/
  | unresolved (property : NodeId) (name typeText : String)
  /-- A reference leads back to a declaration that is still being expanded. -/
  | cycle (declaration : NodeId) (name : String)
  | expanded (node : NodeId) (kind : Kind) (entries : Nat)
deriving DecidableEq, Repr

structure Progress where
  expanding : List NodeId
  expanded : Table NodeId Schema
  /-- What was reported so far, the oldest first. -/
  events : List Event

namespace Progress

def start : Progress := ⟨[], ∅, []⟩

def report (progress : Progress) (events : List Event) : Progress :=
  { progress with events := progress.events ++ events }

def enter (progress : Progress) (id : NodeId) : Progress :=
  { progress with
    expanding := if progress.expanding.contains id then progress.expanding
      else id :: progress.expanding }

def leave (progress : Progress) (id : NodeId) (schema : Schema) : Progress :=
  { progress with
    expanding := progress.expanding.filter fun other => other ≠ id
    expanded := progress.expanded.insert id schema }

end Progress

abbrev Expand := StateT Progress Option

namespace Expand

def report (events : List Event) : Expand Unit :=
  modify fun progress => progress.report events

def ask (lookup : Lookup) (usage : Site) : Expand (List Site) := do
  let answer := lookup usage
  report (answer.events.map Event.lookup)
  return answer.sites

/-- The schema of a declaration that a reference leads to; nothing if it is still under way. -/
def followWith (recurse : Site → Expand Schema) (declaration : Site) : Expand (Option Schema) := do
  let progress ← get
  match progress.expanded.get? declaration.id with
  | some schema => return some schema
  | none =>
      if progress.expanding.contains declaration.id then
        report [.cycle declaration.id (declaration.nameText?.getD declaration.kind.name)]
        return none
      else
        return some (← recurse declaration)

/-- Merge the schemas of nodes of the same file, one after the other. -/
def mergeAllWith (recurse : Site → Expand Schema) (sites : List Site) (schema : Schema) :
    Expand Schema :=
  sites.foldlM (fun merged site => do return merged.merge (← recurse site)) schema

/-- Inherited keys first, then the interface's own over them. -/
def mergeInterfaceWith (recurse : Site → Expand Schema) (site : Site) (schema : Schema) :
    Expand Schema := do
  mergeAllWith recurse site.members (← mergeAllWith recurse site.heritageEntries schema)

def mergeNamedWith (lookup : Lookup) (recurse : Site → Expand Schema) (usage : Site)
    (schema : Schema) : Expand Schema := do
  (← ask lookup usage).foldlM (fun merged declaration => do
    match ← followWith recurse declaration with
    | some found => return merged.merge found
    | none => return merged) schema

/-- The merged schemas of the declarations a property's type names; nothing if all are under
way. -/
def childrenWith (recurse : Site → Expand Schema) (declarations : List Site) :
    Expand (Option Schema) :=
  declarations.foldlM (fun children declaration => do
    match ← followWith recurse declaration with
    | some found => return some ((children.getD ∅).merge found)
    | none => return children) none

def referenceEntryWith (lookup : Lookup) (recurse : Site → Expand Schema) (property : Site)
    (name detail : String) : Expand Entry := do
  match ← ask lookup property with
  | [] =>
      report [.unresolved property.id name detail]
      return ⟨none, none, none, some detail⟩
  | declarations =>
      return ⟨some .reference, none, ← childrenWith recurse declarations, some detail⟩

def writtenEntryWith (recurse : Site → Expand Schema) (written : Site) : Expand Entry := do
  let bare := written.move written.focus.bareType
  let elementKind :=
    if bare.has .arrayType then bare.elementType?.map Site.typeKind else none
  let children ←
    if bare.has .typeLiteral then some <$> recurse bare else pure none
  return ⟨some written.typeKind, elementKind, children, some written.text⟩

def propertyEntryWith (lookup : Lookup) (recurse : Site → Expand Schema) (property : Site)
    (name : String) : Expand Entry :=
  match property.focus.annotatedType? with
  | none => return ⟨none, none, none, none⟩
  | some focus =>
      let written := property.move focus
      if written.typeKind = .reference then
        referenceEntryWith lookup recurse property name written.text
      else
        writtenEntryWith recurse written

/-- A property is one key, unless its key is computed. -/
def mergePropertyWith (lookup : Lookup) (recurse : Site → Expand Schema) (property : Site)
    (schema : Schema) : Expand Schema :=
  match property.propertyName? with
  | none => return schema
  | some name => do
      return schema.insert name (← propertyEntryWith lookup recurse property name)

/-- An alias has the keys of its value if that is written out as an object type. -/
def mergeAliasWith (recurse : Site → Expand Schema) (declaration : Site) (schema : Schema) :
    Expand Schema :=
  match declaration.focus.child? .value with
  | none => return schema
  | some focus => do
      let value := declaration.move focus.bareType
      if value.has .typeLiteral then return schema.merge (← recurse value) else return schema

/-- What each shape contributes, in the order of contribution. -/
def contributionsWith (lookup : Lookup) (recurse : Site → Expand Schema) :
    List (Shape × (Site → Schema → Expand Schema)) :=
  [(.interface, mergeInterfaceWith recurse),
   (.property, mergePropertyWith lookup recurse),
   (.importing, mergeNamedWith lookup recurse),
   (.heritage, mergeNamedWith lookup recurse),
   (.typeLiteral, fun site => mergeAllWith recurse site.members),
   (.typeAlias, mergeAliasWith recurse)]

def nodeWith (lookup : Lookup) (recurse : Site → Expand Schema) (site : Site) :
    Expand Schema := do
  if site.isDeclaration then modify fun progress => progress.enter site.id
  let schema ← (contributionsWith lookup recurse).foldlM (fun schema contribution =>
    if site.has contribution.1 then contribution.2 site schema else pure schema) (∅ : Schema)
  report [.expanded site.id site.kind schema.size]
  if site.isDeclaration then modify fun progress => progress.leave site.id schema
  return schema

/-- The schema of a node, within a budget of nested steps. -/
def node (lookup : Lookup) : Nat → Site → Expand Schema
  | 0, _ => fun _ => none
  | budget + 1, site => nodeWith lookup (node lookup budget) site

end Expand

/-- Between two declarations an expansion only goes down a tree, and it opens each declaration once
at a time. -/
def Program.budget (program : Program) : Nat :=
  (program.declarations.length + 1) * (program.sites.length + 1)

end Keypath
