import Keypath.Tree.Node

namespace Keypath.Tree

/-- The end of the nearest earlier sibling that is not an extra, looked for level by level upwards;
zero if there is none. -/
def fullStartUnder : List Frame → Nat
  | [] => 0
  | frame :: outer =>
      match frame.before.find? fun sibling => !sibling.label.extra with
      | some sibling => sibling.label.stop
      | none => fullStartUnder outer

namespace Focus

def fullStart (focus : Focus) : Nat := fullStartUnder focus.above

/-- The identifier a written type goes by: `Foo`, `Foo<T>` and `ns.Foo` all go by `Foo`. -/
def typeName? (focus : Focus) : Option Focus :=
  match focus.kind with
  | .typeIdentifier | .identifier => some focus
  | .genericType | .nestedTypeIdentifier =>
      match _h : focus.child? .name with
      | some name => name.typeName?
      | none => none
  | _ => none
termination_by focus.size
decreasing_by all_goals exact size_lt_of_child? _h

/-- The type inside `(T)` and `readonly T`; brackets around nothing stay as they are. -/
def bareType (focus : Focus) : Focus :=
  match focus.kind with
  | .parenthesizedType | .readonlyType =>
      match _h : focus.firstMember? with
      | some inner => inner.bareType
      | none => focus
  | _ => focus
termination_by focus.size
decreasing_by all_goals exact size_lt_of_firstMember? _h

/-- The declaration that a statement makes, looked for inside `export` and `declare`. -/
def declared? (focus : Focus) : Option Focus :=
  match focus.kind with
  | .exportStatement =>
      match _h : focus.child? .declaration with
      | some inner => inner.declared?
      | none => some focus
  | .ambientDeclaration =>
      match _h : focus.firstMember? with
      | some inner => inner.declared?
      | none => none
  | _ => some focus
termination_by focus.size
decreasing_by
  · exact size_lt_of_child? _h
  · exact size_lt_of_firstMember? _h

def annotatedType? (focus : Focus) : Option Focus :=
  match focus.child? .type with
  | some annotation =>
      if annotation.kind = .typeAscription then annotation.firstMember? else some annotation
  | none => none

def firstBinding? (focus : Focus) : Option Focus :=
  (focus.walk Label.isMember).find? fun place => place.kind = .identifier

def isHeritageClause (focus : Focus) : Bool := focus.kind = .extendsTypeClause

def isHeritageEntry (focus : Focus) : Bool :=
  focus.label.isMember &&
    match focus.above with
    | frame :: _ => frame.label.kind = .extendsTypeClause
    | [] => false

def heritageEntries (focus : Focus) : List Focus :=
  (focus.namedChildren.filter isHeritageClause).flatMap members

/-- The node that holds the members: the body of an interface, any other node itself. -/
def container? (focus : Focus) : Option Focus :=
  if focus.kind = .interfaceDeclaration then focus.child? .body else some focus

def bodyMembers (focus : Focus) : List Focus :=
  match focus.container? with
  | some container => container.members
  | none => []

end Focus

end Keypath.Tree
