import Keypath.Table

namespace Keypath

inductive TypeKind where
  | primitive
  | array
  | reference
  | objectLiteral
  | unknown
deriving DecidableEq, Repr

namespace TypeKind

def name : TypeKind → String
  | primitive => "primitive"
  | array => "array"
  | reference => "reference"
  | objectLiteral => "objectLiteral"
  | unknown => "unknown"

def ofName? : String → Option TypeKind
  | "primitive" => some primitive
  | "array" => some array
  | "reference" => some reference
  | "objectLiteral" => some objectLiteral
  | "unknown" => some unknown
  | _ => none

theorem ofName?_name (kind : TypeKind) : ofName? kind.name = some kind := by
  cases kind <;> rfl

end TypeKind

structure Entry where
  /-- Nothing if the key has no written type, or a type name that means nothing known. -/
  kind : Option TypeKind
  elementKind : Option TypeKind
  children : Option (Table String Entry)
  /-- The type as written. -/
  detail : Option String
deriving Repr

abbrev Schema := Table String Entry

namespace Entry

def hasChildren (entry : Entry) : Bool :=
  match entry.children with
  | some children => !children.isEmpty
  | none => false

end Entry

end Keypath
