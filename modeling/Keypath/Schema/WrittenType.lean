import Keypath.Schema.Basic
import Keypath.Source

namespace Keypath

open Keypath.Tree

namespace Site

/-- The kind of a written type, looked at through brackets and `readonly`. -/
def typeKind (site : Site) : TypeKind :=
  let bare := site.move site.focus.bareType
  match bare.kind with
  | .predefinedType | .literalType | .templateLiteralType => .primitive
  | .arrayType => .array
  | .genericType => if bare.isArrayType then .array else .reference
  | .typeIdentifier | .nestedTypeIdentifier => .reference
  | .objectType => .objectLiteral
  | _ => .unknown

/-- The `T` of `T[]` and `Array<T>`. -/
def elementType? (site : Site) : Option Site :=
  let bare := site.move site.focus.bareType
  match bare.kind with
  | .arrayType => bare.focus.firstMember?.map site.move
  | .genericType =>
      if bare.isArrayType then
        match bare.focus.child? .typeArguments with
        | some arguments => arguments.firstMember?.map site.move
        | none => none
      else none
  | _ => none

end Site

end Keypath
