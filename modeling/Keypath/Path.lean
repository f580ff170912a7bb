import Keypath.Text.Quoted

/-!
Slash-separated paths.

A path is made of bytes, which need not spell text. It keeps the bytes it was written with, because
messages show them and module look-up appends to them; what the path denotes is read off its
components. Normalising works on the components alone: `.` disappears, `..` takes back the component
before it, and a `..` with nothing to take back is kept. A kept `..` is itself a component that a
later `..` takes back.
-/

namespace Keypath

inductive Component where
  | root
  | here
  | up
  | name (bytes : List UInt8)
deriving DecidableEq, Repr

namespace Component

def slash : UInt8 := 0x2F

def dot : UInt8 := 0x2E

def bytes : Component → List UInt8
  | root => [slash]
  | here => [dot]
  | up => [dot, dot]
  | name bytes => bytes

/-- What the bytes between two slashes stand for; none of them and `.` stand for nothing. -/
def ofSegment? (segment : List UInt8) : Option Component :=
  if segment = [] then none
  else if segment = [dot] then none
  else if segment = [dot, dot] then some up
  else some (name segment)

end Component

structure Path where
  bytes : List UInt8
deriving DecidableEq, Repr, Inhabited

namespace Path

open Component

def empty : Path := ⟨[]⟩

def ofText (text : String) : Path := ⟨Text.bytes text⟩

def text (path : Path) : String := Text.ofBytes path.bytes

def quoted (path : Path) : String := Text.quotedBytes path.bytes

/-- The bytes between slashes, empty segments included. -/
def segments (path : Path) : List (List UInt8) := Text.splitWhere (· = slash) path.bytes

def isAbsolute (path : Path) : Bool :=
  path.bytes.head? = some slash

/-- A leading `.` counts as a component of a relative path; every other `.` is dropped. -/
def components (path : Path) : List Component :=
  let named := path.segments.filterMap Component.ofSegment?
  if path.isAbsolute then .root :: named
  else if path.segments.head? = some [dot] then .here :: named
  else named

def names (path : Path) : List (List UInt8) :=
  path.components.filterMap fun
    | .name bytes => some bytes
    | _ => none

def joinSlashes : List (List UInt8) → List UInt8
  | [] => []
  | [segment] => segment
  | segment :: rest => segment ++ slash :: joinSlashes rest

def ofComponents : List Component → Path
  | .root :: rest => ⟨slash :: joinSlashes (rest.map Component.bytes)⟩
  | components => ⟨joinSlashes (components.map Component.bytes)⟩

/-- One step of normalising; `stack` holds what is kept so far, innermost first. -/
def settle (stack : List Component) : Component → List Component
  | .here => stack
  | .root => [.root]
  | .name bytes => .name bytes :: stack
  | .up =>
      match stack with
      | .name _ :: outer => outer
      | .up :: outer => outer
      | _ => .up :: stack

def settled (components : List Component) : List Component :=
  (components.foldl settle []).reverse

def normalize (path : Path) : Path :=
  ofComponents (settled path.components)

/-- An absolute second path replaces the first. -/
def join (path next : Path) : Path :=
  if next.isAbsolute then next
  else if path.bytes = [] then next
  else if path.bytes.getLast? = some slash then ⟨path.bytes ++ next.bytes⟩
  else ⟨path.bytes ++ slash :: next.bytes⟩

/-- Text put directly behind the path's own bytes. -/
def append (path : Path) (suffix : String) : Path :=
  ⟨path.bytes ++ Text.bytes suffix⟩

/-- The path without its last component; the root and the empty path have none. -/
def parent? (path : Path) : Option Path :=
  match path.components.reverse with
  | [] => none
  | .root :: _ => none
  | _ :: outer => some (ofComponents outer.reverse)

def fileName? (path : Path) : Option (List UInt8) :=
  match path.components.getLast? with
  | some (.name bytes) => some bytes
  | _ => none

/-- What stands behind the last dot of a file name, unless that dot opens the name. -/
def extensionOf? (fileName : List UInt8) : Option (List UInt8) :=
  let reversed := fileName.reverse
  match reversed.dropWhile (· ≠ dot) with
  | _ :: _ :: _ => some (reversed.takeWhile (· ≠ dot)).reverse
  | _ => none

def extension? (path : Path) : Option (List UInt8) :=
  path.fileName?.bind extensionOf?

def hasExtension (path : Path) (extensions : List String) : Bool :=
  match path.extension? with
  | some found => extensions.any fun wanted => Text.bytes wanted = found
  | none => false

end Path

end Keypath
