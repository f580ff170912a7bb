import Keypath.Path
import Keypath.Text.Slice
import Keypath.Tree.Shape

/-!
Source files: a text, its syntax tree, and the nodes of the file as sites.

The grammar of the language is not part of this library. A `Parser` is whatever turns a text of a
dialect into its tree.
-/

namespace Keypath

open Keypath.Tree

inductive Dialect where
  | typescript
  | tsx
deriving DecidableEq, Repr

def Dialect.ofPath (path : Path) : Dialect :=
  if path.hasExtension ["tsx"] then .tsx else .typescript

def Path.isTypeScript (path : Path) : Bool :=
  path.hasExtension ["ts", "tsx", "mts", "cts"]

abbrev Parser := Dialect → String → Option Node

structure SourceFile where
  id : Nat
  path : Path
  text : String
  tree : Node
deriving Repr

namespace SourceFile

def root (file : SourceFile) : Focus := Focus.ofRoot file.tree

def textOf (file : SourceFile) (focus : Focus) : String :=
  Text.slice file.text focus.start focus.stop

/-- A file that imports or exports anything is a module; every other file is a script, whose
declarations are visible everywhere. -/
def isModule (file : SourceFile) : Bool :=
  file.tree.children.any fun statement =>
    statement.label.kind = .importStatement || statement.label.kind = .exportStatement

def topLevel (file : SourceFile) : List Focus :=
  file.root.members.filterMap Focus.declared?

end SourceFile

/-- A node is known across files by its file's path and its address in that file's tree. Within one
program the number of the file would do as well as the path. -/
structure NodeId where
  file : Path
  address : List Nat
deriving DecidableEq, Repr

structure Site where
  file : SourceFile
  focus : Focus
deriving Repr

namespace Site

def id (site : Site) : NodeId := ⟨site.file.path, site.focus.address⟩

abbrev kind (site : Site) : Kind := site.focus.kind

def text (site : Site) : String := site.file.textOf site.focus

def move (site : Site) (focus : Focus) : Site := ⟨site.file, focus⟩

def size (site : Site) : Nat := site.focus.size

def isDeclaration (site : Site) : Bool := site.kind.isDeclaration

def nameText? (site : Site) : Option String :=
  (site.focus.child? .name).map site.file.textOf

def heritageEntries (site : Site) : List Site := site.focus.heritageEntries.map site.move

def members (site : Site) : List Site := site.focus.bodyMembers.map site.move

/-- The key a property has in a dotted path: quotes are taken off, and a computed key has none. -/
def propertyName? (site : Site) : Option String :=
  match site.focus.child? .name with
  | none => none
  | some name =>
      match name.kind with
      | .stringLiteral => some (Text.trimMarks ['"', '\''] (site.file.textOf name))
      | .computedPropertyName => none
      | _ => some (site.file.textOf name)

/-- `T[]`, `Array<T>` and `ReadonlyArray<T>`. -/
def isArrayType (site : Site) : Bool :=
  match site.kind with
  | .arrayType => true
  | .genericType =>
      match site.focus.typeName? with
      | some name => ["Array", "ReadonlyArray"].contains (site.file.textOf name)
      | none => false
  | _ => false

end Site

/-- The shapes of node that take part in a schema. A node may have several. -/
inductive Shape where
  | interface
  | property
  | heritage
  | importing
  | typeLiteral
  | arrayType
  | typeAlias
deriving DecidableEq, Repr

namespace Shape

def all : List Shape :=
  [interface, property, heritage, importing, typeLiteral, arrayType, typeAlias]

end Shape

def Site.has (site : Site) : Shape → Bool
  | .interface => site.kind = .interfaceDeclaration
  | .property => site.kind = .propertySignature
  | .heritage => site.focus.isHeritageClause || site.focus.isHeritageEntry
  | .importing => site.kind = .importStatement
  | .typeLiteral => site.kind = .objectType
  | .arrayType => site.isArrayType
  | .typeAlias => site.kind = .typeAliasDeclaration

def Site.shapes (site : Site) : List Shape := Shape.all.filter site.has

end Keypath
