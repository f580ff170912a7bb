import Keypath.Source
import Keypath.Table

/-!
Programs: the source files known by path, in the order they came.

The table is keyed by the components of normalised paths. A file keeps its number and its place when
its text is replaced.
-/

namespace Keypath

open Keypath.Tree

structure Program where
  files : Table (List Component) SourceFile
deriving Repr

namespace Program

def empty : Program := ⟨.empty⟩

def size (program : Program) : Nat := program.files.size

def sources (program : Program) : List SourceFile := program.files.values

/-- The number of the file at a normalised path: its own if it is known, else the next one. -/
def numberFor (program : Program) (path : Path) : Nat :=
  (program.files.position? path.components).getD program.size

def store (program : Program) (path : Path) (text : String) (tree : Node) : Program :=
  let path := path.normalize
  ⟨program.files.insert path.components ⟨program.numberFor path, path, text, tree⟩⟩

def insert? (parse : Parser) (program : Program) (path : Path) (text : String) :
    Option Program :=
  (parse (.ofPath path.normalize) text).map (program.store path text)

/-- The file at a path as spelled, or else at the path once normalised. -/
def find? (program : Program) (path : Path) : Option SourceFile :=
  match program.files.get? path.components with
  | some file => some file
  | none => program.files.get? path.normalize.components

def sites (program : Program) : List Site :=
  program.sources.flatMap fun file => file.root.preorder.map (Site.mk file)

/-- Every interface and type alias, at whatever depth. -/
def declarations (program : Program) : List Site :=
  program.sites.filter Site.isDeclaration

end Program

end Keypath
