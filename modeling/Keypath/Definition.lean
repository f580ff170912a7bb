import Keypath.Exchange
import Keypath.Tree.Position

/-!
Where the type named at a position is declared.

A name is looked for in its own file, then among the file's imports, then in the scripts of the
program. An import leads to the declarations that the other module exports under a name, through at
most eight re-exports.
-/

namespace Keypath

open Keypath.Tree

/-- A declaration found for a name: the span of its name. -/
structure Definition where
  file : Path
  start : Nat
  length : Nat
deriving DecidableEq, Repr

namespace SourceFile

def definitionsOf (file : SourceFile) (name : String) : List Definition :=
  file.topLevel.filterMap fun focus =>
    if focus.kind.isDeclaration then
      match focus.child? .name with
      | some ident =>
          if file.textOf ident = name then
            some ⟨file.path, ident.start, ident.stop - ident.start⟩
          else none
      | none => none
    else none

/-- The local name behind an exported one: that of the default export, or the name itself. -/
def localName (file : SourceFile) (name : String) : String :=
  if name = "default" then file.defaultName?.getD name else name

end SourceFile

structure Export where
  file : SourceFile
  name : String

namespace Program

def source? (program : Program) (file : SourceFile) (binding : Import) : Option Export :=
  (program.module? file binding.specifier).map fun target => ⟨target, binding.exported⟩

/-- Where a default export leads that the file has itself only imported. -/
def defaultSource (program : Program) (file : SourceFile) (name : String) : List Export :=
  match file.imports.find? fun binding => binding.bound = name with
  | some binding => (program.source? file binding).toList
  | none => []

def passedSources (program : Program) (file : SourceFile) (name : String)
    (statement : Reexport) : List Export :=
  match program.module? file statement.specifier with
  | none => []
  | some target =>
      match statement.listed with
      | none => [⟨target, name⟩]
      | some names =>
          (names.filter fun passed => passed.exported = name).map fun passed =>
            ⟨target, passed.taken⟩

def sourcesOf (program : Program) (wanted : Export) : List Export :=
  match wanted.name, wanted.file.defaultName? with
  | "default", some name => program.defaultSource wanted.file name
  | name, _ => wanted.file.reexports.flatMap (program.passedSources wanted.file name)

/-- Re-export chains longer than this lead nowhere. -/
def maxHops : Nat := 8

/-- The declarations a file makes visible under a name, through at most the given number of
re-exports. A file's own declarations hide the ones it passes on. -/
def exported (program : Program) : Nat → Export → List Definition
  | 0, wanted => wanted.file.definitionsOf (wanted.file.localName wanted.name)
  | hops + 1, wanted =>
      match wanted.file.definitionsOf (wanted.file.localName wanted.name) with
      | [] => (program.sourcesOf wanted).flatMap (program.exported hops)
      | own => own

/-- The declarations that a file's imports bind to a name, if one of them binds it at all. -/
def imported? (program : Program) (file : SourceFile) (name : String) :
    Option (List Definition) :=
  (file.imports.find? fun binding => binding.bound = name).map fun binding =>
    match program.source? file binding with
    | some wanted => program.exported maxHops wanted
    | none => []

def qualified (program : Program) (file : SourceFile) (qualifier name : String) :
    List Definition :=
  match file.namespaceImports.find? fun binding => binding.bound = qualifier with
  | none => []
  | some binding =>
      match program.module? file binding.specifier with
      | some target => program.exported maxHops ⟨target, name⟩
      | none => []

def globals (program : Program) (file : SourceFile) (name : String) : List Definition :=
  (program.sources.filter fun script => script.id ≠ file.id && !script.isModule).flatMap
    fun script => script.definitionsOf name

def unqualified (program : Program) (file : SourceFile) (name : String) : List Definition :=
  match file.definitionsOf name with
  | [] =>
      match program.imported? file name with
      | some definitions => definitions
      | none => program.globals file name
  | own => own

end Program

/-- A type name as written, with the identifier in front of its dot if there is one. -/
structure TypeReference where
  name : Focus
  qualifier : Option Focus

namespace SourceFile

/-- The identifier at an offset or the next one behind it. -/
def identifierAt? (file : SourceFile) (offset : Nat) : Option Focus :=
  let scope := file.root.namedAt offset
  Focus.climbToIdentifier? offset scope.node scope.above

def referenceAt? (file : SourceFile) (offset : Nat) : Option TypeReference :=
  match file.identifierAt? offset with
  | none => none
  | some ident =>
      match ident.parent? with
      | none => some ⟨ident, none⟩
      | some parent =>
          if parent.kind = .nestedTypeIdentifier then
            (parent.child? .name).map fun name =>
              ⟨name, (parent.child? .qualifier).filter fun outer => outer.kind = .identifier⟩
          else some ⟨ident, none⟩

end SourceFile

namespace Program

def definitionsAt (program : Program) (path : Path) (offset : Nat) : List Definition :=
  match program.find? path with
  | none => []
  | some file =>
      match file.referenceAt? offset with
      | none => []
      | some ⟨name, some qualifier⟩ =>
          program.qualified file (file.textOf qualifier) (file.textOf name)
      | some ⟨name, none⟩ => program.unqualified file (file.textOf name)

end Program

end Keypath
