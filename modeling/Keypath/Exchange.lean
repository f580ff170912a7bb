import Keypath.Program

namespace Keypath

open Keypath.Tree

structure Import where
  /-- The name the file uses. -/
  bound : String
  /-- The name the other file exports it under; `default` for a default import. -/
  exported : String
  specifier : String
deriving DecidableEq, Repr

/-- A name that stands for a whole module, from `import * as bound from 'specifier'`. -/
structure NamespaceImport where
  bound : String
  specifier : String
deriving DecidableEq, Repr

structure Passed where
  exported : String
  taken : String
deriving DecidableEq, Repr

structure Reexport where
  specifier : String
  /-- The names it lists; nothing for `export * from`. -/
  listed : Option (List Passed)
deriving DecidableEq, Repr

namespace SourceFile

def unquoted (file : SourceFile) (focus : Focus) : String :=
  Text.trimMarks ['"', '\'', '`'] (file.textOf focus)

/-- The import clause and the specifier of each import statement that has both. -/
def importClauses (file : SourceFile) : List (Focus × String) :=
  file.root.members.filterMap fun statement =>
    if statement.kind = .importStatement then
      match statement.child? .source, statement.member? .importClause with
      | some source, some clause => some (clause, file.unquoted source)
      | _, _ => none
    else none

def bindings (file : SourceFile) (specifier : String) (binding : Focus) : List Import :=
  match binding.kind with
  | .namedImports =>
      binding.members.filterMap fun listed =>
        match listed.child? .name with
        | some name =>
            some ⟨file.textOf ((listed.child? .rename).getD name), file.textOf name, specifier⟩
        | none => none
  | .identifier => [⟨file.textOf binding, "default", specifier⟩]
  | _ => []

def imports (file : SourceFile) : List Import :=
  file.importClauses.flatMap fun clause => clause.1.members.flatMap (file.bindings clause.2)

def namespaceImports (file : SourceFile) : List NamespaceImport :=
  file.importClauses.flatMap fun clause =>
    (clause.1.members.filter fun binding => binding.kind = .namespaceImport).flatMap fun binding =>
      binding.members.map fun name => ⟨file.textOf name, clause.2⟩

def passedNames (file : SourceFile) (clause : Focus) : List Passed :=
  clause.members.filterMap fun listed =>
    match listed.child? .name with
    | some name => some ⟨file.textOf ((listed.child? .rename).getD name), file.textOf name⟩
    | none => none

/-- A namespace re-export, `export * as ns from`, passes on no type by its own name. -/
def reexports (file : SourceFile) : List Reexport :=
  file.root.members.filterMap fun statement =>
    match statement.child? .source with
    | some source =>
        if statement.kind = .exportStatement && (statement.member? .namespaceExport).isNone then
          some ⟨file.unquoted source, (statement.member? .exportClause).map file.passedNames⟩
        else none
    | none => none

/-- The local name that one export statement makes the default export: of a declaration, of an
identifier, or through `as default`. -/
def defaultNameIn? (file : SourceFile) (statement : Focus) : Option String :=
  if statement.children.any fun child => child.kind = .defaultKeyword then
    match statement.child? .declaration with
    | some declaration => (declaration.child? .name).map file.textOf
    | none =>
        match statement.child? .value with
        | some value => if value.kind.isIdentifier then some (file.textOf value) else none
        | none => none
  else
    match statement.member? .exportClause with
    | some clause =>
        clause.members.findSome? fun listed =>
          match listed.child? .rename, listed.child? .name with
          | some rename, some name =>
              if file.textOf rename = "default" then some (file.textOf name) else none
          | _, _ => none
    | none => none

def defaultName? (file : SourceFile) : Option String :=
  (file.root.members.filter fun statement =>
    statement.kind = .exportStatement && (statement.child? .source).isNone).findSome?
      file.defaultNameIn?

end SourceFile

namespace Program

/-- What is tried behind a specifier's own text, in this order. -/
def moduleEndings : List String :=
  [".ts", ".tsx", ".d.ts", "/index.ts", "/index.tsx", "/index.d.ts"]

/-- The paths a specifier may mean in a file of the given folder, the likeliest first. -/
def modulePaths (folder : Path) (specifier : String) : List Path :=
  let base := folder.join (.ofText specifier)
  let compiled := (Text.beforeEnding? ".js" specifier).map fun stem =>
    folder.join (.ofText (stem ++ ".ts"))
  base :: compiled.toList ++ moduleEndings.map base.append

/-- Only relative and absolute specifiers are looked up; packages are not. -/
def isLocalSpecifier (specifier : String) : Bool :=
  match specifier.toList.head? with
  | some '.' | some '/' => true
  | _ => false

def module? (program : Program) (file : SourceFile) (specifier : String) : Option SourceFile :=
  if isLocalSpecifier specifier then
    (modulePaths (file.path.parent?.getD .empty) specifier).findSome? fun path =>
      program.find? path.normalize
  else none

end Program

end Keypath
