import Keypath.Proofs.Sites

/-!
Outlines: interfaces with one-letter names, written out as a source with its tree.

`interface A extends B { k: C; l: string }` is the outline of `A` with base `B`, a key `k` of the
type named `C` and a key `l` of type `string`.
-/

namespace Keypath

open Keypath.Tree

structure OutlineField where
  key : Char
  type? : Option Char
deriving DecidableEq, Repr

structure Outline where
  name : Char
  base? : Option Char
  fields : List OutlineField
deriving DecidableEq, Repr

namespace Outline

def text (outline : Outline) : String :=
  let field (field : OutlineField) := String.ofList [' ', field.key, ':', ' '] ++
    match field.type? with
    | some name => String.singleton name
    | none => "string"
  "interface " ++ String.singleton outline.name ++
    (match outline.base? with
      | some base => " extends " ++ String.singleton base
      | none => "") ++
    " \x7b" ++ ";".intercalate (outline.fields.map field) ++ " \x7d"

def inner (kind : Kind) (start stop : Nat) (roles : List Role) (children : List Node) : Node :=
  ⟨⟨kind, start, stop, true, false, false, roles⟩, children⟩

def mark (text : String) (start : Nat) : Node :=
  ⟨⟨.other text, start, start + text.length, false, false, false, []⟩, []⟩

def typeNode (type? : Option Char) (start : Nat) : Node :=
  match type? with
  | some _ => inner .typeIdentifier start (start + 1) [] []
  | none => inner .predefinedType start (start + 6) [] [mark "string" start]

def fieldStop (field : OutlineField) (start : Nat) : Nat :=
  start + if field.type?.isSome then 4 else 9

def fieldNode (field : OutlineField) (start : Nat) : Node :=
  let stop := fieldStop field start
  inner .propertySignature start stop []
    [inner (.other "property_identifier") start (start + 1) [.name] [],
     inner .typeAscription (start + 1) stop [.type]
      [mark ":" (start + 1), typeNode field.type? (start + 3)]]

/-- The nodes between the brackets, and where the closing bracket stands. -/
def bodyNodes (start : Nat) : List OutlineField → List Node × Nat
  | [] => ([], start)
  | [field] => ([fieldNode field start], fieldStop field start + 1)
  | field :: rest =>
      let stop := fieldStop field start
      let later := bodyNodes (stop + 2) rest
      (fieldNode field start :: mark ";" stop :: later.1, later.2)

def node (outline : Outline) (start : Nat) : Node :=
  let clauses := match outline.base? with
    | some _ => [inner .extendsTypeClause (start + 12) (start + 21) []
        [mark "extends" (start + 12), inner .typeIdentifier (start + 20) (start + 21) [.type] []]]
    | none => []
  let bodyStart := start + if outline.base?.isSome then 22 else 12
  let body := bodyNodes (bodyStart + 2) outline.fields
  inner .interfaceDeclaration start (body.2 + 1) []
    ([mark "interface" start, inner .typeIdentifier (start + 10) (start + 11) [.name] []] ++
      clauses ++
      [inner (.other "interface_body") bodyStart (body.2 + 1) [.body]
        (mark "\x7b" bodyStart :: body.1 ++ [mark "\x7d" body.2])])

def nodesFrom (start : Nat) : List Outline → List Node
  | [] => []
  | outline :: rest =>
      let first := outline.node start
      first :: nodesFrom (first.label.stop + 1) rest

def sourceText (outlines : List Outline) : String :=
  "\n".intercalate (outlines.map text)

def sourceTree (outlines : List Outline) : Node :=
  inner (.other "program") 0 (sourceText outlines).utf8ByteSize [] (nodesFrom 0 outlines)

/-! Modules with one statement each of two lines: `import { B } from './b'` in front of an
interface, and `export interface …`. -/

def importText (name : Char) (specifier : String) : String :=
  "import \x7b " ++ String.singleton name ++ " \x7d from '" ++ specifier ++ "'"

def importNode (specifier : String) : Node :=
  let stop := 20 + specifier.length
  inner .importStatement 0 stop []
    [mark "import" 0,
     inner .importClause 7 12 []
      [inner .namedImports 7 12 []
        [mark "\x7b" 7,
         inner (.other "import_specifier") 9 10 [] [inner .identifier 9 10 [.name] []],
         mark "\x7d" 11]],
     mark "from" 13,
     inner .stringLiteral 18 stop [.source] [mark "'" 18, mark "'" (stop - 1)]]

def importingText (name : Char) (specifier : String) (outline : Outline) : String :=
  importText name specifier ++ "\n" ++ outline.text

def importingTree (specifier : String) (outline : Outline) : Node :=
  let first := importNode specifier
  let second := outline.node (first.label.stop + 1)
  inner (.other "program") 0 second.label.stop [] [first, second]

def exportingText (outline : Outline) : String := "export " ++ outline.text

def exportingTree (outline : Outline) : Node :=
  let declaration := outline.node 7
  let stop := declaration.label.stop
  inner (.other "program") 0 stop []
    [inner .exportStatement 0 stop []
      [mark "export" 0,
       inner declaration.label.kind 7 stop [.declaration] declaration.children]]

def program (outlines : List Outline) : Program :=
  Program.empty.store (.ofText "/ws/a.ts") (sourceText outlines) (sourceTree outlines)

theorem built_program (outlines : List Outline) : (program outlines).Built :=
  .store .empty _ _ _

/-- The interfaces of a source, by their place in it. -/
def site (outlines : List Outline) (place : Fin (program outlines).declarations.length) : Site :=
  (program outlines).declarations.get place

theorem site_mem_declarations (outlines : List Outline)
    (place : Fin (program outlines).declarations.length) :
    site outlines place ∈ (program outlines).declarations :=
  List.get_mem _ place

theorem site_mem_sites (outlines : List Outline)
    (place : Fin (program outlines).declarations.length) :
    site outlines place ∈ (program outlines).sites :=
  (Program.mem_declarations.1 (site_mem_declarations outlines place)).1

end Outline

end Keypath
