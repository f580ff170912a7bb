/-!
Kinds of syntax nodes.

The kinds that some rule of this library looks for have constructors of their own; every other kind
of the grammar is carried by name. `Kind.ofName` is the only way a name becomes a kind, so a name
with its own constructor never hides behind `other`.
-/

namespace Keypath.Tree

inductive Kind where
  | interfaceDeclaration
  | typeAliasDeclaration
  | propertySignature
  | extendsTypeClause
  | importStatement
  | exportStatement
  | ambientDeclaration
  | objectType
  | arrayType
  | genericType
  | parenthesizedType
  | readonlyType
  | predefinedType
  | literalType
  | templateLiteralType
  | typeAscription
  | typeIdentifier
  | nestedTypeIdentifier
  | identifier
  | stringLiteral
  | computedPropertyName
  | importClause
  | namedImports
  | namespaceImport
  | exportClause
  | namespaceExport
  | defaultKeyword
  | other (name : String)
deriving DecidableEq, Repr, Inhabited

namespace Kind

def name : Kind → String
  | interfaceDeclaration => "interface_declaration"
  | typeAliasDeclaration => "type_alias_declaration"
  | propertySignature => "property_signature"
  | extendsTypeClause => "extends_type_clause"
  | importStatement => "import_statement"
  | exportStatement => "export_statement"
  | ambientDeclaration => "ambient_declaration"
  | objectType => "object_type"
  | arrayType => "array_type"
  | genericType => "generic_type"
  | parenthesizedType => "parenthesized_type"
  | readonlyType => "readonly_type"
  | predefinedType => "predefined_type"
  | literalType => "literal_type"
  | templateLiteralType => "template_literal_type"
  | typeAscription => "type_annotation"
  | typeIdentifier => "type_identifier"
  | nestedTypeIdentifier => "nested_type_identifier"
  | identifier => "identifier"
  | stringLiteral => "string"
  | computedPropertyName => "computed_property_name"
  | importClause => "import_clause"
  | namedImports => "named_imports"
  | namespaceImport => "namespace_import"
  | exportClause => "export_clause"
  | namespaceExport => "namespace_export"
  | defaultKeyword => "default"
  | other name => name

def ofName (name : String) : Kind :=
  match name with
  | "interface_declaration" => interfaceDeclaration
  | "type_alias_declaration" => typeAliasDeclaration
  | "property_signature" => propertySignature
  | "extends_type_clause" => extendsTypeClause
  | "import_statement" => importStatement
  | "export_statement" => exportStatement
  | "ambient_declaration" => ambientDeclaration
  | "object_type" => objectType
  | "array_type" => arrayType
  | "generic_type" => genericType
  | "parenthesized_type" => parenthesizedType
  | "readonly_type" => readonlyType
  | "predefined_type" => predefinedType
  | "literal_type" => literalType
  | "template_literal_type" => templateLiteralType
  | "type_annotation" => typeAscription
  | "type_identifier" => typeIdentifier
  | "nested_type_identifier" => nestedTypeIdentifier
  | "identifier" => identifier
  | "string" => stringLiteral
  | "computed_property_name" => computedPropertyName
  | "import_clause" => importClause
  | "named_imports" => namedImports
  | "namespace_import" => namespaceImport
  | "export_clause" => exportClause
  | "namespace_export" => namespaceExport
  | "default" => defaultKeyword
  | name => other name

theorem name_ofName (text : String) : (ofName text).name = text := by
  unfold ofName
  split <;> rfl

/-- Interfaces and type aliases: the kinds that declare a type by name. -/
def isDeclaration : Kind → Bool
  | interfaceDeclaration | typeAliasDeclaration => true
  | _ => false

def isIdentifier : Kind → Bool
  | identifier | typeIdentifier => true
  | _ => false

end Kind

/-- The part a child plays for its parent. Several children may play one: each base of an extends
clause is a `type` of it. -/
inductive Role where
  | name
  | body
  | type
  | value
  | typeArguments
  | declaration
  | source
  | rename
  | qualifier
deriving DecidableEq, Repr

namespace Role

def ofName? : String → Option Role
  | "name" => some name
  | "body" => some body
  | "type" => some type
  | "value" => some value
  | "type_arguments" => some typeArguments
  | "declaration" => some declaration
  | "source" => some source
  | "alias" => some rename
  | "module" => some qualifier
  | _ => none

end Role

end Keypath.Tree
