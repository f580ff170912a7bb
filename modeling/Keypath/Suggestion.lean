import Keypath.Schema.Basic

namespace Keypath

structure Suggestion where
  path : String
  isLeaf : Bool
  kind : Option TypeKind
  detail : Option String
deriving DecidableEq, Repr

/-- A key below a path; below the empty path it stands alone. -/
def dotted (base key : String) : String :=
  if base = "" then key else base ++ "." ++ key

def Entry.suggestion (path : String) (entry : Entry) : Suggestion :=
  ⟨path, !entry.hasChildren, entry.kind, entry.detail⟩

mutual

def Entry.suggestionsAt (path : String) : Entry → List Suggestion
  | ⟨kind, elementKind, children, detail⟩ =>
      Entry.suggestion path ⟨kind, elementKind, children, detail⟩ ::
        suggestionsOfChildren path children

def Entry.suggestionsOfChildren (path : String) : Option (Table String Entry) → List Suggestion
  | none => []
  | some ⟨entries⟩ => suggestionsOfEntries path entries

def Entry.suggestionsOfEntries (base : String) : List (String × Entry) → List Suggestion
  | [] => []
  | (key, entry) :: rest =>
      entry.suggestionsAt (dotted base key) ++ suggestionsOfEntries base rest

end

def Schema.suggestions (schema : Schema) (base : String) : List Suggestion :=
  Entry.suggestionsOfEntries base schema.entries

inductive ItemKind where
  | field
  | container
deriving DecidableEq, Repr

structure CompletionItem where
  label : String
  kind : ItemKind
  detail : Option String
  sortText : String
deriving DecidableEq, Repr

def zeroPadded (width number : Nat) : String :=
  let digits := Nat.toDigits 10 number
  String.ofList (List.replicate (width - digits.length) '0' ++ digits)

def Suggestion.item (index : Nat) (suggestion : Suggestion) : CompletionItem :=
  ⟨suggestion.path, if suggestion.isLeaf then .field else .container, suggestion.detail,
    zeroPadded 5 index⟩

/-- The first `limit` suggestions, numbered in their order. -/
def completionItems (suggestions : List Suggestion) (limit : Nat) : List CompletionItem :=
  (suggestions.take limit).mapIdx Suggestion.item

end Keypath
