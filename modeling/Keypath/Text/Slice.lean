namespace Keypath.Text

/-- The part of a text between two byte offsets that fall between characters. -/
def slice (text : String) (start stop : Nat) : String :=
  String.Pos.Raw.extract text ⟨start⟩ ⟨stop⟩

theorem slice_of_le (text : String) {start stop : Nat} (h : stop ≤ start) :
    slice text start stop = "" :=
  if_pos h

/-- The pieces between the items that `mark` picks, empty ones included. -/
def splitWhere (mark : α → Bool) (items : List α) : List (List α) :=
  items.foldr (fun item pieces =>
    if mark item then [] :: pieces
    else
      match pieces with
      | [] => [[item]]
      | piece :: rest => (item :: piece) :: rest)
    [[]]

def trimMarks (marks : List Char) (text : String) : String :=
  let inner := text.toList.dropWhile (marks.contains ·)
  String.ofList (inner.reverse.dropWhile (marks.contains ·)).reverse

def beforeEnding? (ending text : String) : Option String :=
  if ending.toList.isSuffixOf text.toList then
    some (String.ofList (text.toList.take (text.length - ending.length)))
  else none

end Keypath.Text
