import Keypath.Text.Hex
import Keypath.Text.Slice

/-!
Tables over code points.

A table is written as words in hexadecimal digits. `41` is one code point, `41-5A` a run of them and
`100~12E` every second one of a run; behind a colon stand the values of the run, divided by dots.
-/

namespace Keypath.Text

/-- Every `step`-th code point from `first` to `last`, and the values that go with them. -/
structure Run where
  first : Nat
  last : Nat
  step : Nat
  values : List Nat
deriving DecidableEq, Repr, Inhabited

namespace Run

def contains (run : Run) (code : Nat) : Bool :=
  run.first ≤ code && code ≤ run.last && (code - run.first) % run.step = 0

def ofWord (word : List Char) : Run :=
  let bounds := word.takeWhile (· ≠ ':')
  let values := (word.dropWhile (· ≠ ':')).drop 1
  let step := if bounds.contains '~' then 2 else 1
  let values :=
    if values.isEmpty then [] else (splitWhere (· = '.') values).map hexNumber
  match (splitWhere (fun c => c = '-' || c = '~') bounds).map hexNumber with
  | [first, last] => ⟨first, last, step, values⟩
  | [only] => ⟨only, only, step, values⟩
  | _ => ⟨1, 0, 1, []⟩

end Run

/-- A table that is read once and then looked up by code point. -/
structure CodeTable where
  runs : List Run
deriving Repr, Inhabited

namespace CodeTable

def isBlank (c : Char) : Bool := c = ' ' || c = '\n'

def ofText (text : String) : CodeTable :=
  ⟨((splitWhere isBlank text.toList).filter (!·.isEmpty)).map Run.ofWord⟩

def find? (table : CodeTable) (code : Nat) : Option Run :=
  table.runs.find? (·.contains code)

def contains (table : CodeTable) (code : Nat) : Bool :=
  table.runs.any (·.contains code)

end CodeTable

end Keypath.Text
