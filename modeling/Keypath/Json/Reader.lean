import Keypath.Json.Basic

/-!
Reading JSON.

The fields of an object are kept in the order of their names; of several with one name the last
counts.
-/

namespace Keypath.Json

def isBlank (c : Char) : Bool := c = ' ' || c = '\n' || c = '\t' || c = '\r'

def skipBlanks (text : List Char) : List Char := text.dropWhile isBlank

/-! Texts. -/

inductive Spelling where
  | plain
  /-- Behind a backslash, and perhaps behind the first half of a pair. -/
  | escape (high : Option Nat)
  | digits (high : Option Nat) (owed value : Nat)
  /-- Behind the first half of a pair. -/
  | half (high : Nat)
deriving DecidableEq, Repr

def isHighHalf (value : Nat) : Bool := 0xD800 ≤ value && value < 0xDC00

def isLowHalf (value : Nat) : Bool := 0xDC00 ≤ value && value < 0xE000

def escaped? (c : Char) : Option Char :=
  match c with
  | '"' => some '"'
  | '\\' => some '\\'
  | '/' => some '/'
  | 'b' => some '\x08'
  | 'f' => some '\x0c'
  | 'n' => some '\n'
  | 'r' => some '\r'
  | 't' => some '\t'
  | _ => none

def Spelling.step (c : Char) : Spelling → Option (Option Char × Spelling)
  | plain =>
      if c = '\\' then some (none, escape none)
      else if c.toNat < 0x20 then none
      else some (some c, plain)
  | escape high =>
      if c = 'u' then some (none, digits high 3 0)
      else
        match high, escaped? c with
        | none, some character => some (some character, plain)
        | _, _ => none
  | digits high owed value =>
      match Text.hexValue? c with
      | none => none
      | some digit =>
          let value := 16 * value + digit
          match owed, high with
          | owed + 1, _ => some (none, digits high owed value)
          | 0, none =>
              if isHighHalf value then some (none, half value)
              else if isLowHalf value then none
              else some (some (Char.ofNat value), plain)
          | 0, some high =>
              if isLowHalf value then
                some (some (Char.ofNat (0x10000 + 0x400 * (high - 0xD800) + (value - 0xDC00))),
                  plain)
              else none
  | half high => if c = '\\' then some (none, escape (some high)) else none

/-- The text up to its closing quote, and what stands behind it; `done` holds the characters so far,
the last one first. -/
def readText (done : List Char) (spelling : Spelling) : List Char → Option (String × List Char)
  | [] => none
  | c :: rest =>
      if spelling = .plain && c = '"' then some (String.ofList done.reverse, rest)
      else
        match spelling.step c with
        | some (some character, next) => readText (character :: done) next rest
        | some (none, next) => readText done next rest
        | none => none

/-! Numbers. -/

def digitValues (digits : List Char) : List Nat := digits.map fun c => c.toNat - '0'.toNat

def readDigits (text : List Char) : Option (List Nat × List Char) :=
  let digits := text.takeWhile Char.isDigit
  if digits.isEmpty then none else some (digitValues digits, text.dropWhile Char.isDigit)

def readSign (text : List Char) : Bool × List Char :=
  match text with
  | '-' :: rest => (true, rest)
  | '+' :: rest => (false, rest)
  | _ => (false, text)

def readPart (text : List Char) : Option (Option (List Nat) × List Char) :=
  match text with
  | '.' :: rest => (readDigits rest).map fun (part, behind) => (some part, behind)
  | _ => some (none, text)

def readExponent (text : List Char) : Option (Option Int × List Char) :=
  match text with
  | c :: rest =>
      if c = 'e' || c = 'E' then
        let (isNegative, rest) := readSign rest
        (readDigits rest).map fun (digits, behind) =>
          let size : Nat := digits.foldl (fun number digit => 10 * number + digit) 0
          (some (if isNegative then -(size : Int) else size), behind)
      else some (none, text)
  | [] => some (none, [])

def readNumber (text : List Char) : Option (Number × List Char) := do
  let (isNegative, rest) := match text with
    | '-' :: rest => (true, rest)
    | _ => (false, text)
  let (whole, rest) ← readDigits rest
  let (part, rest) ← readPart rest
  let (exponent, rest) ← readExponent rest
  if 1 < whole.length && whole.head? = some 0 then none
  else
    let number ← Number.ofDigits? isNegative whole part exponent
    return (number, rest)

/-! Values. -/

def insertField (name : String) (value : Json) : List (String × Json) → List (String × Json)
  | [] => [(name, value)]
  | (other, old) :: rest =>
      if name = other then (name, value) :: rest
      else if name < other then (name, value) :: (other, old) :: rest
      else (other, old) :: insertField name value rest

mutual

/-- A value and what stands behind it. Each call consumes a character, so that the length of the
text is fuel enough. -/
def readValue (fuel : Nat) (text : List Char) : Option (Json × List Char) :=
  match fuel with
  | 0 => none
  | fuel + 1 =>
      match skipBlanks text with
      | '"' :: rest => (readText [] .plain rest).map fun (text, behind) => (string text, behind)
      | '[' :: rest =>
          match skipBlanks rest with
          | ']' :: behind => some (array [], behind)
          | rest => readItems fuel [] rest
      | '\x7b' :: rest =>
          match skipBlanks rest with
          | '\x7d' :: behind => some (object [], behind)
          | rest => readFields fuel [] rest
      | 'n' :: 'u' :: 'l' :: 'l' :: behind => some (null, behind)
      | 't' :: 'r' :: 'u' :: 'e' :: behind => some (bool true, behind)
      | 'f' :: 'a' :: 'l' :: 's' :: 'e' :: behind => some (bool false, behind)
      | rest => (readNumber rest).map fun (value, behind) => (number value, behind)

def readItems (fuel : Nat) (done : List Json) (text : List Char) : Option (Json × List Char) :=
  match fuel with
  | 0 => none
  | fuel + 1 =>
      match readValue fuel text with
      | none => none
      | some (item, behind) =>
          match skipBlanks behind with
          | ',' :: rest => readItems fuel (item :: done) rest
          | ']' :: rest => some (array (item :: done).reverse, rest)
          | _ => none

def readFields (fuel : Nat) (done : List (String × Json)) (text : List Char) :
    Option (Json × List Char) :=
  match fuel with
  | 0 => none
  | fuel + 1 =>
      match skipBlanks text with
      | '"' :: rest =>
          match readText [] .plain rest with
          | none => none
          | some (name, behind) =>
              match skipBlanks behind with
              | ':' :: rest =>
                  match readValue fuel rest with
                  | none => none
                  | some (value, behind) =>
                      match skipBlanks behind with
                      | ',' :: rest => readFields fuel (insertField name value done) rest
                      | '\x7d' :: rest => some (object (insertField name value done), rest)
                      | _ => none
              | _ => none
      | _ => none

end

/-- The value that a text spells, with nothing but blanks around it. -/
def parse? (text : String) : Option Json :=
  match readValue (text.length + 1) text.toList with
  | some (json, rest) => if (skipBlanks rest).isEmpty then some json else none
  | none => none

end Keypath.Json
