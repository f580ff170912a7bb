import Keypath.Text.Hex
import Keypath.Text.Slice

/-!
Numeric addresses of machines, in four bytes or in eight pieces of two bytes.

The four bytes may be written in up to four numbers, each in base ten, eight (`0` in front) or
sixteen (`0x` in front); the last number fills all bytes that are left. The eight pieces are written
in base sixteen, and the longest run of zeros among them may be left out.
-/

namespace Keypath.Uri

/-! Four bytes. -/

def digitsOfNumber : List Char → List Char × Nat
  | '0' :: 'x' :: digits => (digits, 16)
  | '0' :: 'X' :: digits => (digits, 16)
  | '0' :: digit :: digits => (digit :: digits, 8)
  | digits => (digits, 10)

/-- The number that a part of an address gives; no digits behind a base count as zero. -/
def number? (text : List Char) : Option Nat :=
  if text.isEmpty then none
  else
    let (digits, base) := digitsOfNumber text
    digits.foldlM (fun number digit =>
      match Text.hexValue? digit with
      | some value => if value < base then some (base * number + value) else none
      | none => none) 0

/-- The parts between dots; one dot at the end does not count. -/
def addressParts (text : List Char) : List (List Char) :=
  let parts := Text.splitWhere (· = '.') text
  if parts.getLast? = some [] then parts.dropLast else parts

/-- Whether a name is an address, as its last part tells. -/
def endsInNumber (text : List Char) : Bool :=
  match (addressParts text).getLast? with
  | some last => (!last.isEmpty && last.all Char.isDigit) || (number? last).isSome
  | none => false

def joinNumbers? : List Nat → Option Nat
  | [] => none
  | numbers =>
      let heads := numbers.dropLast
      let last := numbers.getLast?.getD 0
      if 4 ≤ heads.length || heads.any (255 < ·) || Nat.pow 256 (4 - heads.length) ≤ last then none
      else
        let high := heads.foldl (fun sum byte => 256 * sum + byte) 0
        some (high * Nat.pow 256 (4 - heads.length) + last)

def address4? (text : List Char) : Option Nat :=
  ((addressParts text).mapM number?).bind joinNumbers?

def renderAddress4 (address : Nat) : String :=
  ".".intercalate ([3, 2, 1, 0].map fun place => toString (address / Nat.pow 256 place % 256))

/-! Eight pieces. -/

/-- One to four digits. -/
def piece? (text : List Char) : Option Nat :=
  if text.isEmpty || 4 < text.length || !text.all fun c => (Text.hexValue? c).isSome then none
  else some (Text.hexNumber text)

/-- A byte in base ten, without zeros in front. -/
def decimalByte? (text : List Char) : Option Nat :=
  if text.isEmpty || !text.all Char.isDigit || (text.head? = some '0' && text.length ≠ 1) then none
  else
    let value := text.foldl (fun number digit => 10 * number + (digit.toNat - '0'.toNat)) 0
    if value ≤ 255 then some value else none

/-- The pieces between colons; the last two may be written as four bytes. -/
def pieces? : List (List Char) → Option (List Nat)
  | [] => some []
  | [last] =>
      if last.contains '.' then
        match (Text.splitWhere (· = '.') last).mapM decimalByte? with
        | some [a, b, c, d] => some [256 * a + b, 256 * c + d]
        | _ => none
      else (piece? last).map ([·])
  | text :: rest =>
      match piece? text, pieces? rest with
      | some piece, some pieces => some (piece :: pieces)
      | _, _ => none

def piecesOfText? (text : List Char) : Option (List Nat) :=
  if text.isEmpty then some [] else pieces? (Text.splitWhere (· = ':') text)

def splitDoubleColon? : List Char → Option (List Char × List Char)
  | ':' :: ':' :: rest => some ([], rest)
  | c :: rest => (splitDoubleColon? rest).map fun (before, behind) => (c :: before, behind)
  | [] => none

/-- An address in eight pieces. Two colons in a row stand for at least one piece of zero, and bytes
come only at the very end. -/
def address6? (text : List Char) : Option (List Nat) :=
  match splitDoubleColon? text with
  | none =>
      match piecesOfText? text with
      | some pieces => if pieces.length = 8 then some pieces else none
      | none => none
  | some (before, behind) =>
      if before.contains '.' then none
      else
        match piecesOfText? before, piecesOfText? behind with
        | some front, some back =>
            if front.length + back.length ≤ 7 then
              some (front ++ List.replicate (8 - front.length - back.length) 0 ++ back)
            else none
        | _, _ => none

def leadingZeros (pieces : List Nat) : Nat := (pieces.takeWhile (· = 0)).length

/-- The start of the longest run of zeros, if there is one of at least two; the first of several. -/
def longestZeros? (pieces : List Nat) : Option Nat :=
  let runs := (List.range pieces.length).map fun start => (leadingZeros (pieces.drop start), start)
  match runs.foldl (fun best run => if best.1 < run.1 then run else best) (1, 0) with
  | (1, _) => none
  | (_, start) => some start

def hexText (piece : Nat) : String := String.ofList (Nat.toDigits 16 piece)

def renderPieces (pieces : List Nat) : String := ":".intercalate (pieces.map hexText)

def renderAddress6 (pieces : List Nat) : String :=
  match longestZeros? pieces with
  | none => renderPieces pieces
  | some start =>
      renderPieces (pieces.take start) ++ "::" ++
        renderPieces (pieces.drop (start + leadingZeros (pieces.drop start)))

end Keypath.Uri
