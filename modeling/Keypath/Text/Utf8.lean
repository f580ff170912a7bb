/-!
Text as bytes, and text from bytes.

Bytes that spell characters give those characters. Where they do not, the longest run of bytes that
could still have become a character is one broken piece, and reading goes on behind it.
-/

namespace Keypath.Text

def bytes (text : String) : List UInt8 := text.toUTF8.data.toList

inductive Piece where
  | char (c : Char)
  | broken (bytes : List UInt8)
deriving DecidableEq, Repr

structure Begun where
  /-- The bytes so far, the last one first. -/
  taken : List UInt8
  /-- How many bytes are still owed. -/
  owed : Nat
  /-- The range of the next byte, both ends included. -/
  low : Nat
  high : Nat
  value : Nat
deriving DecidableEq, Repr

def brokenMark : Char := Char.ofNat 0xFFFD

namespace Begun

def ofByte? (byte : UInt8) : Option Begun :=
  let n := byte.toNat
  if n < 0x80 then some ⟨[byte], 0, 0x80, 0xBF, n⟩
  else if 0xC2 ≤ n && n ≤ 0xDF then some ⟨[byte], 1, 0x80, 0xBF, n - 0xC0⟩
  else if n = 0xE0 then some ⟨[byte], 2, 0xA0, 0xBF, 0⟩
  else if n = 0xED then some ⟨[byte], 2, 0x80, 0x9F, 0xD⟩
  else if 0xE1 ≤ n && n ≤ 0xEF then some ⟨[byte], 2, 0x80, 0xBF, n - 0xE0⟩
  else if n = 0xF0 then some ⟨[byte], 3, 0x90, 0xBF, 0⟩
  else if n = 0xF4 then some ⟨[byte], 3, 0x80, 0x8F, 4⟩
  else if 0xF1 ≤ n && n ≤ 0xF3 then some ⟨[byte], 3, 0x80, 0xBF, n - 0xF0⟩
  else none

def next? (begun : Begun) (byte : UInt8) : Option Begun :=
  if begun.low ≤ byte.toNat && byte.toNat ≤ begun.high then
    some ⟨byte :: begun.taken, begun.owed - 1, 0x80, 0xBF,
      64 * begun.value + (byte.toNat - 0x80)⟩
  else none

def abandon (begun : Begun) : Piece := .broken begun.taken.reverse

/-- A character that owes nothing is done. -/
def settle (begun : Begun) : List Piece × Option Begun :=
  if begun.owed = 0 then ([.char (Char.ofNat begun.value)], none) else ([], some begun)

def afresh (byte : UInt8) : List Piece × Option Begun :=
  match ofByte? byte with
  | some begun => begun.settle
  | none => ([.broken [byte]], none)

/-- What a byte adds to the text, and the character it leaves open. -/
def step (byte : UInt8) : Option Begun → List Piece × Option Begun
  | none => afresh byte
  | some begun =>
      match begun.next? byte with
      | some next => next.settle
      | none => (begun.abandon :: (afresh byte).1, (afresh byte).2)

end Begun

def piecesFrom : Option Begun → List UInt8 → List Piece
  | none, [] => []
  | some begun, [] => [begun.abandon]
  | begun, byte :: rest =>
      let (pieces, next) := Begun.step byte begun
      pieces ++ piecesFrom next rest

def pieces (bytes : List UInt8) : List Piece := piecesFrom none bytes

def Piece.shown : Piece → Char
  | char c => c
  | broken _ => brokenMark

def ofBytes (bytes : List UInt8) : String := String.ofList ((pieces bytes).map Piece.shown)

end Keypath.Text
