import Keypath.Text.Invisible
import Keypath.Text.Utf8

/-!
Texts in double quotes, as log lines and messages show them.

A quote, a backslash and the usual control characters are written with a backslash; every other
character that would leave no mark is written by its code point, and a byte that belongs to no
character by its two digits.
-/

namespace Keypath.Text

def codePoint (c : Char) : List Char :=
  "\\u".toList ++ '\x7b' :: Nat.toDigits 16 c.toNat ++ ['\x7d']

def escape (c : Char) : List Char :=
  if c = '\\' || c = '"' then ['\\', c]
  else if c = '\n' then ['\\', 'n']
  else if c = '\t' then ['\\', 't']
  else if c = '\r' then ['\\', 'r']
  else if c = '\x00' then ['\\', '0']
  else if isInvisible c then codePoint c
  else [c]

def quoted (text : String) : String :=
  String.ofList ('"' :: text.toList.flatMap escape ++ ['"'])

def Piece.escape : Piece → List Char
  | char c => Text.escape c
  | broken bytes => bytes.flatMap fun byte => '\\' :: 'x' :: hexPair byte

def quotedBytes (bytes : List UInt8) : String :=
  String.ofList ('"' :: (pieces bytes).flatMap Piece.escape ++ ['"'])

end Keypath.Text
