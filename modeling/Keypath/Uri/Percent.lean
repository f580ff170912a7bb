import Keypath.Text.Hex
import Keypath.Text.Utf8

namespace Keypath.Uri

def encodeByte (byte : UInt8) : List Char := '%' :: Text.hexPair byte

/-- Control characters, characters outside of ASCII and the given ones are written by their
bytes. -/
def encodeChar (reserved : List Char) (c : Char) : List Char :=
  if c.toNat < 0x20 || 0x7E < c.toNat || reserved.contains c then
    (Text.bytes c.toString).flatMap encodeByte
  else [c]

def encode (reserved : List Char) (text : List Char) : String :=
  String.ofList (text.flatMap (encodeChar reserved))

/-- A percent sign that no two digits follow stands for itself. -/
def decode : List Char → List UInt8
  | '%' :: high :: low :: rest =>
      match Text.hexByte? high low with
      | some byte => byte :: decode rest
      | none => Text.bytes "%" ++ decode (high :: low :: rest)
  | c :: rest => Text.bytes c.toString ++ decode rest
  | [] => []

def reservedInFragment : List Char := [' ', '"', '<', '>', '`']

def reservedInPath : List Char := reservedInFragment ++ ['#', '?', '\x7b', '\x7d']

def reservedInCredentials : List Char :=
  reservedInPath ++ ['/', ':', ';', '=', '@', '[', '\\', ']', '^', '|']

end Keypath.Uri
