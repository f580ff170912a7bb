import Keypath.Domain.Direction
import Keypath.Domain.Joining
import Keypath.Domain.Mapping
import Keypath.Domain.Mark
import Keypath.Domain.Punycode

/-!
Domain names, brought into the one form that machines use: small letters, digits and hyphens, with
labels of other characters spelled out.
-/

namespace Keypath.Domain

open Keypath.Text

def isForbidden (code : Nat) : Bool :=
  code ≤ 0x20 || code = 0x7F || "%#/:<>?@[\\]^|".toList.any (·.toNat = code)

def dot : Nat := '.'.toNat

def spelledMark : List Nat := "xn--".toList.map Char.toNat

def isPlain (label : List Nat) : Bool := label.all (· < 0x80)

def isLabel (label : List Nat) : Bool :=
  !(label.head?.any isMark) && joinersFit [] label

/-- The characters of a label that may be spelled out; nothing if it cannot be part of a name. -/
def characters? (label : List Nat) : Option (List Nat) :=
  if spelledMark.isPrefixOf label then
    match Punycode.decode? ((label.drop spelledMark.length).map Char.ofNat) with
    | some inner =>
        if !isPlain inner && inner.all isValid && composed inner = inner && isLabel inner then
          some inner
        else none
    | none => none
  else if isLabel label then some label
  else none

def spelled (label : List Nat) : List Nat :=
  if isPlain label then label
  else spelledMark ++ (Punycode.encode label).map Char.toNat

def normalize? (name : String) : Option String := do
  let codes ← name.toList.mapM fun c => mapped? c.toNat
  let codes := composed codes.flatten
  if codes.any isForbidden then none
  else
    let labels ← (splitWhere (· = dot) codes).mapM characters?
    if labels.any (·.any isLeftward) && !labels.all runsOneWay then none
    else
      some (String.ofList ((((labels.map spelled).intersperse [dot]).flatten).map Char.ofNat))

end Keypath.Domain
