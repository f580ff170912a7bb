import Keypath.Fraction

/-!
Numbers of JSON: integers of 64 bits, and fractions with 53 binary digits for everything else.

A fraction is read by the way of its leading digits. As many of them as fit into 64 bits make an
integer; the integer is rounded, and then multiplied with or divided by a power of ten, which is
rounded again. The last digit may therefore come out differently from that of the nearest fraction.
-/

namespace Keypath

inductive Number where
  | integer (value : Int)
  | fraction (isNegative : Bool) (size : Fraction)
deriving DecidableEq, Repr

namespace Number

def text : Number → String
  | integer value => toString value
  | fraction isNegative size => (if isNegative then "-" else "") ++ size.text

/-- The number `digits * 10 ^ power`, with the digits taken up so far. -/
structure Leading where
  digits : Nat
  power : Int
  isFull : Bool
deriving DecidableEq, Repr

namespace Leading

def start : Leading := ⟨0, 0, false⟩

/-- A digit before the point. One that does not fit moves the point. -/
def takeWhole (leading : Leading) (digit : Nat) : Leading :=
  if leading.isFull || Nat.pow 2 64 ≤ 10 * leading.digits + digit then
    { leading with power := leading.power + 1, isFull := true }
  else { leading with digits := 10 * leading.digits + digit }

/-- A digit behind the point. One that does not fit is left out, with all behind it. -/
def takePart (leading : Leading) (digit : Nat) : Leading :=
  if leading.isFull || Nat.pow 2 64 ≤ 10 * leading.digits + digit then
    { leading with isFull := true }
  else ⟨10 * leading.digits + digit, leading.power - 1, false⟩

end Leading

def powerOfTen (power : Nat) : Fraction := (Fraction.mk (Nat.pow 10 power) 1).toBinary

/-- The largest power of ten that is multiplied or divided by at once. -/
def powerLimit : Nat := 308

/-- A fraction times a power of ten, unless it is too large; each of at most `steps` steps is
rounded. Fractions that are divided so often are zero. -/
def scaled? (steps : Nat) (x : Fraction) (power : Int) : Option Fraction :=
  match steps with
  | 0 => some x
  | steps + 1 =>
      if power.natAbs ≤ powerLimit then
        if 0 ≤ power then
          let product := (x.mul (powerOfTen power.natAbs)).toBinary
          if product.isEndless then none else some product
        else some (x.div (powerOfTen power.natAbs)).toBinary
      else if x.isZero then some x
      else if 0 ≤ power then none
      else scaled? steps (x.div (powerOfTen powerLimit)).toBinary (power + powerLimit)

def ofLeading? (isNegative : Bool) (leading : Leading) (exponent : Int) : Option Number :=
  (scaled? 4 (Fraction.mk leading.digits 1).toBinary (leading.power + exponent)).map
    (fraction isNegative)

/-- The number with the given digits before and behind the point; a number without a point and an
exponent is an integer if it fits. Zero has a sign as a fraction only. -/
def ofDigits? (isNegative : Bool) (whole : List Nat) (part : Option (List Nat))
    (exponent : Option Int) : Option Number :=
  let leading := whole.foldl Leading.takeWhole .start
  match part, exponent with
  | none, none =>
      if leading.isFull then ofLeading? isNegative leading 0
      else if !isNegative then some (integer leading.digits)
      else if 0 < leading.digits && leading.digits ≤ Nat.pow 2 63 then
        some (integer (-(leading.digits : Int)))
      else ofLeading? isNegative leading 0
  | _, _ =>
      let leading := (part.getD []).foldl Leading.takePart { leading with isFull := false }
      ofLeading? isNegative leading (exponent.getD 0)

end Number

end Keypath
