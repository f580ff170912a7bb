/-!
Fractions with 53 binary digits, and their text.

Such a fraction is shown by the fewest decimal digits that read back as it.
-/

namespace Keypath

/-- A rational number that is not negative. -/
structure Fraction where
  numerator : Nat
  denominator : Nat
deriving DecidableEq, Repr

namespace Fraction

def scale (x : Fraction) (base : Nat) : Int → Fraction
  | .ofNat n => ⟨x.numerator * base.pow n, x.denominator⟩
  | .negSucc n => ⟨x.numerator, x.denominator * base.pow (n + 1)⟩

def floor (x : Fraction) : Nat := x.numerator / x.denominator

/-- The nearest integer; a half goes to the even neighbour. -/
def round (x : Fraction) : Nat :=
  let rest := x.numerator % x.denominator
  if 2 * rest < x.denominator then x.floor
  else if x.denominator < 2 * rest then x.floor + 1
  else if x.floor % 2 = 0 then x.floor
  else x.floor + 1

def same (x y : Fraction) : Bool :=
  x.numerator * y.denominator = y.numerator * x.denominator

def distance (x y : Fraction) : Fraction :=
  let a := x.numerator * y.denominator
  let b := y.numerator * x.denominator
  ⟨(a - b) + (b - a), x.denominator * y.denominator⟩

def le (x y : Fraction) : Bool :=
  x.numerator * y.denominator ≤ y.numerator * x.denominator

/-- The nearest fraction with 53 binary digits, or fewer near zero. -/
def toBinary (x : Fraction) : Fraction :=
  let lead : Int := (x.numerator.log2 : Int) - (x.denominator.log2 : Int)
  let low := max (lead - 53) (-1074)
  let exponent := if (x.scale 2 (-low)).floor < Nat.pow 2 53 then low else low + 1
  (Fraction.mk (x.scale 2 (-exponent)).round 1).scale 2 exponent

def mul (x y : Fraction) : Fraction :=
  ⟨x.numerator * y.numerator, x.denominator * y.denominator⟩

def div (x y : Fraction) : Fraction :=
  ⟨x.numerator * y.denominator, x.denominator * y.numerator⟩

def isZero (x : Fraction) : Bool := x.numerator = 0

/-- Whether a fraction lies beyond the largest one with an exponent of eleven bits. -/
def isEndless (x : Fraction) : Bool := Nat.pow 2 1024 * x.denominator ≤ x.numerator

/-- The power of ten at the leading digit. -/
def leadingPower (x : Fraction) : Int :=
  if x.denominator ≤ x.numerator then
    ((Nat.toDigits 10 x.floor).length : Int) - 1
  else
    match (List.range 400).find? fun j => x.denominator ≤ x.numerator * Nat.pow 10 j with
    | some j => -(j : Int)
    | none => -400

end Fraction

structure Digits where
  digits : Nat
  power : Int
deriving DecidableEq, Repr

namespace Digits

def toFraction (d : Digits) : Fraction := (Fraction.mk d.digits 1).scale 10 d.power

/-- Of the two neighbours of a binary fraction with so many digits, the nearer one that reads back
as it; of two that lie equally near, the even one. -/
def withLength? (x : Fraction) (length : Nat) : Option Digits :=
  let power := x.leadingPower - ((length : Int) - 1)
  let below := (x.scale 10 (-power)).floor
  let reads := ([below, below + 1].map fun digits => Digits.mk digits power).filter fun d =>
    0 < d.digits && d.toFraction.toBinary.same x
  match reads with
  | [low, high] =>
      let toLow := low.toFraction.distance x
      let toHigh := high.toFraction.distance x
      if toLow.same toHigh then some (if low.digits % 2 = 0 then low else high)
      else some (if toLow.le toHigh then low else high)
  | [only] => some only
  | _ => none

def trim : Nat → Digits → Digits
  | 0, d => d
  | fuel + 1, d =>
      if d.digits ≠ 0 && d.digits % 10 = 0 then trim fuel ⟨d.digits / 10, d.power + 1⟩ else d

/-- The fewest digits that read back as a binary fraction; seventeen are always enough. -/
def shortest (x : Fraction) : Digits :=
  match (List.range 17).findSome? fun n => withLength? x (n + 1) with
  | some d => trim 20 d
  | none => ⟨0, 0⟩

/-- Written out up to sixteen places before the point and five zeros behind it, else with an
exponent. -/
def render (d : Digits) : String :=
  let digits := Nat.toDigits 10 d.digits
  let count : Int := digits.length
  let point := count + d.power
  let zeros (n : Int) : List Char := List.replicate n.toNat '0'
  String.ofList <|
    if 0 ≤ d.power && point ≤ 16 then digits ++ zeros d.power ++ ['.', '0']
    else if 0 < point && point ≤ 16 then
      digits.take point.toNat ++ '.' :: digits.drop point.toNat
    else if -5 < point && point ≤ 0 then '0' :: '.' :: zeros (-point) ++ digits
    else
      let sign := if 0 < point then ['+'] else []
      let exponent := 'e' :: sign ++ (toString (point - 1)).toList
      match digits with
      | first :: [] => first :: exponent
      | first :: rest => first :: '.' :: rest ++ exponent
      | [] => exponent

end Digits

namespace Fraction

def text (x : Fraction) : String := if x.isZero then "0.0" else (Digits.shortest x).render

end Fraction

end Keypath
