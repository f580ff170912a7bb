/-!
Labels of any characters, spelled in letters, digits and hyphens.

The plain characters come first. Behind the last hyphen the others follow in the order of their code
points: each is given by the distance from the one before it, counted over code points and places,
in digits whose weights follow the distances seen so far.
-/

namespace Keypath.Domain.Punycode

def digitChar (digit : Nat) : Char :=
  if digit < 26 then Char.ofNat ('a'.toNat + digit) else Char.ofNat ('0'.toNat + (digit - 26))

def digitValue? (c : Char) : Option Nat :=
  if 'a' ≤ c && c ≤ 'z' then some (c.toNat - 'a'.toNat)
  else if 'A' ≤ c && c ≤ 'Z' then some (c.toNat - 'A'.toNat)
  else if '0' ≤ c && c ≤ '9' then some (c.toNat - '0'.toNat + 26)
  else none

/-- The least digit that does not end a number, at the place with weight index `place`. -/
def threshold (place bias : Nat) : Nat :=
  if place ≤ bias then 1 else if bias + 26 ≤ place then 26 else place - bias

theorem threshold_pos (place bias : Nat) : 1 ≤ threshold place bias := by
  unfold threshold
  split
  · omega
  · split <;> omega

def shrink (delta place : Nat) : Nat × Nat :=
  if 455 < delta then shrink (delta / 35) (place + 36) else (delta, place)
termination_by delta
decreasing_by exact Nat.div_lt_self (by omega) (by omega)

def adapt (delta count : Nat) (isFirst : Bool) : Nat :=
  let halved := if isFirst then delta / 700 else delta / 2
  let (rest, place) := shrink (halved + halved / count) 0
  place + 36 * rest / (rest + 38)

/-! Writing. -/

/-- The digits of a distance, the lowest one first. -/
def digits (bias place distance : Nat) : List Char :=
  let t := threshold place bias
  if distance < t then [digitChar distance]
  else
    digitChar (t + (distance - t) % (36 - t)) ::
      digits bias (place + 36) ((distance - t) / (36 - t))
termination_by distance
decreasing_by
  have lower := threshold_pos place bias
  calc (distance - threshold place bias) / (36 - threshold place bias)
      ≤ distance - threshold place bias := Nat.div_le_self _ _
    _ < distance := by omega

structure Writing where
  written : List Char
  delta : Nat
  bias : Nat
  count : Nat

/-- Pass one character of the label while those with the code point `code` are placed. -/
def Writing.pass (plain code : Nat) (state : Writing) (other : Nat) : Writing :=
  if other < code then { state with delta := state.delta + 1 }
  else if other = code then
    { written := state.written ++ digits state.bias 36 state.delta
      delta := 0
      bias := adapt state.delta (state.count + 1) (state.count = plain)
      count := state.count + 1 }
  else state

/-- Place the characters with the given code points, which ascend from `next`. -/
def Writing.placeAll (label : List Nat) (plain : Nat) : Nat → List Nat → Writing → Writing
  | _, [], state => state
  | next, code :: rest, state =>
      let moved := { state with delta := state.delta + (code - next) * (state.count + 1) }
      let passed := label.foldl (Writing.pass plain code) moved
      placeAll label plain (code + 1) rest { passed with delta := passed.delta + 1 }

def encode (label : List Nat) : List Char :=
  let plain := (label.filter (· < 0x80)).map Char.ofNat
  let others := ((label.filter (0x80 ≤ ·)).mergeSort (· ≤ ·)).eraseDups
  let state := Writing.placeAll label plain.length 0x80 others ⟨[], 0, 72, plain.length⟩
  plain ++ (if plain.isEmpty then [] else ['-']) ++ state.written

/-! Reading. -/

/-- The distance that digits give, added to `total`, and what stands behind them. -/
def distance? (bias : Nat) : Nat → Nat → Nat → List Char → Option (Nat × List Char)
  | _, _, _, [] => none
  | place, weight, total, c :: rest =>
      match digitValue? c with
      | none => none
      | some digit =>
          let t := threshold place bias
          if digit < t then some (total + digit * weight, rest)
          else distance? bias (place + 36) (weight * (36 - t)) (total + digit * weight) rest

theorem length_distance? {bias place weight total : Nat} {text : List Char}
    {result : Nat × List Char} (h : distance? bias place weight total text = some result) :
    result.2.length < text.length := by
  induction text generalizing place weight total with
  | nil => simp [distance?] at h
  | cons c rest ih =>
      rw [distance?] at h
      split at h
      · simp at h
      · dsimp only at h
        split at h
        · simp only [Option.some.injEq] at h
          subst h
          simp
        · have := ih h
          simp only [List.length_cons]
          omega

/-- Place the characters whose distances are given; `label` holds those placed so far. -/
def placed? (bias code total : Nat) (label : List Nat) (text : List Char) : Option (List Nat) :=
  match text with
  | [] => some label
  | c :: rest =>
      match _given : distance? bias 36 1 total (c :: rest) with
      | none => none
      | some (next, behind) =>
          let count := label.length + 1
          let code := code + next / count
          if code < 0xD800 || (0xDFFF < code && code < 0x110000) then
            placed? (adapt (next - total) count (total = 0)) code (next % count + 1)
              (label.insertIdx (next % count) code) behind
          else none
termination_by text.length
decreasing_by
  have shorter := length_distance? _given
  simpa using shorter

def splitLastHyphen (text : List Char) : List Char × List Char :=
  let reversed := text.reverse
  match reversed.dropWhile (· ≠ '-') with
  | [] => ([], text)
  | _ :: before => (before.reverse, (reversed.takeWhile (· ≠ '-')).reverse)

def decode? (text : List Char) : Option (List Nat) :=
  let (plain, rest) := splitLastHyphen text
  if plain.any (0x80 ≤ ·.toNat) then none
  else placed? 72 0x80 0 (plain.map Char.toNat) rest

end Keypath.Domain.Punycode
