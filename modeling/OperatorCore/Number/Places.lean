import OperatorCore.Number.Shortest

/-!
# Numbers with a given number of digits

Texts of floating-point numbers that are rounded to some digits: behind the point, or significant
ones. A half goes to the even neighbour, and since the numbers are exact, a tie is a real one. The
rounding is one function on natural numbers, whose result is within half a unit of the quotient
(`roundDiv_within`).
-/

namespace OperatorCore

/-- The nearest integer to a quotient, a half going to the even neighbour. -/
def roundDiv (num den : Nat) : Nat :=
  let whole := num / den
  let twice := 2 * (num % den)
  if twice < den then whole else if den < twice then whole + 1 else whole + whole % 2

theorem roundDiv_within (num den : Nat) (h : 0 < den) :
    2 * (roundDiv num den * den) ≤ 2 * num + den ∧ 2 * num ≤ 2 * (roundDiv num den * den) + den := by
  have hdiv : den * (num / den) + num % den = num := Nat.div_add_mod num den
  have hmod : num % den < den := Nat.mod_lt _ h
  have hcomm : num / den * den = den * (num / den) := Nat.mul_comm _ _
  unfold roundDiv
  simp only
  split
  · omega
  · split
    · rw [Nat.add_mul]
      omega
    · rcases Nat.mod_two_eq_zero_or_one (num / den) with hpar | hpar <;>
      rw [hpar, Nat.add_mul] <;> omega

namespace Binary64

/-- The nearest integer to the number times a factor; nothing for an infinity. -/
def timesRounded? (x : Binary64) (factor : Nat) : Option Int :=
  match x.parts with
  | .finite negative m e _ =>
    let r := Shortest.scaled (m * factor) 2 e
    some (signed negative (roundDiv r.num r.den))
  | _ => none

/-- The nearest number to an integer; nothing for an integer beyond all numbers. -/
def ofInt? (n : Int) : Option Binary64 :=
  let x := ofDecimal (n < 0) n.natAbs 0
  match x.parts with
  | .finite .. => some x
  | _ => none

end Binary64

/-- How the digits of a number are written. -/
inductive Notation where
  /-- Positionally, with a number of digits behind the point. -/
  | fixed
  /-- With one digit before the point, a number of digits behind it, and an exponent. -/
  | exponential
  /-- With a number of significant digits, positionally if the exponent is neither small nor
  large. -/
  | general
deriving DecidableEq

/-- A text of a number with some digits. -/
structure Places where
  form : Notation
  digits : Nat
  /-- The point is written in any case, and zeros at the end are kept. -/
  full : Bool
deriving DecidableEq

namespace Places

open Shortest

/-- Digits with zeros in front, up to a width. -/
def zeros (width : Nat) (digits : List Char) : List Char :=
  List.replicate (width - digits.length) '0' ++ digits

/-- The digits before and behind the point, rounded to some places. -/
def split (r : Ratio) (places : Nat) : List Char × List Char :=
  let digits := zeros (places + 1) (Nat.toDigits 10 (roundDiv (r.num * Nat.pow 10 places) r.den))
  (digits.take (digits.length - places), digits.drop (digits.length - places))

/-- The first significant digits and the power of ten of the first one. -/
def leading (r : Ratio) (count : Nat) : List Char × Int :=
  if r.num = 0 then (List.replicate count '0', 0)
  else
    let top := magnitude r
    let unit := scaled 1 10 (top + 1 - count)
    let n := roundDiv (r.num * unit.den) (r.den * unit.num)
    if n = Nat.pow 10 count then (Nat.toDigits 10 (n / 10), top + 1) else (Nat.toDigits 10 n, top)

/-- Digits around a point, which is left out if nothing follows it. -/
def pointed (full : Bool) (whole fraction : List Char) : List Char :=
  if fraction = [] && !full then whole else whole ++ '.' :: fraction

def exponentText (e : Int) : List Char :=
  'e' :: (if e < 0 then '-' else '+') :: zeros 2 (Nat.toDigits 10 e.natAbs)

/-- Digits behind a point without the zeros at their end. -/
def stripped (full : Bool) (fraction : List Char) : List Char :=
  if full then fraction else (fraction.reverse.dropWhile (· == '0')).reverse

/-- The text of a number that is not negative. -/
def write (p : Places) (r : Ratio) : List Char :=
  match p.form with
  | .fixed =>
    let (whole, fraction) := split r p.digits
    pointed p.full whole fraction
  | .exponential =>
    let (digits, e) := leading r (p.digits + 1)
    pointed p.full (digits.take 1) (digits.drop 1) ++ exponentText e
  | .general =>
    let count := max 1 p.digits
    let (digits, e) := leading r count
    if -4 ≤ e && e < count then
      let (whole, fraction) := split r ((count : Int) - 1 - e).toNat
      pointed p.full whole (stripped p.full fraction)
    else
      pointed p.full (digits.take 1) (stripped p.full (digits.drop 1)) ++ exponentText e

/-- The text of a number. -/
def text (p : Places) (x : Binary64) : List Char :=
  match x.parts with
  | .undefined => "nan".toList
  | .infinite negative => (if negative then ['-'] else []) ++ "inf".toList
  | .finite negative m e _ => (if negative then ['-'] else []) ++ p.write (scaled m 2 e)

end Places

end OperatorCore
