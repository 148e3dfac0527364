/-!
# Floating-point numbers, exactly

A 64-bit floating-point number is held as its bit pattern, which makes equality decidable and every
statement about it one about natural numbers. `Binary64.parts` reads the pattern as
`± m · 2 ^ e`; all exact arithmetic starts from there.
-/

namespace OperatorCore

/-- A binary floating-point number of 64 bits, held as its bit pattern. -/
structure Binary64 where
  bits : UInt64
deriving DecidableEq, Inhabited

namespace Binary64

/-- What a bit pattern stands for. A finite number is `m · 2 ^ e`; `atPowerOfTwo` tells that the gap
to the next smaller number is half as wide as the gap to the next larger one. -/
inductive Parts where
  | finite (negative : Bool) (m : Nat) (e : Int) (atPowerOfTwo : Bool)
  | infinite (negative : Bool)
  | undefined
deriving DecidableEq

/-- The sign bit. -/
def negative (x : Binary64) : Bool := Nat.pow 2 63 ≤ x.bits.toNat

/-- The number that a bit pattern stands for. -/
def parts (x : Binary64) : Parts :=
  let fraction : Nat := x.bits.toNat % Nat.pow 2 52
  let exponent : Nat := x.bits.toNat / Nat.pow 2 52 % Nat.pow 2 11
  if exponent = 2047 then
    if fraction = 0 then .infinite x.negative else .undefined
  else if exponent = 0 then .finite x.negative fraction (-1074) false
  else .finite x.negative (Nat.pow 2 52 + fraction) ((exponent : Int) - 1075)
    (fraction = 0 && exponent != 1)

/-- Zero, with either sign. -/
def isZero (x : Binary64) : Bool := x.bits.toNat % Nat.pow 2 63 = 0

def signed (negative : Bool) (n : Nat) : Int := if negative then -(n : Int) else n

/-- The integer that the number equals, if it is one. -/
def integer? (x : Binary64) : Option Int :=
  match x.parts with
  | .finite negative m e _ =>
    if 0 ≤ e then some (signed negative (m * Nat.pow 2 e.toNat))
    else
      let scale := Nat.pow 2 (-e).toNat
      if m % scale = 0 then some (signed negative (m / scale)) else none
  | _ => none

/-- The number rounded toward zero; nothing for an infinity. -/
def truncate? (x : Binary64) : Option Int :=
  match x.parts with
  | .finite negative m e _ =>
    some (signed negative (if 0 ≤ e then m * Nat.pow 2 e.toNat else m / Nat.pow 2 (-e).toNat))
  | _ => none

/-- How the number stands to an integer; nothing for what is not a number. -/
def order? (x : Binary64) (n : Int) : Option Ordering :=
  match x.parts with
  | .finite negative m e _ =>
    if 0 ≤ e then some (compare (signed negative (m * Nat.pow 2 e.toNat)) n)
    else some (compare (signed negative m) (n * Nat.pow 2 (-e).toNat))
  | .infinite negative => some (if negative then .lt else .gt)
  | .undefined => none

/-- An infinity. -/
def infinity (negative : Bool) : Binary64 :=
  ⟨if negative then 0xfff0000000000000 else 0x7ff0000000000000⟩

/-- What is not a number. -/
def undefined : Binary64 := ⟨0x7ff8000000000000⟩

/-- The nearest number to `± m · 10 ^ e`. Beyond four hundred places on either side of the point,
all numbers are the same. -/
def ofDecimal (negative : Bool) (m : Nat) (e : Int) : Binary64 :=
  let places : Int := (Nat.toDigits 10 m).length
  let e := max (-400 - places) (min e 400)
  let magnitude := Float.ofScientific m (e < 0) e.natAbs
  ⟨(if negative then -magnitude else magnitude).toBits⟩

/-- The nearest number to `± m · 2 ^ e`. -/
def ofDyadic (negative : Bool) (m : Nat) (e : Int) : Binary64 :=
  if 0 ≤ e then ofDecimal negative (m * Nat.pow 2 e.toNat) 0
  else ofDecimal negative (m * Nat.pow 5 (-e).toNat) e

end Binary64

end OperatorCore
