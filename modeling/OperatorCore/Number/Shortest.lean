import OperatorCore.Number.Binary64

/-!
# The shortest decimal that reads back

A finite positive number `m · 2 ^ e` is the nearest one to every real number of an interval around
it. Its shortest decimal is found by trying the grids of 1, 2, … 17 significant digits in turn: on
each grid only the two neighbours of the number can be the nearest ones, so a grid has a point in
the interval just when one of these two is in it. The first grid with such a point is taken, and of
two points the nearer one. All arithmetic is on natural numbers and exact.
-/

namespace OperatorCore.Shortest

/-- A positive rational number. -/
structure Ratio where
  num : Nat
  den : Nat

def Ratio.le (a b : Ratio) : Bool := a.num * b.den ≤ b.num * a.den

def Ratio.lt (a b : Ratio) : Bool := a.num * b.den < b.num * a.den

/-- `n · b ^ e` for a base and a signed exponent. -/
def scaled (n b : Nat) (e : Int) : Ratio :=
  if 0 ≤ e then ⟨n * Nat.pow b e.toNat, 1⟩ else ⟨n, Nat.pow b (-e).toNat⟩

def digitCount (n : Nat) : Nat := (Nat.toDigits 10 n).length

/-- The exponent `k` with `10 ^ k ≤ r < 10 ^ (k + 1)`, for numbers not below `10 ^ (-330)`. -/
def magnitude (r : Ratio) : Int := (digitCount (r.num * Nat.pow 10 330 / r.den) : Int) - 331

/-- The real numbers that round to `m · 2 ^ e`: its ends belong to it if `m` is even. -/
structure Interval where
  lo : Ratio
  hi : Ratio
  closed : Bool

def Interval.of (m : Nat) (e : Int) (atPowerOfTwo : Bool) : Interval :=
  { lo := scaled (4 * m - if atPowerOfTwo then 1 else 2) 2 (e - 2)
    hi := scaled (4 * m + 2) 2 (e - 2)
    closed := m % 2 == 0 }

def Interval.has (i : Interval) (r : Ratio) : Bool :=
  if i.closed then i.lo.le r && r.le i.hi else i.lo.lt r && r.lt i.hi

/-- The nearest point of the grid `10 ^ step` that lies in the interval around the value. -/
def onGrid? (value : Ratio) (around : Interval) (step : Int) : Option Nat :=
  let unit := scaled 1 10 step
  let below := value.num * unit.den / (value.den * unit.num)
  let point (n : Nat) : Ratio := ⟨n * unit.num, unit.den⟩
  let lowHit := around.has (point below)
  let highHit := around.has (point (below + 1))
  -- twice the value against the sum of its neighbours tells which of them is nearer
  let twice := 2 * value.num * unit.den
  let middle := (2 * below + 1) * unit.num * value.den
  if lowHit && highHit then
    if twice < middle then some below
    else if middle < twice then some (below + 1)
    else some (if below % 2 = 0 then below else below + 1)
  else if lowHit then some below
  else if highHit then some (below + 1)
  else none

/-- Tries the grids of `n` and more digits. -/
def search (value : Ratio) (around : Interval) (top : Int) (n : Nat) : Nat → Nat × Int
  | 0 => (0, 0)
  | tries + 1 =>
    let step := top + 1 - n
    match onGrid? value around step with
    | some point => (point, step)
    | none => search value around top (n + 1) tries

/-- The shortest decimal `d · 10 ^ s` that reads back as the positive number `m · 2 ^ e`. -/
def decimal (m : Nat) (e : Int) (atPowerOfTwo : Bool) : Nat × Int :=
  let value := scaled m 2 e
  search value (Interval.of m e atPowerOfTwo) (magnitude value) 1 17

/-- How a decimal is laid out as a text. -/
structure Layout where
  /-- The least power of ten of the first digit that is written positionally. -/
  least : Int
  /-- The greatest power of ten of the first digit that is written positionally. -/
  greatest : Int
  /-- What follows the digits of an integer that is written positionally. -/
  integerTail : String
  /-- The least number of digits of an exponent. -/
  exponentWidth : Nat
  infinity : String
  undefined : String

/-- Digits without the zeros at their end. -/
def significant (digits : List Char) : List Char :=
  match digits.reverse.dropWhile (· == '0') with
  | [] => ['0']
  | kept => kept.reverse

def padded (width n : Nat) : String :=
  let digits := Nat.toDigits 10 n
  String.ofList (List.replicate (width - digits.length) '0' ++ digits)

/-- Lays out `d · 10 ^ s`. -/
def Layout.write (layout : Layout) (d : Nat) (s : Int) : String :=
  let all := Nat.toDigits 10 d
  let digits := significant all
  -- the power of ten of the first digit
  let lead : Int := s + all.length - 1
  if layout.least ≤ lead && lead ≤ layout.greatest then
    if lead < 0 then
      "0." ++ String.ofList (List.replicate (-lead - 1).toNat '0' ++ digits)
    else
      let whole := lead.toNat + 1
      if digits.length ≤ whole then
        String.ofList (digits ++ List.replicate (whole - digits.length) '0') ++ layout.integerTail
      else
        String.ofList (digits.take whole) ++ "." ++ String.ofList (digits.drop whole)
  else
    let mantissa := match digits with
      | first :: second :: rest => String.ofList (first :: '.' :: second :: rest)
      | short => String.ofList short
    mantissa ++ "e" ++ (if lead < 0 then "-" else "+") ++ padded layout.exponentWidth lead.natAbs

/-- The text of a number. -/
def Layout.text (layout : Layout) (x : Binary64) : String :=
  let sign (negative : Bool) := if negative then "-" else ""
  match x.parts with
  | .undefined => layout.undefined
  | .infinite negative => sign negative ++ layout.infinity
  | .finite negative m e atPowerOfTwo =>
    sign negative ++
      if m = 0 then layout.write 0 0
      else
        let (d, s) := decimal m e atPowerOfTwo
        layout.write d s

end OperatorCore.Shortest
