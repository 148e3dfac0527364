import OperatorCore.Fault.Basic
import OperatorCore.Time.Civil

/-!
# Instants

Points in time as numbers of seconds after the beginning of 1970, whole or with a fraction, and what
they are in universal time. The instants of a log are values that nothing has checked. Its lines
tell the second on the clock, of whatever year, and its documents the microsecond in the calendar.
The arithmetic on fractions is that of floating-point numbers, where a product is rounded once.
-/

namespace OperatorCore

namespace Binary64

/-- The largest integer that is not above the number; zero for what is not finite. -/
def floor (x : Binary64) : Int :=
  match x.parts with
  | .finite negative m e _ =>
    if 0 ≤ e then signed negative (m * Nat.pow 2 e.toNat)
    else (signed negative m).fdiv (Nat.pow 2 (-e).toNat)
  | _ => 0

/-- The number times a natural one. -/
def times (x : Binary64) (factor : Nat) : Binary64 :=
  match x.parts with
  | .finite negative m e _ => ofDyadic negative (m * factor) e
  | _ => x

/-- What is left of the number after taking away a natural one as often as its floor division says:
not negative, and below it. -/
def modulo (x : Binary64) (divisor : Nat) : Binary64 :=
  match x.parts with
  | .finite negative m e _ =>
    let scale := Nat.pow 2 (-e).toNat
    let left := m * Nat.pow 2 e.toNat % (divisor * scale)
    let e := min e 0
    if negative && left != 0 then ofDyadic false (divisor * scale - left) e
    else ofDyadic false left e
  | _ => undefined

/-- The number without the whole of it, which has the same sign. -/
def fraction (x : Binary64) : Binary64 :=
  match x.parts with
  | .finite negative m e _ => ofDyadic negative (if 0 ≤ e then 0 else m % Nat.pow 2 (-e).toNat) e
  | _ => x

end Binary64

namespace Instant

/-- The seconds that the clock of a system counts from the beginning of 1970. -/
def secondLimit : Nat := Nat.pow 2 63

/-- The years that the clock of a system counts from 1900. -/
def yearLimit : Nat := Nat.pow 2 31

/-- A time to the microsecond, if a clock can tell it. -/
def onClock (microseconds : Int) : Except Fault CivilTime :=
  let time := CivilTime.ofMicroseconds microseconds
  let seconds := microseconds.fdiv 1000000
  let years := time.year - 1900
  if seconds < -secondLimit || secondLimit ≤ seconds then .error (.of .outOfRange)
  else if years < -yearLimit || yearLimit ≤ years then .error (.of .beyondClocks)
  else .ok time

/-- A number of seconds with a resolution of a microsecond, given how a fraction is brought to
that. -/
def microseconds (seconds : Value) (ofFraction : Binary64 → Int) : Except Fault Int :=
  match seconds with
  | .int n => .ok (n * 1000000)
  | .bool b => .ok (if b then 1000000 else 0)
  | .float x => match x.parts with
    | .finite .. => .ok (ofFraction x)
    | .infinite _ => .error (.of .outOfRange)
    | .undefined => .error (.refused .undefinedInteger)
  | other => .error (.misuse (.argument
      s!"'{other.typeName}' object cannot be interpreted as an integer"))

/-- The time on the clock, to the second. Its year must not exceed the limit by itself. -/
def clock (seconds : Value) : Except Fault CivilTime := do
  let time ← onClock (← microseconds seconds fun x => x.floor * 1000000)
  if time.year < yearLimit then pure time else .error (.of .outOfRange)

/-- The whole of a number of seconds and the nearest microsecond to the rest, a half going to the
even one. -/
def nearestMicrosecond (x : Binary64) : Int :=
  let whole := (x.truncate?).getD 0
  whole * 1000000 + ((x.fraction.times 1000000).timesRounded? 1).getD 0

/-- A year as it is told about a time that is not in the calendar: beyond the limit, the years wrap
around. -/
def wrapped (year : Int) : Int := if year < yearLimit then year else year - 2 * yearLimit

/-- The time in the calendar, to the microsecond. -/
def calendar (seconds : Value) : Except Fault CivilTime := do
  let time ← onClock (← microseconds seconds nearestMicrosecond)
  if CivilTime.hasYear time.year then pure time
  else .error (.refused (.noSuchYear (wrapped time.year)))

/-- The milliseconds after the last whole second. -/
def milliseconds (seconds : Value) : Except Fault Value :=
  match seconds with
  | .int _ | .bool _ => .ok (.int 0)
  | .float x => .ok (.float ((x.times 1000).modulo 1000))
  | other => .error (.misuse (.argument
      s!"unsupported operand type(s) for %: '{other.typeName}' and 'int'"))

end Instant

end OperatorCore
