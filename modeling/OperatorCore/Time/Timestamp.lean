import OperatorCore.Time.Civil

/-!
# Reading timestamps

A timestamp is a year, possibly with a month, a day, a time of day and an offset. Months and days
have two digits, or follow a dash and may have one; minutes and seconds may follow a colon; a year
with a month of two digits needs a day. The same text may be cut into parts in several ways, and the
first complete way counts, where every part takes as much as it can.

Reading is therefore a function to lists: a reader gives all its results in the order of preference,
each with the rest of the text.
-/

namespace OperatorCore.Timestamp

/-- All ways to read something from the beginning of a text, the preferred ones first. -/
def Reader (α : Type) := List Char → List (α × List Char)

variable {α β : Type}

/-- Reads nothing. -/
def Reader.nothing (a : α) : Reader α := fun cs => [(a, cs)]

/-- Reads one thing and then another. -/
def Reader.andThen (r : Reader α) (f : α → Reader β) : Reader β := fun cs =>
  (r cs).flatMap fun p => f p.1 p.2

/-- Reads the first thing or else the second one. -/
def Reader.orElse (r r' : Reader α) : Reader α := fun cs => r cs ++ r' cs

instance : Monad Reader where
  pure := Reader.nothing
  bind := Reader.andThen

/-- Reads something if it can be read. -/
def Reader.optional (r : Reader α) : Reader (Option α) :=
  Reader.orElse (Reader.andThen r fun a => .nothing (some a)) (.nothing none)

/-- One of some characters. -/
def oneOf (allowed : List Char) : Reader Char
  | c :: rest => if allowed.contains c then [(c, rest)] else []
  | [] => []

/-- A number of so many digits. -/
def digits (count : Nat) : Reader Nat := fun cs =>
  let taken := cs.take count
  if taken.length = count && taken.all Char.isDigit then
    [(taken.foldl (fun n d => 10 * n + (d.toNat - '0'.toNat)) 0, cs.drop count)]
  else []

/-- A number of two digits or else of one. -/
def oneOrTwo : Reader Nat := (digits 2).orElse (digits 1)

/-- The end of the text; one line feed may be left. -/
def atEnd (cs : List Char) : Bool := cs = [] || cs = ['\n']

/-- Goes on only where there is more text. -/
def beforeEnd : Reader Unit := fun cs => if atEnd cs then [] else [((), cs)]

def ended : Reader Unit := fun cs => if atEnd cs then [((), cs)] else []

/-- The digits after the point, all of them or fewer. -/
def fraction : Reader (List Char) := fun cs =>
  let all := cs.takeWhile Char.isDigit
  (List.range all.length).map fun n =>
    (all.take (all.length - n), cs.drop (all.length - n))

/-- The microseconds of a fraction of a second. The product is kept to 28 digits, a half going to
the even neighbour, and then cut off. -/
def microseconds (digits : List Char) : Nat :=
  let n := digits.foldl (fun n d => 10 * n + (d.toNat - '0'.toNat)) 0 * 10000000
  let scale := Nat.pow 10 (digits.length + 1)
  let excess := (Nat.toDigits 10 n).length - 28
  let unit := Nat.pow 10 excess
  let twice := 2 * (n % unit)
  let kept := n / unit
  let rounded :=
    if twice < unit then kept else if unit < twice then kept + 1 else kept + kept % 2
  rounded * unit / scale

/-- The offset from universal time in minutes. -/
def offset : Reader Int :=
  Reader.orElse (do let _ ← oneOf ['Z']; pure 0) do
    let sign ← oneOf ['-', '+']
    let hours ← digits 2
    let _ ← (oneOf [':']).optional
    let minutes ← (digits 2).optional
    let total : Int := hours * 60 + (minutes.getD 0)
    pure (if sign = '-' then -total else total)

/-- A second and its fraction. -/
def seconds : Reader (Nat × Nat) := do
  let _ ← (oneOf [':']).optional
  let second ← oneOrTwo
  let part ← Reader.optional do
    let _ ← oneOf ['.', ',']
    fraction
  pure (second, match part with | some ds => microseconds ds | none => 0)

/-- The time of day that follows a date. -/
def clock (year month day : Nat) : Reader CivilTime := do
  let _ ← oneOf [' ', 'T']
  let hour ← digits 2
  let minute ← Reader.optional do
    let _ ← (oneOf [':']).optional
    digits 2
  let second ← seconds.optional
  let zone ← offset.optional
  let (second, microsecond) := second.getD (0, 0)
  pure ⟨year, month, day, hour, minute.getD 0, second, microsecond, zone.getD 0⟩

/-- A month or a day after a dash. -/
def dashed : Reader Nat := do
  let _ ← oneOf ['-']
  oneOrTwo

/-- A whole timestamp. -/
def timestamp : Reader CivilTime := do
  let year ← digits 4
  let found ← Reader.optional do
    let month ← Reader.orElse dashed do
      let month ← digits 2
      beforeEnd
      pure month
    let found ← Reader.optional do
      let day ← dashed.orElse (digits 2)
      let time ← (clock year month day).optional
      pure (time.getD ⟨year, month, day, 0, 0, 0, 0, 0⟩)
    pure (found.getD ⟨year, month, 1, 0, 0, 0, 0, 0⟩)
  ended
  pure (found.getD ⟨year, 1, 1, 0, 0, 0, 0, 0⟩)

/-- The time that a text stands for, if it is a timestamp and a valid time. -/
def parse? (s : String) : Option CivilTime :=
  match timestamp s.toList with
  | (time, _) :: _ => if time.valid then some time else none
  | [] => none

end OperatorCore.Timestamp
