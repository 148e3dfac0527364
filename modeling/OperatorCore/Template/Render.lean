import OperatorCore.Number.Places
import OperatorCore.Template.Basic

/-!
# Filling templates

A template is filled with values in order, all of which must be used, or with the fields of an
object by their keys. Each conversion takes a value and writes it; the text is cut if there is a
precision for it, and padded to the width: in front with blanks or, for numbers, with zeros behind
the sign, or at the end.
-/

namespace OperatorCore

/-- What a conversion is given: a value, or several values as one. -/
inductive Argument where
  | value (v : Value)
  | several (vs : List Value)
deriving DecidableEq

namespace Argument

/-- The text of an argument inside of another text; several values are in parentheses. -/
def literal : Argument → String
  | .value v => v.literal
  | .several [v] => s!"({v.literal},)"
  | .several vs => "(" ++ ", ".intercalate (vs.map Value.literal) ++ ")"

def text : Argument → String
  | .value v => v.text
  | other => other.literal

def typeName : Argument → String
  | .value v => v.typeName
  | .several _ => "tuple"

def truthy : Argument → Bool
  | .value v => v.truthy
  | .several vs => !vs.isEmpty

end Argument

/-- The values that are left for the conversions. -/
structure Supply where
  /-- How values are found by their keys, if they have any. -/
  named : Option (String → Except Fault Argument)
  values : List Argument

namespace Supply

def inOrder (values : List Value) : Supply := ⟨none, values.map .value⟩

/-- The fields of an object, or the object as a whole. -/
def byName (fields : Fields) : Supply where
  named := some fun key => match Fields.get? fields key with
    | some v => .ok (.value v)
    | none => .error (.of (.noKey key))
  values := [.value (.obj fields)]

/-- Several values one after another, or the one that there is: an object gives its fields as well,
and a list would give its items but has no keys. -/
def ofArgument (argument : Argument) : Supply :=
  match argument with
  | .several vs => inOrder vs
  | .value (.obj fields) => byName fields
  | .value (.arr items) =>
    { named := some fun _ => .error (.misuse (.badPosition "str"))
      values := [.value (.arr items)] }
  | .value v => inOrder [v]

def next (supply : Supply) : Except Fault (Argument × Supply) :=
  match supply.values with
  | v :: rest => .ok (v, { supply with values := rest })
  | [] => .error (.misuse (.formatting "not enough arguments for format string"))

/-- The supply of a conversion with a key: the one field. -/
def select (supply : Supply) (key : TemplateKey) : Except Fault Supply :=
  match key, supply.named with
  | .absent, _ => .ok supply
  | _, none => .error (.misuse (.formatting "format requires a mapping"))
  | .unfinished, some _ => .ok supply
  | .named key, some find => do pure { supply with values := [← find key] }

/-- The number that an amount gives, and what is left then; nothing if there is no amount. -/
def amount (supply : Supply) (limit : Nat) (a : Amount) :
    Except Fault (Option Int × Supply) :=
  match a with
  | .absent => .ok (none, supply)
  | .given n => .ok (some n, supply)
  | .fromValue => do
    let (v, supply) ← supply.next
    let n ← match v with
      | .value (.int n) => pure n
      | .value (.bool b) => pure (if b then 1 else 0)
      | _ => .error (.misuse (.formatting "* wants int"))
    if n.natAbs < limit then pure (some n, supply) else .error (.of .outOfRange)

end Supply

/-- What a conversion writes, before it is padded. -/
structure Written where
  sign : List Char
  /-- The mark of the base of a number. -/
  mark : List Char
  body : List Char
  numeric : Bool

namespace Written

def plain (body : List Char) : Written := ⟨[], [], body, false⟩

/-- A number by its text, with the sign that the flags ask for. -/
def signed (flags text mark : List Char) : Written :=
  match text with
  | '-' :: body => ⟨['-'], mark, body, true⟩
  | body =>
    let sign := if flags.contains '+' then ['+'] else if flags.contains ' ' then [' '] else []
    ⟨sign, mark, body, true⟩

/-- Pads to a width. -/
def padded (w : Written) (flags : List Char) (left : Bool) (width : Nat) : List Char :=
  let whole := w.sign ++ w.mark ++ w.body
  let missing := width - whole.length
  if left then whole ++ List.replicate missing ' '
  else if w.numeric && flags.contains '0' then
    w.sign ++ w.mark ++ List.replicate missing '0' ++ w.body
  else List.replicate missing ' ' ++ whole

end Written

namespace Conversion

/-- The integer that a value is converted to; only integers can be written in base 8 or 16. -/
def integer (letter : Char) (whole : Bool) (v : Argument) : Except Fault Int :=
  match v with
  | .value (.int n) => .ok n
  | .value (.bool b) => .ok (if b then 1 else 0)
  | v =>
    let kind := if whole then "an integer" else "a real number"
    let refused : Fault :=
      .misuse (.formatting s!"%{letter} format: {kind} is required, not {v.typeName}")
    match v, whole with
    | .value (.float x), false =>
      match x.parts with
      | .undefined => .error (.refused .undefinedInteger)
      | .infinite _ => .error (.of .outOfRange)
      | .finite .. => .ok ((x.truncate?).getD 0)
    | _, _ => .error refused

/-- The floating-point number that a value is converted to. -/
def real (v : Argument) : Except Fault Binary64 :=
  let ofInt (n : Int) : Except Fault Binary64 :=
    match Binary64.ofInt? n with
    | some x => .ok x
    | none => .error (.of .outOfRange)
  match v with
  | .value (.float x) => .ok x
  | .value (.int n) => ofInt n
  | .value (.bool b) => ofInt (if b then 1 else 0)
  | v => .error (.misuse (.formatting s!"must be real number, not {v.typeName}"))

/-- The character that a value is converted to. -/
def character (v : Argument) : Except Fault Char :=
  let ofInt (n : Int) : Except Fault Char :=
    if 0 ≤ n && n < 0x110000 then .ok (Char.ofNat n.toNat) else .error (.of .outOfRange)
  match v with
  | .value (.int n) => ofInt n
  | .value (.bool b) => ofInt (if b then 1 else 0)
  | .value (.str s) => match s.toList with
    | [c] => .ok c
    | _ => .error (.misuse (.formatting "%c requires int or char"))
  | _ => .error (.misuse (.formatting "%c requires int or char"))

/-- An integer in a base, with at least some digits. -/
def writeInteger (flags : List Char) (base : Nat) (mark : List Char) (digits : Nat) (n : Int) :
    Written :=
  let body := Places.zeros digits (Nat.toDigits base n.natAbs)
  Written.signed flags (if n < 0 then '-' :: body else body)
    (if flags.contains '#' then mark else [])

/-- A floating-point number with some digits, six unless it is said how many. -/
def writeReal (flags : List Char) (form : Notation) (digits : Option Nat) (x : Binary64) :
    Written :=
  .signed flags (Places.text ⟨form, digits.getD 6, flags.contains '#'⟩ x) []

def cut (precision : Option Nat) (body : List Char) : List Char :=
  match precision with
  | some n => body.take n
  | none => body

def upper (w : Written) : Written :=
  { w with mark := w.mark.map Char.toUpper, body := w.body.map Char.toUpper }

/-- What a letter makes of a value. -/
def write (flags : List Char) (precision : Option Nat) (letter : Char) (position : Nat)
    (v : Argument) : Except Fault Written :=
  let atLeast := precision.getD 0
  match letter with
  | 's' => .ok (.plain (cut precision v.text.toList))
  | 'r' => .ok (.plain (cut precision v.literal.toList))
  | 'a' => .ok (.plain (cut precision (Text.asciiOnly v.literal)))
  | 'd' | 'i' | 'u' => (integer letter false v).map (writeInteger flags 10 [] atLeast)
  | 'o' => (integer letter true v).map (writeInteger flags 8 ['0', 'o'] atLeast)
  | 'x' => (integer letter true v).map (writeInteger flags 16 ['0', 'x'] atLeast)
  | 'X' => (integer letter true v).map fun n =>
    upper (writeInteger flags 16 ['0', 'x'] atLeast n)
  | 'e' => (real v).map (writeReal flags .exponential precision)
  | 'E' => (real v).map fun x => upper (writeReal flags .exponential precision x)
  | 'f' => (real v).map (writeReal flags .fixed precision)
  | 'F' => (real v).map fun x => upper (writeReal flags .fixed precision x)
  | 'g' => (real v).map (writeReal flags .general precision)
  | 'G' => (real v).map fun x => upper (writeReal flags .general precision x)
  | 'c' => (character v).map fun c => .plain [c]
  | _ => .error (.refused (.unknownConversion letter position))

/-- What a conversion writes with the next values, and what is left then. -/
def apply (c : Conversion) (supply : Supply) : Except Fault (List Char × Supply) := do
  let supply ← supply.select c.key
  let (width, supply) ← supply.amount (Nat.pow 2 63) c.width
  let (precision, supply) ← supply.amount (Nat.pow 2 31) c.precision
  match c.ending with
  | .error refusal => .error (.refused refusal)
  | .ok letter => do
    let (v, supply) ← supply.next
    let w ← write c.flags (precision.map Int.toNat) letter c.position v
    let width := width.getD 0
    pure (w.padded c.flags (c.flags.contains '-' || width < 0) width.natAbs, supply)

end Conversion

namespace Template

/-- Fills the pieces of a template, and answers what is left of the values as well. -/
def fillPieces : List Piece → Supply → Except Fault (List Char × Supply)
  | [], supply => .ok ([], supply)
  | .char c :: rest, supply => do
    let (text, supply) ← fillPieces rest supply
    pure (c :: text, supply)
  | .conversion c :: rest, supply => do
    let (here, supply) ← c.apply supply
    let (text, supply) ← fillPieces rest supply
    pure (here ++ text, supply)

/-- Fills a template. Values that are given in order must all be used. -/
def fill (template : String) (supply : Supply) : Except Fault String := do
  let (text, left) ← fillPieces (read template) supply
  match left.named, left.values with
  | none, _ :: _ =>
    .error (.misuse (.formatting "not all arguments converted during string formatting"))
  | _, _ => pure (String.ofList text)

end Template

end OperatorCore
