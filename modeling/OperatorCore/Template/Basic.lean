import OperatorCore.Fault.Basic
import OperatorCore.Text.Word

/-!
# Templates

A template is a text in which conversions stand for values: a percent sign, possibly the key of the
value in parentheses, flags, a width, a precision, and the letter of the conversion. A percent sign
is written twice.

Reading a template never fails. What is wrong with a conversion is kept as its ending, because the
values are looked at before it matters: a template with too few values is refused for that, whatever
comes behind. Reading goes on with a part of the text that is not longer (`length_readConversion`).
-/

namespace OperatorCore

/-- A width or a precision. -/
inductive Amount where
  | absent
  | given (n : Nat)
  /-- A star: the next value. -/
  | fromValue
deriving DecidableEq

/-- The key of a conversion. -/
inductive TemplateKey where
  | absent
  | named (key : String)
  | unfinished
deriving DecidableEq

/-- A conversion of a value. -/
structure Conversion where
  key : TemplateKey
  flags : List Char
  width : Amount
  precision : Amount
  /-- The letter, or why there is none. -/
  ending : Except Refusal Char
  /-- The place of the letter in the template. -/
  position : Nat

/-- A part of a template. -/
inductive Piece where
  | char (c : Char)
  | conversion (c : Conversion)

namespace Template

/-- The text up to the parenthesis that closes the one before it, and what follows. -/
def keyText? (depth : Nat) : List Char → Option (List Char × List Char)
  | [] => none
  | ')' :: rest =>
    match depth with
    | 0 => some ([], rest)
    | depth + 1 => (keyText? depth rest).map fun r => (')' :: r.1, r.2)
  | '(' :: rest => (keyText? (depth + 1) rest).map fun r => ('(' :: r.1, r.2)
  | c :: rest => (keyText? depth rest).map fun r => (c :: r.1, r.2)

def readKey : List Char → TemplateKey × List Char
  | '(' :: rest =>
    match keyText? 0 rest with
    | some (key, rest) => (.named (String.ofList key), rest)
    | none => (.unfinished, [])
  | cs => (.absent, cs)

def isFlag (c : Char) : Bool := c = '-' || c = '+' || c = ' ' || c = '#' || c = '0'

def number (digits : List Char) : Nat := digits.foldl (fun n c => 10 * n + (c.toNat - '0'.toNat)) 0

/-- An amount; `none` for a number above the limit. -/
def readAmount (limit : Nat) : List Char → Option Amount × List Char
  | '*' :: rest => (some .fromValue, rest)
  | cs =>
    let digits := cs.takeWhile Char.isDigit
    let n := number digits
    (if digits = [] then some .absent else if limit < n then none else some (.given n),
      cs.dropWhile Char.isDigit)

/-- The precision after its point; without digits, it is zero. -/
def readPrecision : List Char → Option Amount × List Char
  | '.' :: rest =>
    match readAmount (Nat.pow 2 31 - 1) rest with
    | (some .absent, rest) => (some (.given 0), rest)
    | r => r
  | cs => (some .absent, cs)

/-- The rest after a mark of the size of a number, which has no meaning. -/
def skipSize : List Char → List Char
  | c :: rest => if c = 'h' || c = 'l' || c = 'L' then rest else c :: rest
  | [] => []

/-- The letter, and the rest after it. -/
def readLetter : List Char → Except Refusal Char × List Char
  | c :: rest => (.ok c, rest)
  | [] => (.error .incompleteTemplate, [])

/-- Reads a conversion after its percent sign, in a template of the given length. -/
def readConversion (total : Nat) (cs : List Char) : Conversion × List Char :=
  let key := readKey cs
  let flags := key.2.takeWhile isFlag
  let width := readAmount (Nat.pow 2 63 - 1) (key.2.dropWhile isFlag)
  let precision := readPrecision width.2
  let letter := readLetter (skipSize precision.2)
  let ending : Except Refusal Char :=
    if key.1 = .unfinished then .error .incompleteKey
    else if width.1.isNone then .error .tooWide
    else if precision.1.isNone then .error .tooPrecise
    else letter.1
  ({ key := key.1, flags, width := width.1.getD .absent
     precision := if width.1.isNone then .absent else precision.1.getD .absent
     ending, position := total - letter.2.length - 1 },
    letter.2)

theorem length_keyText? {depth : Nat} {cs key rest : List Char}
    (h : keyText? depth cs = some (key, rest)) : rest.length ≤ cs.length := by
  fun_induction keyText? depth cs generalizing key rest with
  | case1 => simp at h
  | case2 r =>
    obtain ⟨-, rfl⟩ := Prod.mk.inj (Option.some.inj h)
    simp
  | case3 r d ih | case4 d r ih | case5 d c r _ _ ih =>
    obtain ⟨⟨key', rest'⟩, hr, he⟩ := Option.map_eq_some_iff.1 h
    obtain ⟨-, rfl⟩ := Prod.mk.inj he
    have := ih hr
    simp only [List.length_cons]
    omega

theorem length_readKey (cs : List Char) : (readKey cs).2.length ≤ cs.length := by
  unfold readKey
  split
  · split
    · next h =>
      have := length_keyText? h
      simp only [List.length_cons]
      omega
    · simp
  · simp

theorem length_readAmount (limit : Nat) (cs : List Char) :
    (readAmount limit cs).2.length ≤ cs.length := by
  unfold readAmount
  split
  · simp
  · exact (List.dropWhile_suffix _).length_le

theorem length_readPrecision (cs : List Char) : (readPrecision cs).2.length ≤ cs.length := by
  unfold readPrecision
  split
  · next rest =>
    have := length_readAmount (Nat.pow 2 31 - 1) rest
    split
    · next h =>
      rw [h] at this
      simp only at this
      simp only [List.length_cons]
      omega
    · simp only [List.length_cons]
      omega
  · simp

theorem length_skipSize (cs : List Char) : (skipSize cs).length ≤ cs.length := by
  unfold skipSize
  split
  · split <;> simp
  · simp

theorem length_readLetter (cs : List Char) : (readLetter cs).2.length ≤ cs.length := by
  unfold readLetter
  split <;> simp

/-- What follows a conversion is not longer than what the conversion was read from. -/
theorem length_readConversion (total : Nat) (cs : List Char) :
    (readConversion total cs).2.length ≤ cs.length := by
  have hkey := length_readKey cs
  have hflags := (List.dropWhile_suffix isFlag (l := (readKey cs).2)).length_le
  have hwidth := length_readAmount (Nat.pow 2 63 - 1) ((readKey cs).2.dropWhile isFlag)
  have hprec := length_readPrecision (readAmount (Nat.pow 2 63 - 1) ((readKey cs).2.dropWhile isFlag)).2
  have hsize := length_skipSize
    (readPrecision (readAmount (Nat.pow 2 63 - 1) ((readKey cs).2.dropWhile isFlag)).2).2
  have hletter := length_readLetter
    (skipSize (readPrecision (readAmount (Nat.pow 2 63 - 1) ((readKey cs).2.dropWhile isFlag)).2).2)
  show (readLetter _).2.length ≤ _
  omega

/-- The pieces of a text that is the end of a template of the given length. -/
def readPieces (total : Nat) : List Char → List Piece
  | [] => []
  | '%' :: '%' :: rest => .char '%' :: readPieces total rest
  | '%' :: rest =>
    let r := readConversion total rest
    have := length_readConversion total rest
    .conversion r.1 :: readPieces total r.2
  | c :: rest => .char c :: readPieces total rest
termination_by cs => cs.length
decreasing_by
  all_goals simp_wf
  all_goals omega

/-- The pieces of a template. -/
def read (template : String) : List Piece := readPieces template.length template.toList

/-! ## Templates for the fields of a record -/

/-- The rest after a star or a number; nothing if there is neither. -/
def afterAmount? : List Char → Option (List Char)
  | '*' :: rest => some rest
  | cs =>
    if (cs.takeWhile Text.isDecimal).isEmpty then none else some (cs.dropWhile Text.isDecimal)

/-- The letters of the conversions in both cases; three letters more have one of them as their other
case. -/
def isConversionLetter (c : Char) : Bool :=
  "diouxefgcrsa%".toList.contains c.toLower || c = 'İ' || c = 'ı' || c = 'ſ'

/-- The rest after a point and an amount; everything if they are not there. -/
def afterPrecision (cs : List Char) : List Char :=
  match cs with
  | '.' :: rest => (afterAmount? rest).getD cs
  | cs => cs

/-- A text begins with a complete conversion of a field by its name. -/
def startsWithField : List Char → Bool
  | '%' :: '(' :: rest =>
    match rest.takeWhile Text.isWord, rest.dropWhile Text.isWord with
    | _ :: _, ')' :: rest =>
      let rest := rest.dropWhile isFlag
      match afterPrecision ((afterAmount? rest).getD rest) with
      | c :: _ => isConversionLetter c
      | [] => false
    | _, _ => false
  | _ => false

/-- A text has a complete conversion of a field by its name. -/
def namesField : List Char → Bool
  | [] => false
  | c :: rest => startsWithField (c :: rest) || namesField rest

end Template

end OperatorCore
