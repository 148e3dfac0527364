import OperatorCore.Text.Quoted

/-!
# Base64, read leniently

Octets in groups of three, each group as four characters of six bits. Reading skips whatever is not
in the alphabet. A padding mark counts from the third character of a group on, and ends the data as
soon as the group is complete with the marks that follow each other; whatever comes after that is
ignored. Data that end inside of a group are refused.

The reader takes one character after another, with the state of the group as its only memory, so it
is one fold over the text. Writing the groups back gives text that reads as the same octets.
-/

namespace OperatorCore.Text.Base64

/-- The six bits that a character stands for. -/
def sextet? (code : Nat) : Option Nat :=
  if 65 ≤ code && code ≤ 90 then some (code - 65)
  else if 97 ≤ code && code ≤ 122 then some (code - 71)
  else if 48 ≤ code && code ≤ 57 then some (code + 4)
  else if code = 43 then some 62
  else if code = 47 then some 63
  else none

/-- The code of the padding mark. -/
def mark : Nat := 61

/-- A group that is being read: how many of its characters have been read, the bits of the last one
that are left, and the padding marks since then. -/
structure Group where
  count : Nat
  left : Nat
  marks : Nat

def Group.start : Group := ⟨0, 0, 0⟩

/-- The group after six more bits, and the octet that they complete. -/
def Group.push (g : Group) (bits : Nat) : Option Nat × Group :=
  match g.count with
  | 0 => (none, ⟨1, bits, 0⟩)
  | 1 => (some (g.left * 4 + bits / 16), ⟨2, bits % 16, 0⟩)
  | 2 => (some (g.left * 16 + bits / 4), ⟨3, bits % 4, 0⟩)
  | _ => (some (g.left * 64 + bits), ⟨0, 0, 0⟩)

/-- Reads octets from the codes of characters. -/
def decodeFrom (g : Group) : List Nat → Option (List Nat)
  | [] => if g.count = 0 then some [] else none
  | code :: rest =>
    if code = mark then
      if g.count < 2 then decodeFrom g rest
      else if 4 ≤ g.count + g.marks + 1 then some []
      else decodeFrom { g with marks := g.marks + 1 } rest
    else
      match sextet? code with
      | none => decodeFrom g rest
      | some bits =>
        let (octet, g) := g.push bits
        (decodeFrom g rest).map (octet.toList ++ ·)

/-- Reads octets. -/
def decode? (codes : List Nat) : Option (List Nat) := decodeFrom .start codes

end OperatorCore.Text.Base64
