/-!
# Texts with halves of characters

A text is a row of code points.  Those from 0xD800 to 0xDFFF are no characters but halves, of which
other codings make characters, and a text may hold one on its own.  Here texts consist of characters
all the same: a half is written as a mark and a character that stands for the half, and the mark
itself, which is a character too, is written twice.

No rule for names, numbers or addresses tells these characters from others that it has no use for.
Halves come to light where a text is quoted in a message, and where it is turned into bytes.
-/

namespace FirewallPolicy.Text

/-- Whether a code point is a half. -/
def isHalf (n : Nat) : Bool := decide (0xD800 ≤ n) && decide (n ≤ 0xDFFF)

/-- The last of all characters, which marks a half. -/
def halfMark : Char := Char.ofNat 0x10FFFF

/-- How far the character for a half lies behind it. -/
def halfShift : Nat := 0x800

/-- A code point as it is written. -/
def written (n : Nat) : List Char :=
  if isHalf n then [halfMark, Char.ofNat (n + halfShift)]
  else if n = halfMark.toNat then [halfMark, halfMark]
  else [Char.ofNat n]

/-- Characters as they are written. -/
def marked (cs : List Char) : List Char := cs.flatMap (written ·.toNat)

/-- A text as it is written. -/
def markedText (s : String) : String := String.ofList (marked s.toList)

/-- The code points of a text.  A mark with nothing that belongs to it stands for itself. -/
def points : List Char → List Nat
  | [] => []
  | [c] => [c.toNat]
  | c :: d :: cs =>
    if c = halfMark ∧ d = halfMark then c.toNat :: points cs
    else if c = halfMark ∧ isHalf (d.toNat - halfShift) then (d.toNat - halfShift) :: points cs
    else c.toNat :: points (d :: cs)

end FirewallPolicy.Text
