import FirewallPolicy.Text.Digit
import FirewallPolicy.Text.Split
import FirewallPolicy.Text.Utf8

/-!
# Percent coding

A byte is written as a percent sign and two hexadecimal digits.  Writing codes the UTF-8 bytes of
every character outside a safe set; reading decodes each run of ASCII characters on its own and puts
a replacement character for bytes that are no UTF-8.
-/

namespace FirewallPolicy.Url

open FirewallPolicy.Text

/-- Characters never coded: ASCII letters and digits, and `_ . - ~`. -/
def isUnreserved (c : Char) : Bool :=
  (asciiDigit? c).isSome || c == '_' || c == '.' || c == '-' || c == '~'

/-- The upper-case hexadecimal digit of a value below sixteen. -/
def upperHexDigit (n : Nat) : Char := if n < 10 then Char.ofNat (48 + n) else Char.ofNat (55 + n)

/-- A byte as a percent sign and two digits. -/
def codeByte (b : UInt8) : List Char :=
  ['%', upperHexDigit (b.toNat / 16), upperHexDigit (b.toNat % 16)]

/-- A character as it is written, coded unless it is unreserved or safe. -/
def codeChar (safe : List Char) (c : Char) : List Char :=
  if isUnreserved c || safe.contains c then [c] else (encodeChar c).flatMap codeByte

/-- A text as it is written, with some characters besides the unreserved ones left alone. -/
def code (safe : List Char) (cs : List Char) : List Char := cs.flatMap (codeChar safe)

/-- A text as it is written inside a query, where a blank becomes a plus sign. -/
def codeQuery (cs : List Char) : List Char :=
  cs.flatMap fun c => if c = ' ' then ['+'] else codeChar [] c

/-- The byte behind a percent sign. -/
def codedByte? : List Char → Option UInt8
  | high :: low :: _ => do
    let h ← digitBelow? 16 high
    let l ← digitBelow? 16 low
    return UInt8.ofNat (h * 16 + l)
  | _ => none

/-- The bytes of a run of ASCII characters; a percent sign without two digits stands for itself. -/
def decodeRun : List Char → List UInt8
  | [] => []
  | '%' :: rest =>
    match codedByte? rest with
    | some b => b :: decodeRun (rest.drop 2)
    | none => UInt8.ofNat '%'.toNat :: decodeRun rest
  | c :: rest => UInt8.ofNat c.toNat :: decodeRun rest
termination_by cs => cs.length
decreasing_by
  all_goals
    simp only [List.length_drop, List.length_cons]
    omega

/-- Whether a character is ASCII. -/
def isAscii (c : Char) : Bool := decide (c.toNat < 0x80)

/-- Reads a text, each run of ASCII characters on its own. -/
def decode (cs : List Char) : List Char :=
  match cs with
  | [] => []
  | c :: rest =>
    if isAscii c then
      decodeLossy (decodeRun (c :: rest.takeWhile isAscii)) ++ decode (rest.dropWhile isAscii)
    else c :: decode rest
termination_by cs.length
decreasing_by
  · have := (List.dropWhile_suffix (l := rest) isAscii).length_le
    simp only [List.length_cons]
    omega
  · simp only [List.length_cons]
    omega

/-- Reads a text of a query, where a plus sign is a blank. -/
def decodeQuery (cs : List Char) : List Char :=
  decode (cs.map fun c => if c = '+' then ' ' else c)

end FirewallPolicy.Url
