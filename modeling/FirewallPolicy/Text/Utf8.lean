import FirewallPolicy.Text.Quoted

/-!
# UTF-8

Bytes are read one character at a time.  A sequence that goes wrong is blamed with the bytes that
were still well formed, so that reading can go on right behind them with a replacement character.
What is read has no halves in it, and a text that has some cannot be turned into bytes.
-/

namespace FirewallPolicy.Text

/-- What is wrong with a sequence of bytes. -/
inductive Utf8Fault where
  /-- The byte starts no character. -/
  | start
  /-- A byte inside a character is no continuation. -/
  | continuation
  /-- The bytes end inside a character. -/
  | unexpectedEnd
  deriving DecidableEq, Repr

/-- A fault at a position, with the number of bytes it covers and the first of them. -/
structure Utf8Error where
  fault : Utf8Fault
  position : Nat
  count : Nat
  byte : UInt8
  deriving DecidableEq, Repr

/-- How a character goes on after its first byte: the number of further bytes, the bounds of the
second byte, and the bits that the first byte gives. -/
structure Lead where
  more : Nat
  low : Nat
  high : Nat
  bits : Nat

/-- The lead for a first byte; none where the byte starts no character. -/
def lead? (b : Nat) : Option Lead :=
  if b < 0x80 then some ⟨0, 0, 0, b⟩
  else if b < 0xC2 then none
  else if b < 0xE0 then some ⟨1, 0x80, 0xBF, b - 0xC0⟩
  else if b = 0xE0 then some ⟨2, 0xA0, 0xBF, 0⟩
  else if b = 0xED then some ⟨2, 0x80, 0x9F, 0xD⟩
  else if b < 0xF0 then some ⟨2, 0x80, 0xBF, b - 0xE0⟩
  else if b = 0xF0 then some ⟨3, 0x90, 0xBF, 0⟩
  else if b < 0xF4 then some ⟨3, 0x80, 0xBF, b - 0xF0⟩
  else if b = 0xF4 then some ⟨3, 0x80, 0x8F, 4⟩
  else none

/-- Reads the `more` further bytes of a character, the next of them within bounds.  The result is
the bits gathered, or the fault, together with the bytes used. -/
def continue? : Nat → Nat → Nat → Nat → List UInt8 → Except Utf8Fault Nat × Nat
  | 0, _, _, bits, _ => (.ok bits, 0)
  | _ + 1, _, _, _, [] => (.error .unexpectedEnd, 0)
  | more + 1, low, high, bits, b :: rest =>
    if low ≤ b.toNat ∧ b.toNat ≤ high then
      let (result, used) := continue? more 0x80 0xBF (bits * 64 + (b.toNat - 0x80)) rest
      (result, used + 1)
    else (.error .continuation, 0)

/-- One step of reading: a character or a fault, and the number of bytes behind the first that
belong to it. -/
def readChar (b : UInt8) (rest : List UInt8) : Except Utf8Fault Char × Nat :=
  match lead? b.toNat with
  | none => (.error .start, 0)
  | some lead =>
    let (result, used) := continue? lead.more lead.low lead.high lead.bits rest
    (result.map Char.ofNat, used)

/-- Reads bytes from a position on up to the first fault. -/
def decodeFrom (position : Nat) : List UInt8 → List Char × Option Utf8Error
  | [] => ([], none)
  | b :: rest =>
    let (result, used) := readChar b rest
    match result with
    | .error fault => ([], some ⟨fault, position, used + 1, b⟩)
    | .ok c =>
      let (cs, error) := decodeFrom (position + used + 1) (rest.drop used)
      (c :: cs, error)
termination_by bytes => bytes.length
decreasing_by
  simp only [List.length_drop, List.length_cons]
  omega

/-- The characters before the first fault, and that fault. -/
def decodeUtf8 (bytes : List UInt8) : List Char × Option Utf8Error := decodeFrom 0 bytes

/-- Reads bytes with one replacement character for each fault. -/
def decodeLossy : List UInt8 → List Char
  | [] => []
  | b :: rest =>
    let (result, used) := readChar b rest
    match result with
    | .error _ => '\uFFFD' :: decodeLossy (rest.drop used)
    | .ok c => c :: decodeLossy (rest.drop used)
termination_by bytes => bytes.length
decreasing_by
  all_goals
    simp only [List.length_drop, List.length_cons]
    omega

/-- The bytes of a character. -/
def encodeChar (c : Char) : List UInt8 :=
  let n := c.toNat
  let tail := fun (shift : Nat) => UInt8.ofNat (0x80 + n >>> shift % 64)
  if n < 0x80 then [UInt8.ofNat n]
  else if n < 0x800 then [UInt8.ofNat (0xC0 + n >>> 6), tail 0]
  else if n < 0x10000 then [UInt8.ofNat (0xE0 + n >>> 12), tail 6, tail 0]
  else [UInt8.ofNat (0xF0 + n >>> 18), tail 12, tail 6, tail 0]

/-- The bytes of a list of characters. -/
def encodeUtf8 (cs : List Char) : List UInt8 := cs.flatMap encodeChar

/-- Halves in a row that have no bytes: where they begin, how many they are, and the first one. -/
structure EncodeError where
  position : Nat
  count : Nat
  half : Nat
  deriving DecidableEq, Repr

/-- The wording of an error: a lone half is named, several are given by their positions. -/
def EncodeError.message (e : EncodeError) : String :=
  if e.count = 1 then
    let half := String.ofList (escapeByNumber e.half)
    s!"'utf-8' codec can't encode character '{half}' in position {e.position}: " ++
      "surrogates not allowed"
  else
    let last := e.position + e.count - 1
    s!"'utf-8' codec can't encode characters in position {e.position}-{last}: " ++
      "surrogates not allowed"

/-- The bytes of a text.  There are none if a half is in it. -/
def encode (cs : List Char) : Except EncodeError (List UInt8) :=
  let front := (points cs).takeWhile (!isHalf ·)
  match (points cs).dropWhile (!isHalf ·) with
  | [] => .ok (encodeUtf8 (front.map Char.ofNat))
  | half :: rest => .error ⟨front.length, (rest.takeWhile isHalf).length + 1, half⟩

/-- The wording of a fault. -/
def Utf8Fault.message : Utf8Fault → String
  | .start => "invalid start byte"
  | .continuation => "invalid continuation byte"
  | .unexpectedEnd => "unexpected end of data"

/-- The wording of an error: one bad byte is named, several are given by their positions. -/
def Utf8Error.message (e : Utf8Error) : String :=
  if e.count = 1 then
    let byte := String.ofList (hexDigits 2 e.byte.toNat)
    s!"'utf-8' codec can't decode byte 0x{byte} in position {e.position}: {e.fault.message}"
  else
    let last := e.position + e.count - 1
    s!"'utf-8' codec can't decode bytes in position {e.position}-{last}: {e.fault.message}"

/-- Reads the whole of a file.  An incomplete character at its very end is blamed on its own, at
position zero. -/
def decodeFile (bytes : List UInt8) : Except Utf8Error (List Char) :=
  match decodeUtf8 bytes with
  | (cs, none) => .ok cs
  | (_, some e) => .error (if e.fault = .unexpectedEnd then { e with position := 0 } else e)

end FirewallPolicy.Text
