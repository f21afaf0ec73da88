import FirewallPolicy.Text.Digit
import FirewallPolicy.Text.Split
import FirewallPolicy.Text.Numeral

/-!
# IPv4 addresses and networks

An address is a number below `2 ^ 32`.  A network is an address with a length, all bits beyond the
length being zero; both conditions are part of the type.

## Texts

An address is four octets with no leading zeros.  A network is an address, optionally followed by a
slash and a length, a netmask or a hostmask; a mask that could be either is taken as a netmask.
-/

namespace FirewallPolicy.Address

open FirewallPolicy.Text

/-! ## Blocks -/

/-- How many addresses share all but their last `bits` bits: `2 ^ bits`. -/
def blockSize (bits : Nat) : Nat := 1 <<< bits

/-- With no bit left free, a block is a single address. -/
@[simp] theorem blockSize_zero : blockSize 0 = 1 := rfl

/-- Every free bit doubles a block. -/
theorem blockSize_succ (bits : Nat) : blockSize (bits + 1) = 2 * blockSize bits := by
  simp only [blockSize, Nat.shiftLeft_succ]

/-- No block is empty. -/
theorem blockSize_pos (bits : Nat) : 0 < blockSize bits := by
  induction bits with
  | zero => exact Nat.one_pos
  | succ b ih => rw [blockSize_succ]; omega

/-! ## Addresses and networks -/

/-- An IPv4 address. -/
structure IPv4 where
  value : Nat
  value_lt : value < 0x100000000 := by omega
  deriving DecidableEq, Repr

/-- An IPv4 network: its first address and the number of leading bits all its addresses share. -/
structure Network where
  address : Nat
  length : Nat
  length_le : length ≤ 32
  address_lt : address < 0x100000000
  aligned : blockSize (32 - length) ∣ address
  deriving DecidableEq, Repr

/-- The address with the given number, taken modulo `2 ^ 32`. -/
def IPv4.wrap (n : Nat) : IPv4 := ⟨n % 0x100000000, Nat.mod_lt _ (by decide)⟩

/-- The network of the given length that holds an address. -/
def Network.holding (a : IPv4) (length : Nat) (h : length ≤ 32) : Network where
  address := a.value / blockSize (32 - length) * blockSize (32 - length)
  length := length
  length_le := h
  address_lt := Nat.lt_of_le_of_lt (Nat.div_mul_le_self _ _) a.value_lt
  aligned := Nat.dvd_mul_left _ _

/-- Whether a network holds an address. -/
def Network.contains (n : Network) (a : IPv4) : Bool :=
  a.value / blockSize (32 - n.length) == n.address / blockSize (32 - n.length)

/-- The last address of a network. -/
def Network.last (n : Network) : Nat := n.address + blockSize (32 - n.length) - 1

/-! ## Reading -/

/-- One octet: up to three ASCII digits with no needless zero, at most 255. -/
def octet? (cs : List Char) : Option Nat :=
  if cs.isEmpty ∨ !cs.all isAsciiDigit ∨ 3 < cs.length then none
  else if cs.head? = some '0' ∧ cs ≠ ['0'] then none
  else
    let n := ofDigits 10 (cs.filterMap asciiDigit?)
    if n ≤ 255 then some n else none

/-- The number of a dotted quad. -/
def dottedQuad? (cs : List Char) : Option Nat :=
  match (fieldsOf '.' cs).mapM octet? with
  | some [a, b, c, d] => some (((a * 256 + b) * 256 + c) * 256 + d)
  | _ => none

/-- Reads an address. -/
def IPv4.ofChars? (cs : List Char) : Option IPv4 :=
  (dottedQuad? cs).map IPv4.wrap

/-- Reads the length of a network written as ASCII digits. -/
def length? (limit : Nat) (cs : List Char) : Option { n : Nat // n ≤ limit } :=
  if cs.isEmpty ∨ !cs.all isAsciiDigit ∨ numeralLimit < cs.length then none
  else
    let n := ofDigits 10 (cs.filterMap asciiDigit?)
    if h : n ≤ limit then some ⟨n, h⟩ else none

/-- The lengths of networks, as elements of their type. -/
def lengths : List { n : Nat // n ≤ 32 } :=
  (List.finRange 33).map fun i => ⟨i.val, Nat.le_of_lt_succ i.isLt⟩

/-- The length that a dotted mask stands for: ones then zeros, or else zeros then ones. -/
def maskLength? (mask : Nat) : Option { n : Nat // n ≤ 32 } :=
  (lengths.find? fun n => decide (mask + blockSize (32 - n.val) = 0x100000000)).orElse fun _ =>
    lengths.find? fun n => decide (mask + 1 = blockSize (32 - n.val))

/-- What may stand behind the slash of a network. -/
def suffix? (cs : List Char) : Option { n : Nat // n ≤ 32 } :=
  (length? 32 cs).orElse fun _ => (dottedQuad? cs).bind maskLength?

/-- Reads a network; bits beyond its length are dropped, and the length is 32 where none stands. -/
def Network.ofChars? (cs : List Char) : Option Network :=
  match fieldsOf '/' cs with
  | [a] => (IPv4.ofChars? a).map fun a => Network.holding a 32 (Nat.le_refl _)
  | [a, s] => do
    let a ← IPv4.ofChars? a
    let n ← suffix? s
    return Network.holding a n.val n.property
  | _ => none

/-! ## Writing -/

/-- The dotted quad of a number. -/
def quadText (n : Nat) : String :=
  toString (n / 0x1000000 % 256) ++ "." ++ toString (n / 0x10000 % 256) ++ "." ++
    toString (n / 0x100 % 256) ++ "." ++ toString (n % 256)

/-- An address as text. -/
def IPv4.text (a : IPv4) : String := quadText a.value

/-- A network as text. -/
def Network.text (n : Network) : String := quadText n.address ++ "/" ++ toString n.length

/-! ## Order -/

/-- Networks are ordered by address, those of one address by length. -/
def Network.before (m n : Network) : Bool :=
  m.address < n.address || (m.address == n.address && m.length < n.length)

end FirewallPolicy.Address
