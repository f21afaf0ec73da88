import FirewallPolicy.Text.Blank
import FirewallPolicy.Text.Digit
import FirewallPolicy.Text.Quoted

/-!
# Whole numbers as text

Reading takes one sign, decimal digits of any script with single low lines between them, and blanks
around the whole.  A numeral longer than 4300 digits is neither read nor written.
-/

namespace FirewallPolicy.Text

/-- The most digits a numeral may have. -/
def numeralLimit : Nat := 4300

/-- Why a text is not read as a whole number, or a whole number not written. -/
inductive NumeralError where
  /-- The text is no numeral of the base. -/
  | malformed (base : Nat) (text : String)
  /-- The numeral has more digits than the limit. -/
  | tooManyDigits (digits : Nat)
  /-- The number would need more digits than the limit. -/
  | tooLongToWrite
  deriving DecidableEq, Repr

/-- How much of a quoted text is shown where it is no numeral. -/
def shownNumeralLimit : Nat := 200

/-- The wording of a numeral error. -/
def NumeralError.message : NumeralError → String
  | .malformed base text =>
    let shown := String.ofList ((quote text).toList.take shownNumeralLimit)
    s!"invalid literal for int() with base {base}: {shown}"
  | .tooManyDigits digits =>
    s!"Exceeds the limit ({numeralLimit} digits) for integer string conversion: value has " ++
      s!"{digits} digits; use sys.set_int_max_str_digits() to increase the limit"
  | .tooLongToWrite =>
    s!"Exceeds the limit ({numeralLimit} digits) for integer string conversion; use " ++
      "sys.set_int_max_str_digits() to increase the limit"

/-- The blanks allowed around a numeral: all but the four separator controls. -/
def isNumeralBlank (c : Char) : Bool :=
  isBlank c && !(decide (0x1C ≤ c.toNat) && decide (c.toNat ≤ 0x1F))

/-- The number that digits denote in a base, most significant first. -/
def ofDigits (base : Nat) (digits : List Nat) : Nat :=
  digits.foldl (fun n d => n * base + d) 0

/-- A sign in front of a numeral; true for a minus. -/
def splitSign : List Char → Bool × List Char
  | '-' :: cs => (true, cs)
  | '+' :: cs => (false, cs)
  | cs => (false, cs)

/-- Whether low lines stand only between two digits. -/
def lowLinesBetween : List Char → Bool
  | [] => false
  | ['_'] => false
  | '_' :: '_' :: _ => false
  | '_' :: c :: cs => lowLinesBetween (c :: cs)
  | [_] => true
  | _ :: c :: cs => lowLinesBetween (c :: cs)

/-- The marker that announces a base of two, eight or sixteen. -/
def dropBaseMark (base : Nat) (cs : List Char) : List Char :=
  match cs with
  | '0' :: c :: rest =>
    if (base = 2 ∧ (c = 'b' ∨ c = 'B')) ∨ (base = 8 ∧ (c = 'o' ∨ c = 'O')) ∨
        (base = 16 ∧ (c = 'x' ∨ c = 'X')) then
      match rest with
      | '_' :: digits => digits
      | digits => digits
    else cs
  | _ => cs

/-- The digit value of a character in a base: decimal digits of any script count too. -/
def numeralDigit? (base : Nat) (c : Char) : Option Nat :=
  ((decimalDigit? c).orElse fun _ => asciiDigit? c).filter (· < base)

/-- Reads a whole number in a base.  The digit limit binds only bases that are no power of two. -/
def readIntIn (base : Nat) (s : String) : Except NumeralError Int :=
  let (negative, body) := splitSign (s.toList.dropWhile isNumeralBlank)
  let body := dropBaseMark base body
  let isNumeralChar := fun c => c == '_' || (numeralDigit? base c).isSome
  let run := body.takeWhile isNumeralChar
  let rest := body.dropWhile isNumeralChar
  let digits := run.filterMap (numeralDigit? base)
  if run.head? = some '_' ∨ !lowLinesBetween run then .error (.malformed base s)
  else if digits.length > numeralLimit ∧ base = 10 then .error (.tooManyDigits digits.length)
  else if !rest.all isNumeralBlank then .error (.malformed base s)
  else
    let n := ofDigits base digits
    .ok (if negative then -(n : Int) else n)

/-- Reads a whole number in decimal. -/
def readInt (s : String) : Except NumeralError Int := readIntIn 10 s

/-- The digits of a number in decimal. -/
def decimalText (n : Int) : String := toString n

/-- Whether a number can be written within the digit limit. -/
def isWritable (n : Int) : Bool := decide (n.natAbs < Nat.pow 10 numeralLimit)

/-- A number in decimal, refused beyond the digit limit. -/
def writeInt (n : Int) : Except NumeralError String :=
  if isWritable n then .ok (decimalText n) else .error .tooLongToWrite

/-- A number in decimal, filled with zeros on the left to a width. -/
def paddedNat (width n : Nat) : String :=
  let digits := toString n
  String.ofList (List.replicate (width - digits.length) '0') ++ digits

end FirewallPolicy.Text
