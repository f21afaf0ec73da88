import FirewallPolicy.Calendar.Date
import FirewallPolicy.Decimal.Binary
import FirewallPolicy.Text.Numeral
import FirewallPolicy.Text.Split
import FirewallPolicy.Yaml.Fault

/-!
# Scalars

The text of a scalar without quotes and without a tag decides its kind: truth values, numbers, null
and dates have forms of their own, and everything else is text.  The value is then built by the
rules of the kind, which a tag may also ask for when the text has another form.
-/

namespace FirewallPolicy.Yaml

open FirewallPolicy.Calendar (Date DateTime)
open FirewallPolicy.Text (asciiDigit? digitBelow? fieldsOf isAsciiDigit ofDigits)

/-! ## Tags -/

/-- A tag of the language itself. -/
def coreTag (name : String) : String := "tag:yaml.org,2002:" ++ name

/-- The tag of text. -/
def strTag : String := coreTag "str"

/-- The tag of null. -/
def nullTag : String := coreTag "null"

/-- The tag of lists. -/
def seqTag : String := coreTag "seq"

/-- The tag of mappings. -/
def mapTag : String := coreTag "map"

/-- The tag of the key that takes in other mappings. -/
def mergeTag : String := coreTag "merge"

/-- The tag of the key for a default value. -/
def valueTag : String := coreTag "value"

/-! ## Forms -/

/-- Whether a text is made of characters of a kind, at least one of them. -/
def isRun (p : Char → Bool) (cs : List Char) : Bool := !cs.isEmpty && cs.all p

/-- A digit or a low line. -/
def isDigitOrLow (c : Char) : Bool := isAsciiDigit c || c == '_'

/-- The text behind a sign. -/
def unsigned : List Char → List Char
  | '-' :: cs => cs
  | '+' :: cs => cs
  | cs => cs

/-- Whether a text begins with a digit and goes on with digits and low lines. -/
def isDigitsForm : List Char → Bool
  | [] => false
  | c :: cs => isAsciiDigit c && cs.all isDigitOrLow

/-- Whether a text is a part of a number in parts of sixty: one or two digits below sixty. -/
def isSixtieth : List Char → Bool
  | [c] => isAsciiDigit c
  | [c, d] => decide ('0' ≤ c) && decide (c ≤ '5') && isAsciiDigit d
  | _ => false

/-- Whether a text is a truth value. -/
def isBoolForm (cs : List Char) : Bool :=
  ["yes", "Yes", "YES", "no", "No", "NO", "true", "True", "TRUE", "false", "False", "FALSE", "on",
    "On", "ON", "off", "Off", "OFF"].contains (String.ofList cs)

/-- Whether a text is an exponent behind a fraction, or nothing. -/
def isExponentForm : List Char → Bool
  | [] => true
  | e :: s :: cs => (e == 'e' || e == 'E') && (s == '-' || s == '+') && isRun isAsciiDigit cs
  | _ => false

/-- Whether a text goes on behind the point of a number with a fraction. -/
def isFractionForm (cs : List Char) : Bool := isExponentForm (cs.dropWhile isDigitOrLow)

/-- Whether a text is a number with a fraction. -/
def isFloatForm (cs : List Char) : Bool :=
  let body := unsigned cs
  let positional := match Text.cutAt? '.' body with
    | none => false
    | some (whole, fraction) =>
      (isDigitsForm whole && isFractionForm fraction) ||
        match fieldsOf ':' whole with
        | first :: second :: parts =>
          isDigitsForm first && (second :: parts).all isSixtieth && fraction.all isDigitOrLow
        | _ => false
  let leadingPoint := match cs with
    | '.' :: c :: rest => isAsciiDigit c && isFractionForm rest
    | _ => false
  let text := String.ofList body
  positional || leadingPoint || text == ".inf" || text == ".Inf" || text == ".INF" ||
    [".nan", ".NaN", ".NAN"].contains (String.ofList cs)

/-- Whether a text is a whole number. -/
def isIntForm (cs : List Char) : Bool :=
  match unsigned cs with
  | ['0'] => true
  | '0' :: 'b' :: rest => isRun (fun c => c == '0' || c == '1' || c == '_') rest
  | '0' :: 'x' :: rest => isRun (fun c => (digitBelow? 16 c).isSome || c == '_') rest
  | '0' :: rest => isRun (fun c => (digitBelow? 8 c).isSome || c == '_') rest
  | body =>
    match fieldsOf ':' body with
    | first :: parts => isDigitsForm first && parts.all isSixtieth
    | [] => false

/-- Whether a text is null. -/
def isNullForm (cs : List Char) : Bool :=
  ["~", "null", "Null", "NULL", ""].contains (String.ofList cs)

/-! ## Dates -/

/-- The parts of a date and a time of day. -/
structure Stamp where
  year : List Char
  month : List Char
  day : List Char
  /-- Hour, minute, second and the digits of the fraction. -/
  time : Option (List Char × List Char × List Char × List Char) := none
  /-- Nothing, `Z`, or a sign with hours and minutes. -/
  zone : Option (Option (Char × List Char × List Char)) := none

/-- Takes one or two digits. -/
def oneOrTwo (cs : List Char) : Option (List Char × List Char) :=
  match cs with
  | a :: b :: rest =>
    if !isAsciiDigit a then none
    else if isAsciiDigit b then some ([a, b], rest) else some ([a], b :: rest)
  | [a] => if isAsciiDigit a then some ([a], []) else none
  | [] => none

/-- Takes some digits. -/
def exactly (n : Nat) (cs : List Char) : Option (List Char × List Char) :=
  let ds := cs.take n
  if ds.length = n ∧ ds.all isAsciiDigit then some (ds, cs.drop n) else none

/-- Takes a character. -/
def takeChar (x : Char) : List Char → Option (List Char)
  | c :: cs => if c = x then some cs else none
  | [] => none

/-- A blank or a tab. -/
def isSpaceOrTab (c : Char) : Bool := c == ' ' || c == '\t'

/-- Reads the offset of a time, to the end. -/
def zone? (cs : List Char) : Option (Option (Option (Char × List Char × List Char))) :=
  match cs with
  | [] => some none
  | _ =>
    match cs.dropWhile isSpaceOrTab with
    | ['Z'] => some (some none)
    | sign :: rest =>
      if sign ≠ '-' ∧ sign ≠ '+' then none
      else do
        let (hours, rest) ← oneOrTwo rest
        match rest with
        | [] => return some (some (sign, hours, []))
        | ':' :: minutes =>
          let (ms, rest) ← exactly 2 minutes
          if rest.isEmpty then return some (some (sign, hours, ms)) else none
        | _ => none
    | [] => none

/-- Takes what stands between a date and a time: a letter, or blanks. -/
def timeMark? : List Char → Option (List Char)
  | 'T' :: cs => some cs
  | 't' :: cs => some cs
  | c :: cs => if isSpaceOrTab c then some (cs.dropWhile isSpaceOrTab) else none
  | [] => none

/-- Reads a date, or a date and a time. -/
def stamp? (cs : List Char) : Option Stamp := do
  let (year, cs) ← exactly 4 cs
  let cs ← takeChar '-' cs
  let (month, cs) ← oneOrTwo cs
  let cs ← takeChar '-' cs
  let (day, cs) ← oneOrTwo cs
  if cs.isEmpty then return { year, month, day }
  let cs ← timeMark? cs
  let (hour, cs) ← oneOrTwo cs
  let cs ← takeChar ':' cs
  let (minute, cs) ← exactly 2 cs
  let cs ← takeChar ':' cs
  let (second, cs) ← exactly 2 cs
  let (fraction, cs) := match cs with
    | '.' :: rest => (rest.takeWhile isAsciiDigit, rest.dropWhile isAsciiDigit)
    | _ => ([], cs)
  let zone ← zone? cs
  return { year, month, day, time := some (hour, minute, second, fraction), zone }

/-- Whether a text is a date or a time without a tag saying so: a date alone has two digits for
month and day. -/
def isStampForm (cs : List Char) : Bool :=
  match stamp? cs with
  | none => false
  | some s => s.time.isSome || (s.month.length == 2 && s.day.length == 2)

/-! ## Kinds -/

/-- The tag of a scalar that has none and stands without quotes.  A line end behind it does not
count. -/
def plainTag (text : String) : String :=
  let cs := text.toList
  let cs := if cs.getLast? = some '\n' then cs.dropLast else cs
  if text.isEmpty then nullTag
  else if isBoolForm cs then coreTag "bool"
  else if isFloatForm cs then coreTag "float"
  else if isIntForm cs then coreTag "int"
  else if cs = ['<', '<'] then mergeTag
  else if isNullForm cs ∧ cs ≠ [] then nullTag
  else if isStampForm cs then coreTag "timestamp"
  else if cs = ['='] then valueTag
  else if cs = ['!'] ∨ cs = ['&'] ∨ cs = ['*'] then coreTag "yaml"
  else strTag

/-! ## Values -/

/-- A text without low lines. -/
def withoutLowLines (s : String) : List Char := s.toList.filter (· != '_')

/-- Whether a number is negative, and its text behind the sign.  There has to be a character. -/
def signOf (cs : List Char) : Except YamlFault (Bool × List Char) :=
  match cs with
  | [] => .error .noDigit
  | '-' :: rest => .ok (true, rest)
  | '+' :: rest => .ok (false, rest)
  | _ => .ok (false, cs)

/-- Reads a whole number in a base. -/
def intIn (base : Nat) (cs : List Char) : Except YamlFault Int :=
  (Text.readIntIn base (String.ofList cs)).mapError .numeral

/-- Reads a whole number in parts of sixty. -/
def intOfSixtieths (parts : List (List Char)) : Except YamlFault Int := do
  let digits ← parts.mapM (intIn 10)
  return digits.foldl (fun n d => n * 60 + d) 0

/-- The value of a whole number: binary, octal, hexadecimal, in parts of sixty or decimal. -/
def intValue (s : String) : Except YamlFault Int := do
  let (negative, cs) ← signOf (withoutLowLines s)
  let n ← match cs with
    | ['0'] => pure 0
    | '0' :: 'b' :: rest => intIn 2 rest
    | '0' :: 'x' :: rest => intIn 16 rest
    | '0' :: _ => intIn 8 cs
    | [] => throw .noDigit
    | _ => if cs.contains ':' then intOfSixtieths (fieldsOf ':' cs) else intIn 10 cs
  return if negative then -n else n

/-- The digits of a decimal number and its exponent, given what is before and behind the point. -/
def decimalParts? (cs : List Char) : Option (Nat × Int) :=
  let whole := cs.takeWhile isAsciiDigit
  let rest := cs.dropWhile isAsciiDigit
  let (fraction, rest) := match rest with
    | '.' :: more => (more.takeWhile isAsciiDigit, more.dropWhile isAsciiDigit)
    | _ => ([], rest)
  let digits := ofDigits 10 ((whole ++ fraction).filterMap asciiDigit?)
  if whole.isEmpty ∧ fraction.isEmpty then none
  else match rest with
    | [] => some (digits, -(fraction.length : Int))
    | e :: more =>
      if e ≠ 'e' then none
      else
        let negative := more.head? == some '-'
        let ds := unsigned more
        if !isRun isAsciiDigit ds then none
        else
          let n : Int := ofDigits 10 (ds.filterMap asciiDigit?)
          some (digits, (if negative then -n else n) - fraction.length)

/-- Reads a number with a fraction, in lower case; decimal digits of any script count. -/
def readFloat (cs : List Char) : Except YamlFault Float :=
  let ascii := fun c => match Text.decimalDigit? c with
    | some d => Char.ofNat ('0'.toNat + d)
    | none => c
  let trimmed := ((cs.dropWhile Text.isNumeralBlank).reverse.dropWhile Text.isNumeralBlank).reverse
  let (negative, body) := Text.splitSign (trimmed.map ascii)
  let word := String.ofList body
  if word = "inf" ∨ word = "infinity" then .ok (Decimal.infinity negative)
  else if word = "nan" then .ok Decimal.notANumber
  else match decimalParts? body with
    | some (digits, exponent) => .ok (Decimal.ofDecimal negative digits exponent)
    | none => .error (.notFloat (String.ofList cs))

/-- Adds up parts of sixty, the last of them first. -/
def floatOfSixtieths (base : Int) (total : Float) : List Float → Except YamlFault Float
  | [] => .ok total
  | d :: ds =>
    match Decimal.ofInt? base with
    | none => .error .floatTooLarge
    | some b => floatOfSixtieths (base * 60) (Decimal.sum total (Decimal.product d b)) ds

/-- The value of a number with a fraction. -/
def floatValue (s : String) : Except YamlFault Float := do
  let (negative, cs) ← signOf ((withoutLowLines s).map Char.toLower)
  let x ← (
    if cs = ".inf".toList then pure (Decimal.infinity false)
    else if cs = ".nan".toList then pure Decimal.notANumber
    else if cs.contains ':' then do
      let digits ← (fieldsOf ':' cs).mapM readFloat
      floatOfSixtieths 1 (Decimal.nearest false 0 1) digits.reverse
    else readFloat cs : Except YamlFault Float)
  return if negative then Decimal.negated x else x

/-- The value of a truth value. -/
def boolValue (s : String) : Except YamlFault Bool :=
  let lower := String.ofList (s.toList.map Char.toLower)
  if ["yes", "true", "on"].contains lower then .ok true
  else if ["no", "false", "off"].contains lower then .ok false
  else .error (.notBool lower)

/-- The number that digits denote. -/
def digitsValue (cs : List Char) : Nat := ofDigits 10 (cs.filterMap asciiDigit?)

/-- The microseconds of a fraction of a second: its first six digits. -/
def microseconds (fraction : List Char) : Nat :=
  let ds := fraction.take 6
  digitsValue (ds ++ List.replicate (6 - ds.length) '0')

/-- The offset of a time in seconds, below a day in either direction. -/
def offsetSeconds : Option (Option (Char × List Char × List Char)) →
    Except YamlFault (Option Int)
  | none => .ok none
  | some none => .ok (some 0)
  | some (some (sign, hours, minutes)) =>
    let n : Int := digitsValue hours * 3600 + digitsValue minutes * 60
    let n := if sign = '-' then -n else n
    if n.natAbs < 86400 then .ok (some n) else .error (.calendar (.offset n))

/-- The value of a date, or of a date with a time. -/
def stampValue (s : String) : Except YamlFault (Date ⊕ DateTime) :=
  let cs := s.toList
  let cs := if cs.getLast? = some '\n' then cs.dropLast else cs
  match stamp? cs with
  | none => .error .notDate
  | some t =>
    let year := digitsValue t.year
    let month := digitsValue t.month
    let day := digitsValue t.day
    match t.time with
    | none => ((Date.make year month day).mapError .calendar).map .inl
    | some (hour, minute, second, fraction) => do
      let offset ← offsetSeconds t.zone
      let t ← (DateTime.make year month day (digitsValue hour) (digitsValue minute)
        (digitsValue second) (microseconds fraction) offset).mapError .calendar
      return .inr t

/-! ## Bytes -/

/-- The value of a character in base 64. -/
def base64Digit? (c : Char) : Option Nat :=
  if 'A' ≤ c ∧ c ≤ 'Z' then some (c.toNat - 65)
  else if 'a' ≤ c ∧ c ≤ 'z' then some (c.toNat - 71)
  else if '0' ≤ c ∧ c ≤ '9' then some (c.toNat + 4)
  else if c = '+' then some 62
  else if c = '/' then some 63
  else none

/-- Reads base 64: other characters are passed over, and padding ends it.  `place` counts the
digits of the present group, `left` holds the bits not used yet. -/
def base64From (place pads left : Nat) : List Char → Option (List UInt8)
  | [] => if place = 0 then some [] else none
  | c :: cs =>
    if c = '=' then
      if 2 ≤ place ∧ 4 ≤ place + pads + 1 then some []
      else base64From place (if 2 ≤ place then pads + 1 else pads) left cs
    else match base64Digit? c with
      | none => base64From place pads left cs
      | some d =>
        if place = 0 then base64From 1 0 d cs
        else if place = 1 then
          (base64From 2 0 (d % 16) cs).map (UInt8.ofNat (left * 4 + d / 16) :: ·)
        else if place = 2 then
          (base64From 3 0 (d % 4) cs).map (UInt8.ofNat (left * 16 + d / 4) :: ·)
        else (base64From 0 0 0 cs).map (UInt8.ofNat (left * 64 + d) :: ·)

/-- The value of bytes in base 64. -/
def bytesValue (s : String) : Except YamlFault (List UInt8) :=
  if s.toList.any fun c => decide (0x80 ≤ c.toNat) then .error .construction
  else match base64From 0 0 0 s.toList with
    | some bytes => .ok bytes
    | none => .error .construction

end FirewallPolicy.Yaml
