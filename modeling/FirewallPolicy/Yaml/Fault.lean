import FirewallPolicy.Calendar.Date
import FirewallPolicy.Text.Numeral

/-!
# Faults of YAML documents

Most faults make a text no YAML at all.  Some scalars look like a number, a truth value or a date
and turn out not to be one only when their value is built; these faults have wordings of their own.
-/

namespace FirewallPolicy.Yaml

/-- What is wrong with a document. -/
inductive YamlFault where
  /-- A character that no document may hold. -/
  | unprintable
  /-- Characters that form no token. -/
  | token
  /-- Tokens in an order that forms no document. -/
  | arrangement
  /-- A name that no node bears, or that two nodes bear. -/
  | anchor
  /-- A node that its tag does not fit. -/
  | construction
  /-- An escape for a number that is no character. -/
  | codePoint (n : Nat)
  | numeral (cause : Text.NumeralError)
  /-- A text that is no number with a fraction. -/
  | notFloat (text : String)
  /-- A number in parts of sixty with too many of them. -/
  | floatTooLarge
  /-- No digit where there has to be one. -/
  | noDigit
  /-- A text that is no truth value. -/
  | notBool (text : String)
  /-- A text that is no date. -/
  | notDate
  /-- A mapping that is asked for a date. -/
  | dateOfMapping
  /-- A mapping that stands for itself under its key `=`. -/
  | endless
  | calendar (cause : Calendar.CalendarError)
  deriving DecidableEq, Repr

/-- Whether a fault makes the text no YAML; the others concern the value of a scalar. -/
def YamlFault.isMalformed : YamlFault → Bool
  | .unprintable | .token | .arrangement | .anchor | .construction => true
  | _ => false

/-- The wording of a fault. -/
def YamlFault.message : YamlFault → String
  | .unprintable => "special characters are not allowed"
  | .token => "malformed token"
  | .arrangement => "malformed structure"
  | .anchor => "undefined or duplicate anchor"
  | .construction => "no value for this node"
  | .codePoint n =>
    if n < 0x80000000 then "chr() arg not in range(0x110000)"
    else "Python int too large to convert to C int"
  | .numeral cause => cause.message
  | .notFloat text => s!"could not convert string to float: {Text.quote text}"
  | .floatTooLarge => "int too large to convert to float"
  | .noDigit => "string index out of range"
  | .notBool text => Text.quote text
  | .notDate => "'NoneType' object has no attribute 'groupdict'"
  | .dateOfMapping => "expected string or bytes-like object, got 'list'"
  | .endless => "maximum recursion depth exceeded"
  | .calendar cause => cause.message

end FirewallPolicy.Yaml
