import FirewallPolicy.Document.Value
import FirewallPolicy.Text.Numeral

/-!
# Faults of a policy

A policy is refused at the first location that breaks a rule.  `Fault` names the rule,
`Violation` adds the location, and `ReadError` has room for numerals that no rule covers.
-/

namespace FirewallPolicy

open FirewallPolicy.Text (quote decimalText NumeralError)

/-- The rule that a value breaks. -/
inductive Fault where
  /-- The field is absent or null. -/
  | required
  | notMapping (kind : String)
  | notList (kind : String)
  | notText (kind : String)
  /-- Nothing is left of a text without the blanks at its ends. -/
  | empty
  | notToken (text : String)
  | tooLong (text : String) (limit : Int)
  /-- A truth value stands for a port. -/
  | truthAsPort
  | notPort (value : Value)
  | portOutOfRange (port : Int)
  /-- A network is written without a slash. -/
  | notCidr (text : String)
  | notNetwork (text : String)
  | notAddress (text : String)
  | notConnection (text : String)
  /-- The connection URL names another kind of database. -/
  | scheme (driver : String)
  /-- A rule of a job that is not built in, in its own words. -/
  | custom (message : String)

/-- The wording of a fault. -/
def Fault.message : Fault → String
  | .required => "is required"
  | .notMapping kind => s!"must be a mapping, got {kind}"
  | .notList kind => s!"must be a list, got {kind}"
  | .notText kind => s!"must be a string, got {kind}"
  | .empty => "must not be empty"
  | .notToken text =>
    s!"{quote text} may only contain letters, digits and the characters _ . : @ + -"
  | .tooLong text limit => s!"{quote text} is longer than {limit} characters"
  | .truthAsPort => "must be a port number"
  | .notPort value => s!"must be a port number, got {value.shown}"
  | .portOutOfRange port => s!"port number {decimalText port} is out of range"
  | .notCidr text => s!"{quote text} must be a network in CIDR notation"
  | .notNetwork text => s!"{quote text} is not a valid IP network"
  | .notAddress text => s!"{quote text} is not a valid IP address"
  | .notConnection text => s!"{quote text} is not a valid connection URL"
  | .scheme driver => s!"connection URL scheme must be postgres, got {quote driver}"
  | .custom message => message

/-- A message about a location; the empty location is left out. -/
def invalidText (path message : String) : String :=
  if path.isEmpty then s!"Invalid configuration: {message}"
  else s!"Invalid configuration: {path}: {message}"

/-- A broken rule and where it is broken. -/
structure Violation where
  path : String
  fault : Fault

/-- The wording of a violation. -/
def Violation.message (v : Violation) : String := invalidText v.path v.fault.message

/-- Why a policy is not read. -/
inductive ReadError where
  | violation (v : Violation)
  /-- A text passes for a number and cannot be read as one, or a number cannot be written. -/
  | numeral (cause : NumeralError)

/-- The wording of a read error. -/
def ReadError.message : ReadError → String
  | .violation v => v.message
  | .numeral cause => cause.message

/-- The result of reading a part of a policy. -/
abbrev Reading := Except ReadError

/-- Refuses a location. -/
def refuse {α : Type} (path : String) (fault : Fault) : Reading α :=
  .error (.violation ⟨path, fault⟩)

end FirewallPolicy
