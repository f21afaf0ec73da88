import FirewallPolicy.Text.Digit
import FirewallPolicy.Text.Split

/-!
# Options on a command line

An option has a short and a long name and either takes a value or does not.  Long names may be cut
short as long as only one name is left, short options without a value may be joined, and a value may
be attached to its option.  First the kind of every argument is decided; then the options take
effect from left to right.
-/

namespace FirewallPolicy.CommandLine

open FirewallPolicy.Text (cutAt? isDigitLike)

/-- Why arguments lead to no run of a program. -/
inductive Halt where
  /-- The arguments are wrong. -/
  | usage
  /-- The arguments ask for a description of the program. -/
  | help
  /-- The arguments ask for the version of the program. -/
  | version
  /-- The value attached to an option is two dashes, which never count as a value. -/
  | lostValue
  deriving DecidableEq, Repr

/-- What an option does. -/
inductive Effect (κ : Type) where
  | flag (key : κ)
  /-- The option takes a value, which may have to be one of some. -/
  | value (key : κ) (choices : Option (List String))
  /-- The option ends the program. -/
  | halt (h : Halt)
  deriving DecidableEq, Repr

/-- An option with its names. -/
structure OptionRule (κ : Type) where
  names : List String
  effect : Effect κ
  deriving DecidableEq, Repr

/-- An option as it was given. -/
inductive Given (κ : Type) where
  | flag (key : κ)
  | value (key : κ) (text : String)
  deriving DecidableEq, Repr

section

variable {κ : Type}

/-- Whether an option takes a value. -/
def OptionRule.takesValue (r : OptionRule κ) : Bool :=
  match r.effect with
  | .value _ _ => true
  | _ => false

/-! ## The kind of an argument -/

/-- The kind of an argument. -/
inductive Word (κ : Type) where
  /-- No option; it may be the value of one. -/
  | operand
  /-- The mark behind which there are no options. -/
  | mark
  /-- An option by one of its names, with the value attached to it. -/
  | option (rule : OptionRule κ) (long : Bool) (attached : Option (List Char))
  /-- It looks like an option and is none. -/
  | unknown

/-- The option with a name. -/
def named? (rules : List (OptionRule κ)) (name : List Char) : Option (OptionRule κ) :=
  rules.find? fun r => r.names.any (·.toList == name)

/-- Whether an argument is a negative number. -/
def isNegativeNumber (cs : List Char) : Bool :=
  match cs with
  | '-' :: rest =>
    match cutAt? '.' rest with
    | none => !rest.isEmpty && rest.all isDecimal
    | some (whole, fraction) => whole.all isDecimal && !fraction.isEmpty && fraction.all isDecimal
  | _ => false
where
  /-- Whether a character is a decimal digit. -/
  isDecimal (c : Char) : Bool := (Text.decimalDigit? c).isSome

/-- Whether a name is a long one. -/
def isLong (name : List Char) : Bool := (name.drop 1).head? == some '-'

/-- The options that an argument may stand for without naming one in full. -/
def candidates (rules : List (OptionRule κ)) (cs : List Char) : List (Word κ) :=
  if isLong cs then
    let (start, attached) := match cutAt? '=' cs with
      | some (before, after) => (before, some after)
      | none => (cs, none)
    rules.flatMap fun r =>
      (r.names.filter fun n => start.isPrefixOf n.toList).map fun _ => .option r true attached
  else ((named? rules (cs.take 2)).map fun r => Word.option r false (some (cs.drop 2))).toList

/-- The option that an argument names in full, with or without a value attached to it. -/
def fullName? (rules : List (OptionRule κ)) (cs : List Char) : Option (Word κ) :=
  match named? rules cs with
  | some r => some (.option r (isLong cs) none)
  | none =>
    match cutAt? '=' cs with
    | none => none
    | some (name, attached) =>
      (named? rules name).map fun r => .option r (isLong name) (some attached)

/-- The kind of an argument in front of the mark. -/
def wordOf (rules : List (OptionRule κ)) (cs : List Char) : Except Halt (Word κ) :=
  if cs.head? ≠ some '-' ∨ cs = ['-'] then .ok .operand
  else match fullName? rules cs with
    | some w => .ok w
    | none =>
      match candidates rules cs with
      | [w] => .ok w
      | _ :: _ => .error .usage
      | [] =>
        if isNegativeNumber cs || cs.contains ' ' then .ok .operand else .ok .unknown

/-- The kinds of all arguments. -/
def wordsOf (rules : List (OptionRule κ)) : List String → Except Halt (List (Word κ × String))
  | [] => .ok []
  | arg :: rest =>
    if arg = "--" then .ok ((.mark, arg) :: rest.map fun a => (.operand, a))
    else do
      let w ← wordOf rules arg.toList
      let ws ← wordsOf rules rest
      return (w, arg) :: ws

/-! ## Joined options -/

/-- The options in one argument; the last of them may have a value attached. -/
structure Group (κ : Type) where
  flags : List (OptionRule κ)
  last : OptionRule κ
  attached : Option (List Char)

/-- The options in an argument that begins with a short one and goes on. -/
def joinedGroup (rules : List (OptionRule κ)) (r : OptionRule κ) :
    List Char → Except Halt (Group κ)
  | [] => if r.takesValue then .ok ⟨[], r, some []⟩ else .error .usage
  | c :: cs =>
    if r.takesValue then .ok ⟨[], r, some (c :: cs)⟩
    else match named? rules ['-', c] with
      | none => .error .usage
      | some next =>
        if cs.isEmpty then .ok ⟨[r], next, none⟩
        else (joinedGroup rules next cs).map fun g => { g with flags := r :: g.flags }

/-- The options in an argument. -/
def groupOf (rules : List (OptionRule κ)) (r : OptionRule κ) (long : Bool)
    (attached : Option (List Char)) : Except Halt (Group κ) :=
  match attached with
  | none => .ok ⟨[], r, none⟩
  | some cs =>
    if long then if r.takesValue then .ok ⟨[], r, some cs⟩ else .error .usage
    else joinedGroup rules r cs

/-! ## Effects -/

/-- The effect of an option without a value. -/
def flagEffect (r : OptionRule κ) : Except Halt (List (Given κ)) :=
  match r.effect with
  | .flag key => .ok [.flag key]
  | .halt h => .error h
  | .value _ _ => .error .usage

/-- The effects of options without a value, in order. -/
def flagEffects : List (OptionRule κ) → Except Halt (List (Given κ))
  | [] => .ok []
  | r :: rs => do
    let first ← flagEffect r
    let rest ← flagEffects rs
    return first ++ rest

/-- The effect of an option with a value. -/
def valueEffect (r : OptionRule κ) (text : String) : Except Halt (List (Given κ)) :=
  match r.effect with
  | .value key choices =>
    if (choices.map (·.contains text)).getD true then .ok [.value key text] else .error .usage
  | _ => .error .usage

/-- The effects of the options in one argument, given its text as a value and what stands behind it:
the options given, and whether the argument behind is used up as a value. -/
def groupEffects (g : Group κ) (next : Option String) : Except Halt (List (Given κ) × Bool) :=
  match g.last.takesValue, g.attached, next with
  | false, _, _ => (flagEffects (g.flags ++ [g.last])).map (·, false)
  | true, some cs, _ => do
    let flags ← flagEffects g.flags
    if cs = ['-', '-'] then throw .lostValue
    let value ← valueEffect g.last (String.ofList cs)
    return (flags ++ value, false)
  | true, none, some text => do
    let flags ← flagEffects g.flags
    let value ← valueEffect g.last text
    return (flags ++ value, true)
  | true, none, none => .error .usage

/-- The options in some arguments, and whether there is anything besides. -/
structure Reading (κ : Type) where
  given : List (Given κ) := []
  extra : Bool := false

/-- The value that the next argument can be. -/
def operand? : List (Word κ × String) → Option String
  | (.operand, text) :: _ => some text
  | _ => none

/-- Lets the options take effect from left to right.  With `skip` the first argument has been used
up as a value. -/
def readWords (rules : List (OptionRule κ)) (skip : Bool) :
    List (Word κ × String) → Except Halt (Reading κ)
  | [] => .ok {}
  | (word, _) :: rest =>
    if skip then readWords rules false rest
    else match word with
      | .option r long attached => do
        let group ← groupOf rules r long attached
        let (given, used) ← groupEffects group (operand? rest)
        let more ← readWords rules used rest
        return { more with given := given ++ more.given }
      | _ => do
        let more ← readWords rules false rest
        return { more with extra := true }

end

section

variable {κ : Type} [DecidableEq κ]

/-- The key of an option as it was given. -/
def Given.key : Given κ → κ
  | .flag key => key
  | .value key _ => key

/-- Reads arguments: all required options have to be there and nothing but options. -/
def readOptions (rules : List (OptionRule κ)) (required : List κ) (args : List String) :
    Except Halt (List (Given κ)) := do
  let words ← wordsOf rules args
  let reading ← readWords rules false words
  if reading.extra || !required.all (reading.given.map Given.key).contains then throw .usage
  return reading.given

/-- The value that was given last for a key, or nothing. -/
def valueOf (given : List (Given κ)) (key : κ) : String :=
  given.foldl (fun found g => match g with
    | .value k text => if k = key then text else found
    | .flag _ => found) ""

/-- How often a flag was given. -/
def countOf (given : List (Given κ)) (key : κ) : Nat :=
  given.countP fun g => decide (g = .flag key)

end

end FirewallPolicy.CommandLine
