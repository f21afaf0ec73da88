import FirewallPolicy.Proofs.Firewall.State
import Mathlib.Data.Nat.Notation

/-!
# Running transcripts

The tools are called with texts.  `Command.operation?` reads off a command what it asks for, and
`Firewall.run` runs a transcript on a state, command by command.

`Operation.operation?_command` is the round trip: the command of a well-formed operation is read as
that operation.  With `Firewall.run_operations` a transcript of such commands is run by
`Firewall.applyAll`.
-/

namespace FirewallPolicy

/-! ## Reading commands -/

/-- A position in a chain, which is written in decimal. -/
def position? (cs : List Char) : Option Int :=
  if cs ≠ [] ∧ cs.all Char.isDigit then some (Nat.ofDigitChars 10 cs 0 : Nat) else none

/-- What the arguments for the chains ask for: a word for the kind of change, the chain, and where
it needs one, a position or a rule. -/
def chainOperation? (arguments : List Char) : Option Operation := do
  let (verb, rest) ← Text.cutAt? ' ' arguments
  if verb = ['-', 'N'] then return .newChain (String.ofList rest)
  else if verb = ['-', 'F'] then return .flushChain (String.ofList rest)
  else if verb = ['-', 'X'] then return .deleteChain (String.ofList rest)
  else
    let (chain, rule) ← Text.cutAt? ' ' rest
    if verb = ['-', 'A'] then return .append (String.ofList chain) (String.ofList rule)
    else if verb = ['-', 'D'] then return .delete (String.ofList chain) (String.ofList rule)
    else if verb = ['-', 'I'] then
      let (position, rule) ← Text.cutAt? ' ' rule
      let position ← position? position
      return .insert (String.ofList chain) position (String.ofList rule)
    else none

/-- What the arguments for the sets ask for. -/
def setOperation? (arguments : List Char) : Option Operation := do
  let (first, rest) ← Text.cutAt? ' ' arguments
  if first = ['f', 'l', 'u', 's', 'h'] then return .flushSet (String.ofList rest)
  else if first = ['-', '!'] then
    let (verb, rest) ← Text.cutAt? ' ' rest
    if verb = ['d', 'e', 's', 't', 'r', 'o', 'y'] then return .destroySet (String.ofList rest)
    else
      let (set, last) ← Text.cutAt? ' ' rest
      if verb = ['c', 'r', 'e', 'a', 't', 'e'] then
        return .createSet (String.ofList set) (String.ofList last)
      else if verb = ['a', 'd', 'd'] then
        return .addToSet (String.ofList set) (String.ofList last)
      else none
  else none

/-- What a command asks for. -/
def Command.operation? (c : Command) : Option Operation :=
  match c.kind with
  | .iptables4 => chainOperation? c.arguments.toList
  | .ipset => setOperation? c.arguments.toList

/-! ## The round trip -/

/-- The words of an operation are in their places: the names that something follows have no blank,
a rule is not empty, and a position is no negative number. -/
def Operation.WellFormed : Operation → Prop
  | .append c rule => ' ' ∉ c.toList ∧ rule ≠ ""
  | .delete c rule => ' ' ∉ c.toList ∧ rule ≠ ""
  | .insert c position rule => ' ' ∉ c.toList ∧ 0 ≤ position ∧ rule ≠ ""
  | .createSet s _ => ' ' ∉ s.toList
  | .addToSet s _ => ' ' ∉ s.toList
  | _ => True

/-- Two parts that are not empty stand with a blank between them. -/
lemma joinParts_pair {first second : String} (h₁ : first ≠ "") (h₂ : second ≠ "") :
    joinParts [first, second] = first ++ " " ++ second := by
  have hparts : [first, second].filter (!·.isEmpty) = [first, second] := by
    simp [h₁, h₂]
  rw [joinParts, hparts, String.intercalate_cons_cons, String.intercalate_singleton]

/-- A position is read as it is written. -/
lemma position?_toDigits (n : ℕ) : position? (Nat.toDigits 10 n) = some (n : Int) := by
  have hdigits : (Nat.toDigits 10 n).all Char.isDigit := by
    rw [List.all_eq_true]
    exact fun c hc => Nat.isDigit_of_mem_toDigits (by decide) (by decide) hc
  rw [position?, if_pos ⟨Nat.toDigits_ne_nil, hdigits⟩, Nat.ofDigitChars_ten_toDigits]

/-- A written position has no blank. -/
lemma blank_notMem_toDigits (n : ℕ) : ' ' ∉ Nat.toDigits 10 n := by
  intro h
  have hdigit : ' '.isDigit = true := Nat.isDigit_of_mem_toDigits (by decide) (by decide) h
  exact absurd hdigit (by decide)

/-- The command of a well-formed operation asks for that operation. -/
theorem Operation.operation?_command {op : Operation} (h : op.WellFormed) :
    op.command.operation? = some op := by
  -- A name at the end of the arguments may hold anything; one that something follows is cut at its
  -- blank, so there `h` is needed.
  cases op with
  | newChain c =>
    simp [command, kind, arguments, Command.operation?, chainOperation?, Text.cutAt?]
  | flushChain c =>
    simp [command, kind, arguments, Command.operation?, chainOperation?, Text.cutAt?]
  | deleteChain c =>
    simp [command, kind, arguments, Command.operation?, chainOperation?, Text.cutAt?]
  | append c rule =>
    obtain ⟨hc, hrule⟩ := h
    have hargs : (append c rule).arguments = "-A " ++ c ++ " " ++ rule :=
      joinParts_pair (by simp) hrule
    simp [command, kind, hargs, Command.operation?, chainOperation?, Text.cutAt?,
      Text.cutAt?_append hc]
  | insert c position rule =>
    obtain ⟨hc, hpos, hrule⟩ := h
    obtain ⟨n, rfl⟩ := Int.eq_ofNat_of_zero_le hpos
    have hargs : (insert c n rule).arguments = "-I " ++ c ++ " " ++ n.repr ++ " " ++ rule :=
      joinParts_pair (by simp) hrule
    simp [command, kind, hargs, Command.operation?, chainOperation?, Text.cutAt?,
      Text.cutAt?_append hc, Text.cutAt?_append (blank_notMem_toDigits n), position?_toDigits]
  | delete c rule =>
    obtain ⟨hc, hrule⟩ := h
    have hargs : (delete c rule).arguments = "-D " ++ c ++ " " ++ rule :=
      joinParts_pair (by simp) hrule
    simp [command, kind, hargs, Command.operation?, chainOperation?, Text.cutAt?,
      Text.cutAt?_append hc]
  | createSet s type =>
    simp [command, kind, arguments, Command.operation?, setOperation?, Text.cutAt?,
      Text.cutAt?_append h]
  | destroySet s =>
    simp [command, kind, arguments, Command.operation?, setOperation?, Text.cutAt?]
  | addToSet s entry =>
    simp [command, kind, arguments, Command.operation?, setOperation?, Text.cutAt?,
      Text.cutAt?_append h]
  | flushSet s =>
    simp [command, kind, arguments, Command.operation?, setOperation?, Text.cutAt?]

/-! ## Running -/

namespace Firewall

variable {guarded : String → Bool} {f g : Firewall}

/-- What a command makes of a state; a command that no tool understands fails. -/
def execute (guarded : String → Bool) (f : Firewall) (c : Command) : Option Firewall :=
  c.operation?.bind (f.apply guarded)

/-- What a transcript makes of a state, if none of its commands fails. -/
def run (guarded : String → Bool) (f : Firewall) (transcript : Transcript) : Option Firewall :=
  transcript.foldlM (execute guarded) f

/-- The commands of well-formed operations do what the operations do. -/
theorem run_operations {ops : List Operation} (h : ∀ op ∈ ops, op.WellFormed) :
    f.run guarded (ops.map Operation.command) = f.applyAll guarded ops := by
  induction ops generalizing f with
  | nil => rfl
  | cons op ops ih =>
    have hop : op.command.operation? = some op :=
      Operation.operation?_command (h op List.mem_cons_self)
    rw [List.map_cons, run, List.foldlM_cons, execute, hop, Option.bind_some, applyAll_cons]
    exact congrArg _ (funext fun g => ih fun op' hmem => h op' (List.mem_cons_of_mem _ hmem))

end Firewall

end FirewallPolicy
