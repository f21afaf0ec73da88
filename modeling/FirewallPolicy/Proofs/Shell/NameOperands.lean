import FirewallPolicy.Proofs.Policy.NameLengths
import FirewallPolicy.Proofs.Shell.AddressOperands

/-!
# The names among the arguments

The tool for rules takes the values of some options for names of chains or of links; which ones, is
read off the commands as they are called.

* `Command.chainOperands`, `Command.linkOperands`, `Command.jumpTargets`: these values.
* `NamesFit`: the kernel takes the names among some words.
* `Condition.Fits`, `Rule.Fits`, `Operation.Fits`: so it is with the words of a condition, of a rule
  and of a command, which are safe besides, with a lemma for each kind of operation.
* `Operation.Fits.operands`: what it means for the operands.
-/

namespace FirewallPolicy

open FirewallPolicy.ChainName
open Operation (appendRule insertRule deleteRule teardown)
open Shell (IsSafe isSafe_toString)

/-! ## Operands -/

/-- The options that make, empty and remove a chain, and those that put a rule into it or take one
out. -/
def chainOptions : List String := ["-N", "-F", "-X", "-A", "-I", "-D"]

/-- The options for the link by which a packet comes in or leaves. -/
def linkOptions : List String := ["--in-interface", "--out-interface", "-i"]

/-- The values that a command has for some options. -/
def Command.valuesOf (c : Command) (options : List String) : List String :=
  ((optionsOf c.words).filter (·.1 ∈ options)).map (·.2)

/-- The chains that a command makes, changes or removes. -/
def Command.chainOperands (c : Command) : List String := c.valuesOf chainOptions

/-- The links that a command is about. -/
def Command.linkOperands (c : Command) : List String := c.valuesOf linkOptions

/-- Where the rule of a command sends its packets. -/
def Command.jumpTargets (c : Command) : List String := c.valuesOf ["-j"]

lemma Command.mem_valuesOf {c : Command} {options : List String} {value : String}
    (h : value ∈ c.valuesOf options) : ∃ option ∈ options, (option, value) ∈ optionsOf c.words := by
  obtain ⟨⟨option, value⟩, hmem, rfl⟩ := List.mem_map.mp h
  rw [List.mem_filter, decide_eq_true_iff] at hmem
  exact ⟨option, hmem.2, hmem.1⟩

example : (Command.mk .iptables4 "-A INPUT --in-interface -N -j DROP").chainOperands = ["INPUT"] := by
  cbv

/-! ## Options -/

/-- The kernel takes the value of an option, if it is a name.  The actions of a policy are not
looked into. -/
structure OptionFits (actions : List String) (option value : String) : Prop where
  chain : option ∈ chainOptions → IsChainName value
  link : option ∈ linkOptions → IsLinkName value
  jump : option = "-j" → IsChainName value ∨ value ∈ actions

/-- The kernel takes the names among some words. -/
def NamesFit (actions words : List String) : Prop :=
  ∀ o ∈ optionsOf words, OptionFits actions o.1 o.2

section Options

variable {actions words rest : List String} {option value : String}

lemma OptionFits.of_chain (hoption : option ∈ chainOptions) (hvalue : IsChainName value) :
    OptionFits actions option value := by
  refine ⟨fun _ => hvalue, fun hlink => ?_, fun _ => .inl hvalue⟩
  have hapart : ∀ o ∈ chainOptions, o ∉ linkOptions := by decide
  exact absurd hlink (hapart option hoption)

lemma OptionFits.of_link (hoption : option ∈ linkOptions) (hvalue : IsLinkName value) :
    OptionFits actions option value := by
  have hapart : ∀ o ∈ linkOptions, o ∉ chainOptions ∧ o ≠ "-j" := by decide
  exact ⟨fun hchain => absurd hchain (hapart option hoption).1, fun _ => hvalue,
    fun hjump => absurd hjump (hapart option hoption).2⟩

lemma OptionFits.of_jump (hvalue : IsChainName value ∨ value ∈ actions) :
    OptionFits actions "-j" value :=
  ⟨fun h => absurd h (by decide), fun h => absurd h (by decide), fun _ => hvalue⟩

/-- Other options have no names for values. -/
lemma OptionFits.of_other (hother : option ∉ "-j" :: chainOptions ++ linkOptions) :
    OptionFits actions option value := by
  rw [List.mem_append, List.mem_cons, not_or, not_or] at hother
  exact ⟨fun h => absurd h hother.1.2, fun h => absurd h hother.2, fun h => absurd h hother.1.1⟩

lemma namesFit_nil : NamesFit actions [] := nofun

/-- The last word has no value. -/
lemma namesFit_singleton : NamesFit actions [option] := nofun

lemma NamesFit.cons_option (hdash : option.toList.head? = some '-')
    (hfits : OptionFits actions option value) (hrest : NamesFit actions rest) :
    NamesFit actions (option :: value :: rest) := by
  rw [NamesFit, optionsOf, if_pos hdash, List.forall_mem_cons]
  exact ⟨hfits, hrest⟩

/-- Words that are no options are passed over. -/
lemma NamesFit.cons_word (hdash : option.toList.head? ≠ some '-') (hrest : NamesFit actions rest) :
    NamesFit actions (option :: rest) := by
  cases rest with
  | nil => exact namesFit_singleton
  | cons value rest =>
    rw [NamesFit, optionsOf, if_neg hdash]
    exact hrest

end Options

/-! ## Rules -/

/-- The kernel takes the link that a condition is about, and its words are safe otherwise. -/
def Condition.Fits : Condition → Prop
  | .link name | .inInterface name | .notInInterface name | .outInterface name => IsLinkName name
  | .inSet set side => IsSafe set ∧ IsSafe side ∧ side.toList.head? ≠ some '-'
  | c => ∀ v ∈ c.values, IsSafe v

section Rules

variable {actions : List String} {r : Rule} {conditions : List Condition} {action : String}

lemma Condition.Fits.isSafe {c : Condition} (h : c.Fits) : ∀ v ∈ c.values, IsSafe v := by
  cases c with
  | link name | inInterface name | notInInterface name | outInterface name =>
    exact List.forall_mem_singleton.mpr (.of_isWord (IsToken.isWord h))
  | inSet set side => simp [values, h.1, h.2.1]
  | _ => exact h

/-- The words of a condition leave the words behind them as they are. -/
lemma Condition.Fits.namesFit {c : Condition} (h : c.Fits) {tail : List String}
    (htail : NamesFit actions tail) : NamesFit actions (c.words ++ tail) := by
  cases c with
  | link name | inInterface name | outInterface name =>
    exact .cons_option (by decide) (.of_link (by decide) h) htail
  | notInInterface name =>
    exact .cons_word (by decide) (.cons_option (by decide) (.of_link (by decide) h) htail)
  | state states | owner user =>
    exact .cons_option (by decide) (.of_other (by decide)) <|
      .cons_option (by decide) (.of_other (by decide)) htail
  | inSet set side =>
    exact .cons_option (by decide) (.of_other (by decide)) <|
      .cons_option (by decide) (.of_other (by decide)) (.cons_word h.2.2 htail)
  | _ => exact .cons_option (by decide) (.of_other (by decide)) htail

/-- So do the words of conditions. -/
lemma namesFit_conditions (h : ∀ c ∈ conditions, c.Fits) {tail : List String}
    (htail : NamesFit actions tail) :
    NamesFit actions (conditions.flatMap Condition.words ++ tail) := by
  induction conditions with
  | nil => exact htail
  | cons c conditions ih =>
    rw [List.forall_mem_cons] at h
    rw [List.flatMap_cons, List.append_assoc]
    exact h.1.namesFit (ih h.2)

/-- The words of a rule are safe, and the kernel takes the names among them. -/
structure Rule.Fits (actions : List String) (r : Rule) : Prop where
  isSafe : r.IsSafe
  namesFit : NamesFit actions r.words

/-- A rule whose action is a single word fits with its conditions. -/
lemma Rule.fits (h : ∀ c ∈ conditions, c.Fits) (hsafe : Shell.IsSafe action)
    (haction : IsChainName action ∨ action ∈ actions) :
    (Rule.mk conditions action).Fits actions := by
  refine ⟨Rule.isSafe (fun c hc => (h c hc).isSafe) hsafe, ?_⟩
  rw [Rule.words, actionWords_of_isSafe hsafe]
  exact namesFit_conditions h (.cons_option (by decide) (.of_jump haction) namesFit_nil)

/-- So does a rule that sends packets elsewhere. -/
lemma Rule.fits_endpoint {address : String} {port : Nat} (h : ∀ c ∈ conditions, c.Fits)
    (haddress : Shell.IsSafe address) :
    (Rule.mk conditions ("DNAT --to " ++ address ++ ":" ++ toString port)).Fits actions := by
  refine ⟨Rule.isSafe_endpoint (fun c hc => (h c hc).isSafe) haddress, ?_⟩
  rw [Rule.words, actionWords_endpoint haddress]
  refine namesFit_conditions h (.cons_option (by decide) (.of_jump (.inl (by decide))) ?_)
  exact .cons_option (by decide) (.of_other (by decide)) namesFit_nil

/-- A rule that jumps to a chain fits with the chain. -/
lemma Rule.fits_jump {c : String} (hc : IsChainName c) : (Rule.jump [] c).Fits actions :=
  Rule.fits nofun (.of_isWord hc.isWord) (.inl hc)

lemma Rule.fits_leave : Rule.leave.Fits actions := Rule.fits_jump (by decide)

end Rules

/-! ## Operations -/

/-- An operation joins safe words, and the kernel takes the names among them. -/
def Operation.Fits (actions : List String) (op : Operation) : Prop :=
  ∃ words, op.Joins words ∧ (∀ w ∈ words, Shell.IsSafe w) ∧ NamesFit actions words

namespace Operation

variable {actions : List String} {c s : String} {r : Rule}

lemma Fits.isSafe {op : Operation} (h : op.Fits actions) : op.IsSafe := by
  obtain ⟨words, hjoins, hsafe, -⟩ := h
  exact ⟨words, hjoins, hsafe⟩

/-- What it means for the operands of the command. -/
lemma Fits.operands {op : Operation} (h : op.Fits actions) :
    (∀ chain ∈ op.command.chainOperands, IsChainName chain) ∧
    (∀ link ∈ op.command.linkOperands, IsLinkName link) ∧
    ∀ target ∈ op.command.jumpTargets, IsChainName target ∨ target ∈ actions := by
  obtain ⟨words, hjoins, hsafe, hfits⟩ := h
  -- Safe words are set apart as they were joined.
  have hwords : op.command.words = words := by rw [hjoins.words_eq, flatMap_actionWords hsafe]
  rw [← hwords] at hfits
  refine ⟨fun chain hchain => ?_, fun link hlink => ?_, fun target htarget => ?_⟩
  · obtain ⟨option, hoption, hmem⟩ := Command.mem_valuesOf hchain
    exact (hfits _ hmem).chain hoption
  · obtain ⟨option, hoption, hmem⟩ := Command.mem_valuesOf hlink
    exact (hfits _ hmem).link hoption
  · obtain ⟨option, hoption, hmem⟩ := Command.mem_valuesOf htarget
    exact (hfits _ hmem).jump (List.mem_singleton.mp hoption)

section Chains

variable (hc : IsChainName c)

include hc

/-- An operation on a chain fits with what stands behind the chain. -/
lemma fits_of_chain {op : Operation} {option : String} {rest : List String}
    (hjoins : op.Joins (option :: c :: rest)) (hoption : option ∈ chainOptions)
    (hsafe : ∀ w ∈ rest, Shell.IsSafe w) (hrest : NamesFit actions rest) : op.Fits actions := by
  have hoptions : ∀ o ∈ chainOptions, o.toList.head? = some '-' ∧ Shell.IsSafe o := by decide
  obtain ⟨hdash, hword⟩ := hoptions option hoption
  refine ⟨_, hjoins, ?_, .cons_option hdash (.of_chain hoption hc) hrest⟩
  rw [List.forall_mem_cons, List.forall_mem_cons]
  exact ⟨hword, .of_isWord hc.isWord, hsafe⟩

lemma fits_newChain : (newChain c).Fits actions :=
  fits_of_chain hc (.newChain c) (by decide) (by simp) namesFit_nil

lemma fits_teardown : ∀ op ∈ teardown c, op.Fits actions := by
  simp only [teardown, List.forall_mem_cons]
  exact ⟨fits_of_chain hc (.flushChain c) (by decide) (by simp) namesFit_nil,
    fits_of_chain hc (.deleteChain c) (by decide) (by simp) namesFit_nil, by simp⟩

lemma fits_appendRule (hr : r.Fits actions) : (appendRule c r).Fits actions :=
  fits_of_chain hc (.append c r) (by decide) hr.isSafe.words hr.namesFit

lemma fits_insertRule (position : Nat) (hr : r.Fits actions) :
    (insertRule c position r).Fits actions :=
  fits_of_chain hc (.insert c position r) (by decide)
    (List.forall_mem_cons.mpr ⟨isSafe_toString position, hr.isSafe.words⟩)
    (hr.namesFit.cons_word (toString_head?_ne position))

lemma fits_deleteRule (hr : r.Fits actions) : (deleteRule c r).Fits actions :=
  fits_of_chain hc (.delete c r) (by decide) hr.isSafe.words hr.namesFit

end Chains

section Sets

variable (hs : Shell.IsSafe s)

include hs

/-- The tool for sets is given no chains and no links. -/
lemma fits_of_set {op : Operation} {command : String} {rest : List String}
    (hjoins : op.Joins ("-!" :: command :: s :: rest)) (hcommand : Shell.IsSafe command)
    (hdash : s.toList.head? ≠ some '-') (hsafe : ∀ w ∈ rest, Shell.IsSafe w)
    (hrest : NamesFit actions rest) : op.Fits actions := by
  refine ⟨_, hjoins, ?_, .cons_option (by decide) (.of_other (by decide)) (hrest.cons_word hdash)⟩
  simp only [List.forall_mem_cons]
  exact ⟨by decide, hcommand, hs, hsafe⟩

lemma fits_createSet {type : String} (htype : Shell.IsSafe type)
    (hdash : s.toList.head? ≠ some '-') : (createSet s type).Fits actions :=
  fits_of_set hs (.createSet s type) (by decide) hdash (by simpa using htype) namesFit_singleton

lemma fits_destroySet (hdash : s.toList.head? ≠ some '-') : (destroySet s).Fits actions :=
  fits_of_set hs (.destroySet s) (by decide) hdash (by simp) namesFit_nil

lemma fits_addToSet {entry : String} (hentry : Shell.IsSafe entry)
    (hdash : s.toList.head? ≠ some '-') : (addToSet s entry).Fits actions :=
  fits_of_set hs (.addToSet s entry) (by decide) hdash (by simpa using hentry) namesFit_singleton

lemma fits_flushSet : (flushSet s).Fits actions :=
  ⟨_, .flushSet s, by simp +decide [hs], .cons_word (by decide) namesFit_singleton⟩

end Sets

end Operation

end FirewallPolicy
