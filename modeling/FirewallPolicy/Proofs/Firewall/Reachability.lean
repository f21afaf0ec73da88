import FirewallPolicy.Proofs.Firewall.Commands
import FirewallPolicy.Proofs.Firewall.Edits
import Mathlib.Logic.Relation
import Mathlib.Tactic.Common

/-!
# What packets can reach while a transcript runs

A transcript may stop between any two of its commands, so every state on the way has to be safe:
what packets can reach is complete, and nothing is taken away while they can reach it.

* `Firewall.Reaches`, `Firewall.LooksInto`: the chains that jumps lead to from some first ones, and
  the sets that rules of such chains look into.
* `InstallsSafely`: a chain or a set that a transcript makes is reached in its final form only.
* `UninstallsSafely`: nothing is emptied or removed while it is reached.
* `installsSafely_of_applyAll`: it is enough that chains are filled before anything links to them.
* `uninstallsSafely_of_applyAll`: it is enough that chains are emptied just before they are removed.
-/

namespace FirewallPolicy

/-! ## Reachability -/

namespace Firewall

/-- Some rule of a chain jumps to another one. -/
def JumpsTo (f : Firewall) (c d : String) : Prop := ∃ rule, f.Has c rule ∧ ruleTarget? rule = some d

/-- Jumps lead to a chain from one of some first chains. -/
def Reaches (f : Firewall) (roots : List String) (c : String) : Prop :=
  ∃ root ∈ roots, Relation.ReflTransGen f.JumpsTo root c

/-- A rule of a chain that jumps lead to looks into a set. -/
def LooksInto (f : Firewall) (roots : List String) (s : String) : Prop :=
  ∃ c rule, f.Reaches roots c ∧ f.Has c rule ∧ matchedSet? rule = some s

/-- The chains in which packets for and from the host begin, and the chains for services, as far as
they are there. -/
def entryChains (f : Firewall) : List String :=
  ["INPUT", "OUTPUT"] ++
    [ChainName.ingress ChainName.services, ChainName.egress ChainName.services].filter fun c =>
      (f.chain? c).isSome

/-- No chain has to be there before a rule may jump to it. -/
def unguarded : String → Bool := fun _ => false

/-- A chain that is not there is none of the chains to begin with, but for the two base chains. -/
lemma notMem_entryChains {f : Firewall} {c : String} (hc : f.chain? c = none) (hin : c ≠ "INPUT")
    (hout : c ≠ "OUTPUT") : c ∉ f.entryChains := by
  intro hmem
  rcases List.mem_append.mp hmem with hmem | hmem
  · rcases List.mem_pair.mp hmem with rfl | rfl
    · exact hin rfl
    · exact hout rfl
  · have hsome := (List.mem_filter.mp hmem).2
    rw [hc] at hsome
    cases hsome

section Reaching

variable {guarded : String → Bool} {f g : Firewall} {roots : List String} {c s : String}

/-- A chain is entered from another one where a path to it begins elsewhere. -/
lemma exists_jump_of_path {root : String} (h : Relation.ReflTransGen f.JumpsTo root c)
    (hroot : root ≠ c) : ∃ d, d ≠ c ∧ f.JumpsTo d c := by
  -- The last chain of the path that differs from `c` is the one that is asked for.
  induction h using Relation.ReflTransGen.head_induction_on with
  | refl => exact absurd rfl hroot
  | @head d e hjump _ ih =>
    by_cases he : e = c
    · exact ⟨d, hroot, he ▸ hjump⟩
    · exact ih he

lemma Reaches.exists_jump (h : f.Reaches roots c) (hc : c ∉ roots) :
    ∃ d, d ≠ c ∧ f.JumpsTo d c := by
  obtain ⟨root, hroot, hpath⟩ := h
  refine exists_jump_of_path hpath ?_
  rintro rfl
  exact hc hroot

lemma Has.anyRule {p : String → Prop} {rule : String} (h : f.Has c rule) (hp : p rule) :
    f.AnyRule p := by
  obtain ⟨rules, hrules, hrule⟩ := h
  exact ⟨c, rules, hrules, rule, hrule, hp⟩

lemma Reaches.refers (h : f.Reaches roots c) (hc : c ∉ roots) : f.Refers c := by
  obtain ⟨d, -, rule, hrule, htarget⟩ := h.exists_jump hc
  exact hrule.anyRule htarget

lemma LooksInto.matches (h : f.LooksInto roots s) : f.Matches s := by
  obtain ⟨c, rule, -, hrule, hset⟩ := h
  exact hrule.anyRule hset

end Reaching

end Firewall

/-! ## Safe transcripts -/

/-- A transcript makes a chain. -/
def Transcript.MakesChain (t : Transcript) (c : String) : Prop :=
  ∃ command ∈ t, command.operation? = some (.newChain c)

/-- A transcript makes a set. -/
def Transcript.MakesSet (t : Transcript) (s : String) : Prop :=
  ∃ command ∈ t, ∃ type, command.operation? = some (.createSet s type)

/-- A transcript leads from one state to another.  Wherever it stops, the chains and sets that it
makes are as they are at the end, or nothing leads to them from some first chains. -/
structure InstallsSafely (roots : List String) (t : Transcript) (f h : Firewall) : Prop where
  completes : f.run Firewall.unguarded t = some h
  chains : ∀ first g, first <+: t → f.run Firewall.unguarded first = some g →
    ∀ c, t.MakesChain c → g.Reaches roots c → g.chain? c = h.chain? c
  sets : ∀ first g, first <+: t → f.run Firewall.unguarded first = some g →
    ∀ s, t.MakesSet s → g.LooksInto roots s → g.set? s = h.set? s

/-- A transcript leads from one state to another.  When it comes to a command that empties or
removes a chain or removes a set, nothing leads there any more. -/
structure UninstallsSafely (roots : List String) (t : Transcript) (f h : Firewall) : Prop where
  completes : f.run Firewall.unguarded t = some h
  chains : ∀ first command rest g, t = first ++ command :: rest →
    f.run Firewall.unguarded first = some g → ∀ c,
    command.operation? = some (.flushChain c) ∨ command.operation? = some (.deleteChain c) →
    ¬ g.Reaches roots c
  sets : ∀ first command rest g, t = first ++ command :: rest →
    f.run Firewall.unguarded first = some g → ∀ s,
    command.operation? = some (.destroySet s) → ¬ g.LooksInto roots s

/-! ## What operations add -/

namespace Firewall

section

variable {guarded : String → Bool} {f g h : Firewall} {p : String → Prop}

/-- A rule that stands anywhere after an operation stood there before, or the operation has added
it. -/
lemma AnyRule.of_apply {op : Operation} (h : f.apply guarded op = some g) (hany : g.AnyRule p) :
    f.AnyRule p ∨ ∃ rule ∈ op.addedRule?, p rule := by
  -- Operations on sets leave all rules in place.
  have hsame : op.chain? = none → f.AnyRule p := fun hop => hany.mono fun d rules hd =>
    ⟨rules, by rwa [← apply_chain?_of_ne h (by rw [hop]; simp)], List.Subset.refl _⟩
  cases op with
  | newChain c =>
    obtain ⟨-, rfl⟩ := apply_newChain_iff.mp h
    exact .inl hany.of_setChain_nil
  | flushChain c =>
    obtain ⟨-, rfl⟩ := apply_flushChain_iff.mp h
    exact .inl hany.of_setChain_nil
  | deleteChain c =>
    obtain ⟨-, -, rfl⟩ := apply_deleteChain_iff.mp h
    exact .inl hany.of_dropChain
  | append c rule =>
    obtain ⟨-, rules, hc, rfl⟩ := apply_append_iff.mp h
    rcases hany.of_setChain with hold | ⟨rule', hrule', hp⟩
    · exact .inl hold
    · rcases List.mem_append.mp hrule' with hmem | hmem
      · exact .inl ⟨c, rules, hc, rule', hmem, hp⟩
      · exact .inr ⟨rule', by rw [List.mem_singleton.mp hmem]; rfl, hp⟩
  | insert c position rule =>
    obtain ⟨-, rules, rules', hc, hinsert, rfl⟩ := apply_insert_iff.mp h
    rcases hany.of_setChain with hold | ⟨rule', hrule', hp⟩
    · exact .inl hold
    · rcases (mem_insertAt?_iff hinsert).mp hrule' with rfl | hmem
      · exact .inr ⟨rule', rfl, hp⟩
      · exact .inl ⟨c, rules, hc, rule', hmem, hp⟩
  | delete c rule =>
    obtain ⟨rules, hc, -, rfl⟩ := apply_delete_iff.mp h
    rcases hany.of_setChain with hold | ⟨rule', hrule', hp⟩
    · exact .inl hold
    · exact .inl ⟨c, rules, hc, rule', List.mem_of_mem_erase hrule', hp⟩
  | createSet s type => exact .inl (hsame rfl)
  | destroySet s => exact .inl (hsame rfl)
  | addToSet s entry => exact .inl (hsame rfl)
  | flushSet s => exact .inl (hsame rfl)

/-- Operations that add no rule of some kind leave a state without such rules. -/
lemma not_anyRule_of_applyAll {ops : List Operation} (h : f.applyAll guarded ops = some g)
    (hf : ¬ f.AnyRule p) (hops : ∀ op ∈ ops, ∀ rule ∈ op.addedRule?, ¬ p rule) :
    ¬ g.AnyRule p := by
  refine applyAll_keeps (motive := fun g' => ¬ g'.AnyRule p) h hf
    fun op hop f' g' hg' hbefore hany => ?_
  rcases hany.of_apply hg' with hold | ⟨rule, hrule, hp⟩
  · exact hbefore hold
  · exact hops op hop rule hrule hp

/-- What is left to do when a list of operations stops in between. -/
lemma applyAll_rest {first rest : List Operation}
    (hall : f.applyAll guarded (first ++ rest) = some h)
    (hfirst : f.applyAll guarded first = some g) : g.applyAll guarded rest = some h := by
  rw [applyAll_append, hfirst] at hall
  exact hall

/-- Where operations stop and some rule is of a kind that their first part does not add, only
operations of the second part are left to do. -/
lemma rest_subset_of_anyRule {pre post first rest : List Operation} (hf : ¬ f.AnyRule p)
    (hpre : ∀ op ∈ pre, ∀ rule ∈ op.addedRule?, ¬ p rule) (hops : pre ++ post = first ++ rest)
    (hfirst : f.applyAll guarded first = some g) (hany : g.AnyRule p) : rest ⊆ post := by
  rcases List.append_eq_append_iff.mp hops with ⟨middle, rfl, rfl⟩ | ⟨middle, rfl, rfl⟩
  · exact List.subset_append_right middle rest
  · refine absurd hany (not_anyRule_of_applyAll hfirst hf fun op hop => ?_)
    exact hpre op (List.mem_append_left _ hop)

end

end Firewall

/-! ## Installing -/

namespace Operation

/-- Operations add jumps to a chain only when they are done with the chain itself. -/
def LinkLast (ops : List Operation) (c : String) : Prop :=
  ∃ pre post, ops = pre ++ post ∧
    (∀ op ∈ pre, ∀ rule ∈ op.addedRule?, ruleTarget? rule ≠ some c) ∧
    ∀ op ∈ post, op.chain? ≠ some c

/-- Operations add rules that look into a set only when they are done with the set itself. -/
def MatchLast (ops : List Operation) (s : String) : Prop :=
  ∃ pre post, ops = pre ++ post ∧
    (∀ op ∈ pre, ∀ rule ∈ op.addedRule?, matchedSet? rule ≠ some s) ∧
    ∀ op ∈ post, op.set? ≠ some s

/-- Chains are emptied just before they are removed, and for nothing else. -/
def FlushToDelete : List Operation → Prop
  | [] => True
  | .flushChain c :: rest => (∃ rest', rest = .deleteChain c :: rest') ∧ FlushToDelete rest
  | _ :: rest => FlushToDelete rest

end Operation

section Transcripts

open Firewall (unguarded)
open Operation (LinkLast MatchLast FlushToDelete)

variable {f g h : Firewall} {roots : List String} {ops : List Operation}

lemma exists_mem_of_operation? (hwf : ∀ op ∈ ops, op.WellFormed) {command : Command}
    (hcommand : command ∈ ops.map Operation.command) {op : Operation}
    (hop : command.operation? = some op) : op ∈ ops := by
  obtain ⟨op', hop', rfl⟩ := List.mem_map.mp hcommand
  rw [Operation.operation?_command (hwf op' hop')] at hop
  cases hop
  exact hop'

lemma Transcript.makesChain_iff (hwf : ∀ op ∈ ops, op.WellFormed) {c : String} :
    Transcript.MakesChain (ops.map Operation.command) c ↔ .newChain c ∈ ops := by
  constructor
  · rintro ⟨command, hcommand, hop⟩
    exact exists_mem_of_operation? hwf hcommand hop
  · intro hmem
    exact ⟨_, List.mem_map_of_mem hmem, Operation.operation?_command (hwf _ hmem)⟩

lemma Transcript.makesSet_iff (hwf : ∀ op ∈ ops, op.WellFormed) {s : String} :
    Transcript.MakesSet (ops.map Operation.command) s ↔ ∃ type, .createSet s type ∈ ops := by
  constructor
  · rintro ⟨command, hcommand, type, hop⟩
    exact ⟨type, exists_mem_of_operation? hwf hcommand hop⟩
  · rintro ⟨type, hmem⟩
    exact ⟨_, List.mem_map_of_mem hmem, type, Operation.operation?_command (hwf _ hmem)⟩

/-- Installing is safe if nothing led to the new chains and sets before, and each of them is
complete before anything leads to it. -/
theorem installsSafely_of_applyAll (hwf : ∀ op ∈ ops, op.WellFormed)
    (hall : f.applyAll unguarded ops = some h)
    (hchains : ∀ c, .newChain c ∈ ops → c ∉ roots ∧ ¬ f.Refers c ∧ LinkLast ops c)
    (hsets : ∀ s type, .createSet s type ∈ ops → ¬ f.Matches s ∧ MatchLast ops s) :
    InstallsSafely roots (ops.map Operation.command) f h := by
  -- A transcript that stops has done the first of its operations.
  have hstop : ∀ first g, first <+: ops.map Operation.command → f.run unguarded first = some g →
      ∃ done rest, ops = done ++ rest ∧ f.applyAll unguarded done = some g := by
    rintro first g ⟨last, hlast⟩ hg
    obtain ⟨done, rest, rfl, rfl, -⟩ := List.map_eq_append_iff.mp hlast.symm
    rw [Firewall.run_operations fun op hop => hwf op (List.mem_append_left _ hop)] at hg
    exact ⟨done, rest, rfl, hg⟩
  constructor
  case completes => rw [Firewall.run_operations hwf, hall]
  case chains =>
    intro first g hfirst hg c hmakes hreaches
    obtain ⟨hroot, hrefers, pre, post, hsplit, hpre, hpost⟩ :=
      hchains c ((Transcript.makesChain_iff hwf).mp hmakes)
    obtain ⟨done, rest, hops, hdone⟩ := hstop first g hfirst hg
    have hrest : rest ⊆ post := Firewall.rest_subset_of_anyRule hrefers hpre (hsplit ▸ hops) hdone
      (hreaches.refers hroot)
    rw [hops] at hall
    exact (Firewall.applyAll_chain?_of_forall_ne (Firewall.applyAll_rest hall hdone)
      fun op hop => hpost op (hrest hop)).symm
  case sets =>
    intro first g hfirst hg s hmakes hlooks
    obtain ⟨type, hmem⟩ := (Transcript.makesSet_iff hwf).mp hmakes
    obtain ⟨hmatches, pre, post, hsplit, hpre, hpost⟩ := hsets s type hmem
    obtain ⟨done, rest, hops, hdone⟩ := hstop first g hfirst hg
    have hrest : rest ⊆ post := Firewall.rest_subset_of_anyRule hmatches hpre (hsplit ▸ hops) hdone
      hlooks.matches
    rw [hops] at hall
    exact (Firewall.applyAll_set?_of_forall_ne (Firewall.applyAll_rest hall hdone)
      fun op hop => hpost op (hrest hop)).symm

/-! ## Uninstalling -/

/-- Operations that flush nothing may stand in front. -/
lemma Operation.flushToDelete_append {first : List Operation}
    (hfirst : ∀ op ∈ first, ∀ c, op ≠ .flushChain c) (hops : FlushToDelete ops) :
    FlushToDelete (first ++ ops) := by
  induction first with
  | nil => exact hops
  | cons op first ih =>
    rw [List.forall_mem_cons] at hfirst
    have hrest := ih hfirst.2
    cases op with
    | flushChain c => exact absurd rfl (hfirst.1 c)
    | _ => exact hrest

lemma Operation.flushToDelete_teardown (c : String) (hops : FlushToDelete ops) :
    FlushToDelete (Operation.teardown c ++ ops) := ⟨⟨ops, rfl⟩, hops⟩

/-- What follows where a chain is emptied. -/
lemma Operation.FlushToDelete.exists_delete {first rest : List Operation} {c : String}
    (h : FlushToDelete (first ++ .flushChain c :: rest)) :
    ∃ rest', rest = .deleteChain c :: rest' := by
  induction first with
  | nil => exact h.1
  | cons op first ih =>
    cases op with
    | flushChain d => exact ih h.2
    | _ => exact ih h

/-- A chain that can be emptied and then removed was not reached from anywhere else. -/
lemma Firewall.not_reaches_of_teardown {g' g'' : Firewall} {c : String} (hroot : c ∉ roots)
    (hflush : g.apply unguarded (.flushChain c) = some g')
    (hdelete : g'.apply unguarded (.deleteChain c) = some g'') : ¬ g.Reaches roots c := by
  intro hreaches
  obtain ⟨d, hd, rule, ⟨rules, hrules, hrule⟩, htarget⟩ := hreaches.exists_jump hroot
  -- The jump from another chain is still there when the chain is empty.
  have hkept : g'.chain? d = some rules := by
    rw [Firewall.apply_chain?_of_ne hflush (by simpa [Operation.chain?] using Ne.symm hd), hrules]
  exact (Firewall.apply_deleteChain_iff.mp hdelete).2.1 ⟨d, rules, hkept, rule, hrule, htarget⟩

/-- Uninstalling is safe if it completes and empties chains only to remove them at once. -/
theorem uninstallsSafely_of_applyAll (hwf : ∀ op ∈ ops, op.WellFormed)
    (hall : f.applyAll unguarded ops = some h) (hflush : FlushToDelete ops)
    (hroots : ∀ c, .deleteChain c ∈ ops → c ∉ roots) :
    UninstallsSafely roots (ops.map Operation.command) f h := by
  -- A command that comes next is that of the next operation, which the rest of the run begins with.
  have hnext : ∀ first command rest g, ops.map Operation.command = first ++ command :: rest →
      f.run unguarded first = some g → ∀ op, command.operation? = some op →
      ∃ done later, ops = done ++ op :: later ∧ g.applyAll unguarded (op :: later) = some h := by
    intro first command rest g hsplit hg op hop
    obtain ⟨done, _, rfl, rfl, htail⟩ := List.map_eq_append_iff.mp hsplit
    obtain ⟨op', later, rfl, rfl, rfl⟩ := List.map_eq_cons_iff.mp htail
    rw [Operation.operation?_command (hwf op' (by simp))] at hop
    cases hop
    rw [Firewall.run_operations fun op hop => hwf op (List.mem_append_left _ hop)] at hg
    exact ⟨done, later, rfl, Firewall.applyAll_rest hall hg⟩
  constructor
  case completes => rw [Firewall.run_operations hwf, hall]
  case chains =>
    intro first command rest g hsplit hg c hop
    rcases hop with hop | hop
    · obtain ⟨done, later, hops, hrun⟩ := hnext first command rest g hsplit hg _ hop
      obtain ⟨later', rfl⟩ := (hops ▸ hflush).exists_delete
      obtain ⟨g', hg', hlater⟩ := Firewall.applyAll_cons_eq_some_iff.mp hrun
      obtain ⟨g'', hg'', -⟩ := Firewall.applyAll_cons_eq_some_iff.mp hlater
      exact Firewall.not_reaches_of_teardown (hroots c (by simp [hops])) hg' hg''
    · obtain ⟨done, later, hops, hrun⟩ := hnext first command rest g hsplit hg _ hop
      obtain ⟨g', hg', -⟩ := Firewall.applyAll_cons_eq_some_iff.mp hrun
      intro hreaches
      exact (Firewall.apply_deleteChain_iff.mp hg').2.1
        (hreaches.refers (hroots c (by simp [hops])))
  case sets =>
    intro first command rest g hsplit hg s hop
    obtain ⟨done, later, -, hrun⟩ := hnext first command rest g hsplit hg _ hop
    obtain ⟨g', hg', -⟩ := Firewall.applyAll_cons_eq_some_iff.mp hrun
    exact fun hlooks => (Firewall.apply_destroySet_iff.mp hg').2.1 hlooks.matches

end Transcripts

end FirewallPolicy
