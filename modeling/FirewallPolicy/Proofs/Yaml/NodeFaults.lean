import FirewallPolicy.Proofs.Yaml.LexicalFaults
import FirewallPolicy.Yaml.Node
import Mathlib.Tactic.Common

/-!
# Faults of nodes

* `ReadsIn`: a reader of nodes that only goes forward in some tokens, and that blames their order,
  their names or a fault among them.
* `Parse.nodesReadIn`: the readers of nodes are of this kind, by induction on the number of steps.
* `codePoint_of_graphOf`: tokens that make no nodes are no YAML, or there is an escape at the end of
  tokens for a number that is no character.
-/

namespace FirewallPolicy.Yaml

/-- What reading the nodes of some tokens may be blamed on: their order, their names, or a fault
that is among them. -/
def IsBlamed (ts : List Token) (e : YamlFault) : Prop :=
  e = .arrangement ∨ e = .anchor ∨ Token.bad e ∈ ts

/-- A reader that only goes forward in some tokens, and that blames nothing else. -/
def ReadsIn {α : Type} (ts : List Token) (p : Parse α) : Prop :=
  ∀ st : TokenStream, st.tokens ⊆ ts →
    match p.run st with
    | .ok (_, st') => st'.tokens ⊆ ts
    | .error e => IsBlamed ts e

namespace ReadsIn

variable {α β : Type} {ts : List Token} {p q : Parse α} {f : α → Parse β}

lemma pure (a : α) : ReadsIn ts (pure a) := fun _ h => h

lemma throw {e : YamlFault} (he : IsBlamed ts e) : ReadsIn ts (throw e : Parse α) := fun _ _ => he

lemma get : ReadsIn ts get := fun _ h => h

lemma modify {g : TokenStream → TokenStream} (hg : ∀ st, (g st).tokens ⊆ st.tokens) :
    ReadsIn ts (modify g) := fun st h => List.Subset.trans (hg st) h

lemma bind (hp : ReadsIn ts p) (hf : ∀ a, ReadsIn ts (f a)) : ReadsIn ts (p >>= f) := by
  intro st hst
  have hrun := hp st hst
  rw [StateT.run_bind]
  match h : p.run st with
  | .ok (a, st') =>
    rw [h] at hrun
    exact hf a st' hrun
  | .error e =>
    rw [h] at hrun
    exact hrun

lemma throw_bind {e : YamlFault} (he : IsBlamed ts e) :
    ReadsIn ts ((MonadExcept.throw e : Parse α) >>= f) := fun _ _ => he

lemma ite {c : Prop} [Decidable c] (hp : ReadsIn ts p) (hq : ReadsIn ts q) :
    ReadsIn ts (if c then p else q) := by
  split_ifs <;> assumption

end ReadsIn

namespace Parse

variable {ts : List Token} {α β : Type}

lemma isBlamed_arrangement : IsBlamed ts .arrangement := .inl rfl

lemma isBlamed_anchor : IsBlamed ts .anchor := .inr (.inl rfl)

lemma readsIn_peek : ReadsIn ts peek := by
  intro st hst
  cases htokens : st.tokens with
  | nil =>
    have hrun : peek.run st = .error .arrangement := by
      simp only [peek, StateT.run_bind, StateT.run_get, pure_bind, htokens]
      rfl
    rw [hrun]
    exact isBlamed_arrangement
  | cons t rest =>
    have hrun (hgood : ∀ e, t ≠ .bad e) : peek.run st = .ok (t, st) := by
      simp only [peek, StateT.run_bind, StateT.run_get, pure_bind, htokens]
      rfl
    cases t with
    | bad e =>
      have hbad : peek.run st = .error e := by
        simp only [peek, StateT.run_bind, StateT.run_get, pure_bind, htokens]
        rfl
      rw [hbad]
      exact .inr (.inr (hst (htokens ▸ .head _)))
    | _ =>
      rw [hrun nofun]
      exact hst

lemma readsIn_skip : ReadsIn ts skip := .modify fun st => (List.tail_sublist st.tokens).subset

lemma readsIn_fail : ReadsIn ts (fail : Parse α) :=
  .bind readsIn_peek fun _ => .throw isBlamed_arrangement

lemma readsIn_expect (t : Token) : ReadsIn ts (expect t) :=
  .bind readsIn_peek fun _ => .ite readsIn_skip readsIn_fail

lemma readsIn_isNext (options : List Token) : ReadsIn ts (isNext options) :=
  .bind readsIn_peek fun _ => .pure _

lemma readsIn_store (anchor : Option String) (n : Node) : ReadsIn ts (store anchor n) :=
  fun _ h => h

lemma readsIn_fill (id : NodeId) (n : Node) : ReadsIn ts (fill id n) := fun _ h => h

lemma readsIn_emptyScalar : ReadsIn ts emptyScalar := readsIn_store none _

lemma readsIn_named (a : String) : ReadsIn ts (named a) := by
  refine .bind .get fun _ => ?_
  split
  · exact .pure _
  · exact .throw isBlamed_anchor

lemma readsIn_checkNew (anchor : Option String) : ReadsIn ts (checkNew anchor) := by
  unfold checkNew
  split
  · exact .bind .get fun _ => .ite (.throw isBlamed_anchor) (.pure _)
  · exact .pure _

lemma readsIn_sequence {items : Parse (List NodeId)} (h : ReadsIn ts items)
    (anchor own : Option String) : ReadsIn ts (sequence anchor own items) :=
  .bind (readsIn_store _ _) fun _ => .bind h fun _ => readsIn_fill _ _

lemma readsIn_mapping {entries : Parse (List (NodeId × NodeId))} (h : ReadsIn ts entries)
    (anchor own : Option String) : ReadsIn ts (mapping anchor own entries) :=
  .bind (readsIn_store _ _) fun _ => .bind h fun _ => readsIn_fill _ _

lemma readsIn_expand (t : TagText) : ReadsIn ts (expand t) := by
  unfold expand
  split
  · exact .pure _
  · refine .bind .get fun _ => ?_
    split
    · exact .pure _
    · exact .throw isBlamed_arrangement

lemma readsIn_properties : ReadsIn ts properties := by
  refine .bind readsIn_peek fun t => ?_
  split
  · refine .bind readsIn_skip fun _ => .bind readsIn_peek fun _ => ?_
    split
    · exact .bind readsIn_skip fun _ => .bind (readsIn_expand _) fun _ => .pure _
    · exact .pure _
  · refine .bind readsIn_skip fun _ => .bind readsIn_peek fun _ => ?_
    split
    · exact .bind readsIn_skip fun _ => .bind (readsIn_expand _) fun _ => .pure _
    · exact .bind (readsIn_expand _) fun _ => .pure _
  · exact .pure _

/-- The readers of nodes and of their parts read in some tokens. -/
structure NodesReadIn (ts : List Token) (fuel : Nat) : Prop where
  node : ∀ block dashes, ReadsIn ts (node fuel block dashes)
  blockItems : ReadsIn ts (blockItems fuel)
  dashedEntries : ReadsIn ts (dashedEntries fuel)
  blockEntries : ReadsIn ts (blockEntries fuel)
  flowItems : ∀ first, ReadsIn ts (flowItems fuel first)
  flowEntries : ∀ first, ReadsIn ts (flowEntries fuel first)

/-- A node that may be left out. -/
lemma readsIn_orEmpty {c : Prop} [Decidable c] {p : Parse NodeId} {f : NodeId → Parse β}
    (hp : ReadsIn ts p) (hf : ∀ n, ReadsIn ts (f n)) :
    ReadsIn ts (if c then (emptyScalar >>= f) else (p >>= f)) :=
  .ite (.bind readsIn_emptyScalar hf) (.bind hp hf)

section

variable {fuel : Nat} (ih : NodesReadIn ts fuel)

include ih

lemma readsIn_blockItems : ReadsIn ts (blockItems (fuel + 1)) := by
  rw [blockItems]
  refine .bind (readsIn_isNext _) fun _ => .ite (.bind readsIn_skip fun _ => ?_) ?_
  · refine .bind (readsIn_isNext _) fun _ => readsIn_orEmpty (ih.node _ _) fun n => ?_
    exact .bind ih.blockItems fun _ => .pure _
  · exact .bind (readsIn_expect _) fun _ => .pure _

lemma readsIn_dashedEntries : ReadsIn ts (dashedEntries (fuel + 1)) := by
  rw [dashedEntries]
  refine .bind (readsIn_isNext _) fun _ => .ite (.bind readsIn_skip fun _ => ?_) (.pure _)
  refine .bind (readsIn_isNext _) fun _ => readsIn_orEmpty (ih.node _ _) fun n => ?_
  exact .bind ih.dashedEntries fun _ => .pure _

/-- The value behind a key, if there is one. -/
lemma readsIn_value {block dashes : Bool} {ends : List Token} {f : NodeId → Parse β}
    (hf : ∀ n, ReadsIn ts (f n)) :
    ReadsIn ts (isNext [.value] >>= fun marked =>
      if marked then
        skip >>= fun _ => isNext ends >>= fun ended =>
          if ended then emptyScalar >>= f else node fuel block dashes >>= f
      else emptyScalar >>= f) := by
  have hnone : ReadsIn ts (emptyScalar >>= f) := .bind readsIn_emptyScalar hf
  refine .bind (readsIn_isNext _) fun _ => .ite (.bind readsIn_skip fun _ => ?_) hnone
  exact .bind (readsIn_isNext _) fun _ => readsIn_orEmpty (ih.node _ _) hf

lemma readsIn_blockEntries : ReadsIn ts (blockEntries (fuel + 1)) := by
  rw [blockEntries]
  refine .bind (readsIn_isNext _) fun _ => .ite (.bind readsIn_skip fun _ => ?_) ?_
  · refine .bind (readsIn_isNext _) fun _ => readsIn_orEmpty (ih.node _ _) fun k => ?_
    refine readsIn_value ih fun v => ?_
    exact .bind ih.blockEntries fun _ => .pure _
  · exact .bind (readsIn_expect _) fun _ => .pure _

omit ih in
/-- A token that has to be there in some cases. -/
lemma readsIn_expectIf {c : Prop} [Decidable c] (t : Token) {f : Unit → Parse β}
    (hf : ∀ u, ReadsIn ts (f u)) : ReadsIn ts (if c then expect t >>= f else f ()) :=
  .ite (.bind (readsIn_expect t) hf) (hf ())

lemma readsIn_flowItems (first : Bool) : ReadsIn ts (flowItems (fuel + 1) first) := by
  rw [flowItems]
  refine .bind (readsIn_isNext _) fun _ => .ite (.bind readsIn_skip fun _ => .pure _) ?_
  refine readsIn_expectIf _ fun _ => .bind (readsIn_isNext _) fun _ => .ite ?_ ?_
  · refine .bind readsIn_skip fun _ => .bind (readsIn_isNext _) fun _ => ?_
    refine readsIn_orEmpty (ih.node _ _) fun k => readsIn_value ih fun v => ?_
    exact .bind (readsIn_store _ _) fun _ => .bind (ih.flowItems _) fun _ => .pure _
  · refine .bind (readsIn_isNext _) fun _ => .ite (.bind readsIn_skip fun _ => .pure _) ?_
    exact .bind (ih.node _ _) fun _ => .bind (ih.flowItems _) fun _ => .pure _

lemma readsIn_flowEntries (first : Bool) : ReadsIn ts (flowEntries (fuel + 1) first) := by
  rw [flowEntries]
  refine .bind (readsIn_isNext _) fun _ => .ite (.bind readsIn_skip fun _ => .pure _) ?_
  refine readsIn_expectIf _ fun _ => .bind (readsIn_isNext _) fun _ => .ite ?_ ?_
  · refine .bind readsIn_skip fun _ => .bind (readsIn_isNext _) fun _ => ?_
    refine readsIn_orEmpty (ih.node _ _) fun k => readsIn_value ih fun v => ?_
    exact .bind (ih.flowEntries _) fun _ => .pure _
  · refine .bind (readsIn_isNext _) fun _ => .ite (.bind readsIn_skip fun _ => .pure _) ?_
    refine .bind (ih.node _ _) fun _ => .bind readsIn_emptyScalar fun _ => ?_
    exact .bind (ih.flowEntries _) fun _ => .pure _

lemma readsIn_node (block dashes : Bool) : ReadsIn ts (node (fuel + 1) block dashes) := by
  rw [node]
  refine .bind readsIn_peek fun t => ?_
  split
  · exact .bind readsIn_skip fun _ => readsIn_named _
  · refine .bind readsIn_properties fun (anchor, tag) => ?_
    refine .bind readsIn_peek fun t => .bind (readsIn_checkNew _) fun _ => ?_
    split
    · exact readsIn_sequence ih.dashedEntries _ _
    · exact .bind readsIn_skip fun _ => readsIn_store _ _
    · exact .bind readsIn_skip fun _ => readsIn_sequence (ih.flowItems _) _ _
    · exact .bind readsIn_skip fun _ => readsIn_mapping (ih.flowEntries _) _ _
    · exact .bind readsIn_skip fun _ => readsIn_sequence ih.blockItems _ _
    · exact .bind readsIn_skip fun _ => readsIn_mapping ih.blockEntries _ _
    · exact .ite (readsIn_store _ _) readsIn_fail

end

/-- Nodes are read in the tokens that there are. -/
lemma nodesReadIn (ts : List Token) (fuel : Nat) : NodesReadIn ts fuel := by
  induction fuel with
  | zero =>
    refine ⟨fun _ _ => ?_, ?_, ?_, ?_, fun _ => ?_, fun _ => ?_⟩
    · rw [node]; exact readsIn_fail
    · rw [blockItems]; exact readsIn_fail
    · rw [dashedEntries]; exact readsIn_fail
    · rw [blockEntries]; exact readsIn_fail
    · rw [flowItems]; exact readsIn_fail
    · rw [flowEntries]; exact readsIn_fail
  | succ fuel ih =>
    exact ⟨readsIn_node ih, readsIn_blockItems ih, readsIn_dashedEntries ih,
      readsIn_blockEntries ih, readsIn_flowItems ih, readsIn_flowEntries ih⟩

lemma readsIn_directives (version : Bool) (handles : List (String × String)) (fuel : Nat) :
    ReadsIn ts (directives version handles fuel) := by
  induction fuel generalizing version handles with
  | zero => exact readsIn_fail
  | succ fuel ih =>
    refine .bind readsIn_peek fun t => ?_
    split
    · exact .ite (.throw_bind isBlamed_arrangement) (.bind readsIn_skip fun _ => ih _ _)
    · exact .ite (.throw_bind isBlamed_arrangement) (.bind readsIn_skip fun _ => ih _ _)
    · exact .bind readsIn_skip fun _ => ih _ _
    · exact .pure _

lemma readsIn_skipEnds (fuel : Nat) : ReadsIn ts (skipEnds fuel) := by
  induction fuel with
  | zero => exact .pure _
  | succ fuel ih =>
    exact .bind (readsIn_isNext _) fun _ => .ite (.bind readsIn_skip fun _ => ih) (.pure _)

lemma readsIn_start (fuel : Nat) : ReadsIn ts (start fuel) := by
  refine .bind (readsIn_directives _ _ _) fun handles => ?_
  exact .bind (.modify fun _ => List.Subset.refl _) fun _ => readsIn_expect _

lemma readsIn_someNode (fuel : Nat) :
    ReadsIn ts (node fuel true false >>= fun n => pure (some n)) :=
  .bind ((nodesReadIn ts fuel).node _ _) fun _ => .pure _

/-- A document behind directives. -/
lemma readsIn_directed (fuel : Nat) : ReadsIn ts (do
    start fuel
    match ← peek with
    | .directive _ | .documentStart | .documentEnd | .streamEnd => return some (← emptyScalar)
    | _ => return some (← node fuel true false)) := by
  refine .bind (readsIn_start fuel) fun _ => .bind readsIn_peek fun t => ?_
  have hempty : ReadsIn ts (emptyScalar >>= fun n => pure (some n)) :=
    .bind readsIn_emptyScalar fun _ => .pure _
  split
  · exact hempty
  · exact hempty
  · exact hempty
  · exact hempty
  · exact readsIn_someNode fuel

lemma readsIn_document (fuel : Nat) : ReadsIn ts (document fuel) := by
  refine .bind readsIn_peek fun t => ?_
  split
  · exact .pure _
  · exact readsIn_directed fuel
  · exact readsIn_directed fuel
  · exact .bind (.modify fun _ => List.Subset.refl _) fun _ => readsIn_someNode fuel

lemma readsIn_single (fuel : Nat) : ReadsIn ts (single fuel) := by
  refine .bind (readsIn_document fuel) fun read => ?_
  split
  · exact .pure _
  · refine .bind (readsIn_skipEnds fuel) fun _ => .bind (readsIn_isNext _) fun _ =>
      .ite ?_ (.pure _)
    exact .bind (readsIn_start fuel) fun _ => .throw_bind isBlamed_arrangement

end Parse

/-- The nodes of some tokens are read, unless their order, a name or a fault among them is to
blame. -/
theorem isBlamed_of_graphOf {ts : List Token} {e : YamlFault} (h : graphOf ts = .error e) :
    IsBlamed ts e := by
  have hreads : ReadsIn ts (Parse.single (4 * ts.length + 16)) := Parse.readsIn_single _
  have hrun := hreads { tokens := ts } (List.Subset.refl _)
  rw [graphOf] at h
  match hsingle : (Parse.single (4 * ts.length + 16)).run { tokens := ts } with
  | .ok (_, _) =>
    rw [hsingle] at h
    cases h
  | .error e' =>
    rw [hsingle] at h hrun
    cases h
    exact hrun

/-- Tokens that make no nodes are no YAML, or they end at an escape for a number that is no
character. -/
theorem codePoint_of_graphOf {ts : List Token} {e : YamlFault} (hends : Lexer.EndsLexically ts)
    (h : graphOf ts = .error e) (he : e.isMalformed = false) :
    ∃ n front, e = .codePoint n ∧ 0x10FFFF < n ∧ ts = front ++ [.bad (.codePoint n)] := by
  rcases isBlamed_of_graphOf h with rfl | rfl | hbad
  · cases he
  · cases he
  rcases hends with hnone | ⟨front, e', htokens, hfront, hlexical⟩
  · exact absurd hbad (hnone e)
  rw [htokens, List.mem_append, List.mem_singleton] at hbad
  rcases hbad with hbad | hbad
  · exact absurd hbad (hfront e)
  cases hbad
  rcases hlexical with hmalformed | ⟨n, rfl, hn⟩
  · rw [he] at hmalformed
    cases hmalformed
  · exact ⟨n, front, rfl, hn, htokens⟩

end FirewallPolicy.Yaml
