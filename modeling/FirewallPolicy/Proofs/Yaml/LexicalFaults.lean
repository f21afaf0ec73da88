import FirewallPolicy.Yaml.Lexer
import Mathlib.Tactic.Common

/-!
# Faults of tokens

* `IsLexical`: what reading tokens may be blamed on.
* `FailsLexically` and the lemmas about the readers of tokens: nothing else ends them.
* `Unfailing`, `YieldsUnfailing`: the tokens in front of such a fault hold no other.
* `endsLexically_tokensOf`: so the tokens of a text end at a lexical fault, or hold none.
-/

namespace FirewallPolicy.Yaml

/-! ## Lexical faults -/

/-- What reading tokens may be blamed on: the text is no YAML, or it has an escape for a number that
is no character. -/
def IsLexical (e : YamlFault) : Prop :=
  e.isMalformed = true ∨ ∃ n, e = .codePoint n ∧ 0x10FFFF < n

/-- A reading that fails with lexical faults only. -/
def FailsLexically {α : Type} (r : Lex α) : Prop := ∀ e, r = .error e → IsLexical e

section

variable {α β : Type} {r r' : Lex α}

@[simp] lemma failsLexically_ok (a : α) : FailsLexically (.ok a) := nofun

@[simp] lemma failsLexically_pure (a : α) : FailsLexically (pure a) := nofun

@[simp] lemma failsLexically_throw_iff {e : YamlFault} :
    FailsLexically (throw e : Lex α) ↔ IsLexical e := by
  constructor
  · exact fun h => h e rfl
  · intro h e' he'
    cases he'
    exact h

@[simp] lemma failsLexically_bind_iff {f : α → Lex β} :
    FailsLexically (r >>= f) ↔ FailsLexically r ∧ ∀ a, r = .ok a → FailsLexically (f a) := by
  cases r with
  | ok a =>
    constructor
    · refine fun h => ⟨failsLexically_ok a, fun b hb => ?_⟩
      cases hb
      exact h
    · exact fun h => h.2 a rfl
  | error e =>
    have herror : FailsLexically (.error e : Lex β) ↔ FailsLexically (.error e : Lex α) :=
      failsLexically_throw_iff.trans failsLexically_throw_iff.symm
    exact herror.trans (and_iff_left nofun).symm

@[simp] lemma failsLexically_map_iff {f : α → β} :
    FailsLexically (f <$> r) ↔ FailsLexically r := by
  cases r with
  | ok a => exact iff_of_true nofun nofun
  | error e => exact failsLexically_throw_iff.trans failsLexically_throw_iff.symm

lemma FailsLexically.ite {p : Prop} [Decidable p] (h : FailsLexically r) (h' : FailsLexically r') :
    FailsLexically (if p then r else r') := by
  split_ifs <;> assumption

@[simp] lemma failsLexically_ite_iff {p : Prop} [Decidable p] :
    FailsLexically (if p then r else r') ↔
      (p → FailsLexically r) ∧ (¬ p → FailsLexically r') := by
  split_ifs <;> simp_all

end

@[simp] lemma isLexical_token : IsLexical .token := .inl rfl

@[simp] lemma isLexical_arrangement : IsLexical .arrangement := .inl rfl

namespace Lexer

variable (s : Lexer) (c : Cursor) (fuel : Nat)

@[simp] lemma failsLexically_dropKey : FailsLexically s.dropKey := by
  unfold dropKey
  split <;> simp

@[simp] lemma failsLexically_saveKey : FailsLexically s.saveKey := by
  unfold saveKey
  simp

@[simp] lemma failsLexically_dropStaleKeys : FailsLexically s.dropStaleKeys := by
  unfold dropStaleKeys
  simp

@[simp] lemma failsLexically_restOfLine : FailsLexically (restOfLine c) := by
  unfold restOfLine
  simp

@[simp] lemma failsLexically_number : FailsLexically (number c) := by
  unfold number
  simp

@[simp] lemma failsLexically_uriBytes : FailsLexically (uriBytes c fuel) := by
  induction fuel generalizing c with
  | zero => exact failsLexically_pure _
  | succ fuel ih =>
    unfold uriBytes
    split_ifs
    · split <;> simp [ih]
    · simp

@[simp] lemma failsLexically_uriPieces (text : List Char) :
    FailsLexically (uriPieces c text fuel) := by
  induction fuel generalizing c text with
  | zero => exact failsLexically_throw_iff.mpr isLexical_token
  | succ fuel ih =>
    unfold uriPieces
    dsimp only
    split_ifs
    · refine failsLexically_bind_iff.mpr ⟨failsLexically_uriBytes _ _, fun read _ => ?_⟩
      split <;> simp [ih]
    · simp
    · simp

@[simp] lemma failsLexically_uri : FailsLexically (uri c fuel) := by
  unfold uri
  simp

@[simp] lemma failsLexically_handle : FailsLexically (handle c) := by
  unfold handle
  simp

@[simp] lemma failsLexically_directive : FailsLexically (directive c fuel) := by
  unfold directive
  simp

@[simp] lemma failsLexically_anchorName : FailsLexically (anchorName c) := by
  unfold anchorName
  simp

@[simp] lemma failsLexically_tagText : FailsLexically (tagText c fuel) := by
  unfold tagText
  simp

@[simp] lemma failsLexically_blockSigns : FailsLexically (blockSigns c) := by
  unfold blockSigns
  simp

@[simp] lemma failsLexically_blockScalar (folded : Bool) (parent : Int) :
    FailsLexically (blockScalar folded parent c fuel) := by
  unfold blockScalar
  simp

@[simp] lemma failsLexically_escapedNumber (digits : Nat) :
    FailsLexically (escapedNumber c digits) := by
  unfold escapedNumber
  split
  · simp
  · split_ifs with hlarge
    · exact failsLexically_throw_iff.mpr (.inr ⟨_, rfl, hlarge⟩)
    · simp

@[simp] lemma failsLexically_quotedBreaks (breaks : List Char) :
    FailsLexically (quotedBreaks c breaks fuel) := by
  induction fuel generalizing c breaks with
  | zero => exact failsLexically_pure _
  | succ fuel ih =>
    unfold quotedBreaks
    simp [ih]

@[simp] lemma failsLexically_quotedGap : FailsLexically (quotedGap c fuel) := by
  unfold quotedGap
  simp

@[simp] lemma failsLexically_quotedText (double : Bool) (text : List Char) :
    FailsLexically (quotedText double c text fuel) := by
  induction fuel generalizing c text with
  | zero => exact failsLexically_throw_iff.mpr isLexical_token
  | succ fuel ih =>
    unfold quotedText
    refine .ite (ih _ _) (.ite (failsLexically_pure _) (.ite (ih _ _) (.ite ?_ ?_)))
    · dsimp only
      split <;> simp [ih]
    · simp [ih]

@[simp] lemma failsLexically_quotedScalar (double : Bool) :
    FailsLexically (quotedScalar double c fuel) := by
  unfold quotedScalar
  simp

/-! ## Tokens -/

@[simp] lemma failsLexically_emitNode {read : Cursor → Lex (Token × Cursor)} :
    FailsLexically (s.emitNode read) ↔
      ∀ s', s.saveKey = .ok s' → FailsLexically (read s'.cursor) := by
  unfold emitNode
  simp

@[simp] lemma failsLexically_openFlow (t : Token) : FailsLexically (s.openFlow t) := by
  unfold openFlow
  simp

@[simp] lemma failsLexically_closeFlow (t : Token) : FailsLexically (s.closeFlow t) := by
  unfold closeFlow
  simp

@[simp] lemma failsLexically_flowComma : FailsLexically s.flowComma := by
  unfold flowComma
  simp

@[simp] lemma failsLexically_openBlock (t : Token) : FailsLexically (s.openBlock t) := by
  unfold openBlock
  split_ifs
  · simp
  · simp
  · split <;> simp

@[simp] lemma failsLexically_blockDash : FailsLexically s.blockDash := by
  unfold blockDash
  simp

@[simp] lemma failsLexically_keyMark : FailsLexically s.keyMark := by
  unfold keyMark
  simp

@[simp] lemma failsLexically_valueMark : FailsLexically s.valueMark := by
  unfold valueMark
  split <;> simp

@[simp] lemma failsLexically_documentMark (t : Token) : FailsLexically (s.documentMark t) := by
  unfold documentMark
  simp

@[simp] lemma failsLexically_directiveLine : FailsLexically (s.directiveLine fuel) := by
  unfold directiveLine
  simp

@[simp] lemma failsLexically_blockScalarHere (folded : Bool) :
    FailsLexically (s.blockScalarHere folded fuel) := by
  unfold blockScalarHere
  simp

@[simp] lemma failsLexically_plainScalarHere : FailsLexically (s.plainScalarHere fuel) := by
  unfold plainScalarHere
  simp

lemma failsLexically_tokenHere : FailsLexically (s.tokenHere fuel) := by
  unfold tokenHere
  repeat' refine .ite ?_ ?_
  all_goals simp

lemma failsLexically_approach : FailsLexically (s.approach fuel) := by
  unfold approach
  simp

lemma failsLexically_finish : FailsLexically s.finish := by
  unfold finish
  simp

end Lexer

/-! ## The tokens so far -/

/-- There is no fault among some tokens. -/
def Unfailing (ts : List Token) : Prop := ∀ e, Token.bad e ∉ ts

/-- No fault is among the tokens of the lexer that comes out. -/
def YieldsUnfailing (r : Lex Lexer) : Prop := ∀ s, r = .ok s → Unfailing s.tokens

section

variable {α : Type} {r r' : Lex Lexer}

@[simp] lemma unfailing_nil : Unfailing [] := nofun

@[simp] lemma unfailing_cons_iff {t : Token} {ts : List Token} :
    Unfailing (t :: ts) ↔ (∀ e, t ≠ .bad e) ∧ Unfailing ts := by
  simp only [Unfailing, List.mem_cons, not_or, forall_and, ne_comm]

@[simp] lemma yieldsUnfailing_pure_iff {s : Lexer} :
    YieldsUnfailing (pure s) ↔ Unfailing s.tokens := by
  constructor
  · exact fun h => h s rfl
  · intro h s' hs'
    cases hs'
    exact h

@[simp] lemma yieldsUnfailing_throw (e : YamlFault) : YieldsUnfailing (throw e) := nofun

@[simp] lemma yieldsUnfailing_bind_iff {x : Lex α} {f : α → Lex Lexer} :
    YieldsUnfailing (x >>= f) ↔ ∀ a, x = .ok a → YieldsUnfailing (f a) := by
  cases x with
  | ok a =>
    constructor
    · intro h b hb
      cases hb
      exact h
    · exact fun h => h a rfl
  | error e => exact iff_of_true nofun nofun

@[simp] lemma yieldsUnfailing_map_iff {x : Lex α} {f : α → Lexer} :
    YieldsUnfailing (f <$> x) ↔ ∀ a, x = .ok a → Unfailing (f a).tokens := by
  rw [← bind_pure_comp, yieldsUnfailing_bind_iff]
  simp

lemma YieldsUnfailing.ite {p : Prop} [Decidable p] (h : YieldsUnfailing r)
    (h' : YieldsUnfailing r') : YieldsUnfailing (if p then r else r') := by
  split_ifs <;> assumption

end

namespace Lexer

variable {s s' : Lexer}

lemma tokens_of_dropKey (h : s.dropKey = .ok s') : s'.tokens = s.tokens := by
  unfold dropKey at h
  split at h
  · split_ifs at h
    cases h
    rfl
  · cases h
    rfl

lemma tokens_of_saveKey (h : s.saveKey = .ok s') : s'.tokens = s.tokens := by
  unfold saveKey at h
  split_ifs at h
  · cases h
    rfl
  · match hdrop : s.dropKey with
    | .ok dropped =>
      rw [hdrop] at h
      cases h
      have htokens : dropped.tokens = s.tokens := tokens_of_dropKey hdrop
      exact htokens
    | .error e =>
      rw [hdrop] at h
      cases h

lemma tokens_of_dropStaleKeys (h : s.dropStaleKeys = .ok s') : s'.tokens = s.tokens := by
  unfold dropStaleKeys at h
  split_ifs at h
  cases h
  rfl

@[simp] lemma tokens_emit (s : Lexer) (t : Token) : (s.emit t).tokens = t :: s.tokens := rfl

@[simp] lemma tokens_skip (s : Lexer) (n : Nat) : (s.skip n).tokens = s.tokens := rfl

@[simp] lemma tokens_skipGap (s : Lexer) (fuel : Nat) : (s.skipGap fuel).tokens = s.tokens := by
  induction fuel generalizing s with
  | zero => rfl
  | succ fuel ih =>
    unfold skipGap
    dsimp only
    generalize s.cursor.skipWhile (· == ' ') = c
    generalize (if c.peek = '#' then c.skipWhile (!isBreak ·) else c) = c'
    split_ifs
    · rw [ih]
    · rw [ih]
    · rfl

@[simp] lemma tokens_skipByteOrderMark (s : Lexer) : s.skipByteOrderMark.tokens = s.tokens := by
  unfold skipByteOrderMark
  split_ifs <;> rfl

lemma unfailing_unwindGo (h : Unfailing s.tokens) (column : Int) (outer : List Int) :
    Unfailing (unwind.go column s outer).tokens := by
  induction outer generalizing s with
  | nil => exact h
  | cons i outer ih =>
    unfold unwind.go
    split_ifs
    · exact ih (unfailing_cons_iff.mpr ⟨nofun, h⟩)
    · exact h

lemma unfailing_unwind (h : Unfailing s.tokens) (column : Int) :
    Unfailing (s.unwind column).tokens := by
  unfold unwind
  split_ifs
  · exact h
  · exact unfailing_unwindGo h column _

lemma unfailing_emitAt (h : Unfailing s.tokens) (position : Nat) {t : Token}
    (ht : ∀ e, t ≠ .bad e) : Unfailing (s.emitAt position t).tokens := by
  intro e he
  rcases List.mem_append.mp he with he | he
  · exact h e (List.mem_of_mem_take he)
  · rcases List.mem_cons.mp he with he | he
    · exact ht e he.symm
    · exact h e (List.mem_of_mem_drop he)

lemma tokens_of_deepen {column : Int} (h : s.deepen column = some s') : s'.tokens = s.tokens := by
  unfold deepen at h
  split_ifs at h
  cases h
  rfl

section

variable (h : Unfailing s.tokens)

include h

lemma unfailing_emitNode {α : Type} (read : Cursor → Lex (α × Cursor)) {f : α → Token}
    (hf : ∀ a e, f a ≠ .bad e) :
    YieldsUnfailing (s.emitNode fun c => return ((← read c).map f id)) := by
  unfold emitNode
  refine yieldsUnfailing_bind_iff.mpr fun s' hs' => ?_
  refine yieldsUnfailing_bind_iff.mpr fun t ht => ?_
  obtain ⟨a, ha⟩ : ∃ a, t.1 = f a := by
    dsimp only at ht
    match hread : read s'.cursor with
    | .ok (a, c) =>
      rw [hread] at ht
      cases ht
      exact ⟨a, rfl⟩
    | .error e =>
      rw [hread] at ht
      cases ht
  refine yieldsUnfailing_pure_iff.mpr (unfailing_cons_iff.mpr ⟨?_, tokens_of_saveKey hs' ▸ h⟩)
  exact ha ▸ hf a

lemma unfailing_openFlow {t : Token} (ht : ∀ e, t ≠ .bad e) : YieldsUnfailing (s.openFlow t) := by
  unfold openFlow
  simp only [yieldsUnfailing_bind_iff, yieldsUnfailing_pure_iff, tokens_emit, tokens_skip,
    unfailing_cons_iff]
  exact fun s' hs' => ⟨ht, tokens_of_saveKey hs' ▸ h⟩

lemma unfailing_closeFlow {t : Token} (ht : ∀ e, t ≠ .bad e) :
    YieldsUnfailing (s.closeFlow t) := by
  unfold closeFlow
  refine yieldsUnfailing_bind_iff.mpr fun s' hs' => .ite nofun ?_
  exact yieldsUnfailing_pure_iff.mpr (unfailing_cons_iff.mpr ⟨ht, tokens_of_dropKey hs' ▸ h⟩)

lemma unfailing_flowComma : YieldsUnfailing s.flowComma := by
  unfold flowComma
  refine yieldsUnfailing_bind_iff.mpr fun s' hs' => yieldsUnfailing_pure_iff.mpr ?_
  exact unfailing_cons_iff.mpr ⟨nofun, tokens_of_dropKey hs' ▸ h⟩

lemma unfailing_openBlock {t : Token} (ht : ∀ e, t ≠ .bad e) : YieldsUnfailing (s.openBlock t) := by
  unfold openBlock
  refine .ite (yieldsUnfailing_pure_iff.mpr h) (.ite nofun ?_)
  split
  · rename_i deeper hdeeper
    refine yieldsUnfailing_pure_iff.mpr (unfailing_cons_iff.mpr ⟨ht, ?_⟩)
    exact tokens_of_deepen hdeeper ▸ h
  · exact yieldsUnfailing_pure_iff.mpr h

lemma unfailing_blockDash : YieldsUnfailing s.blockDash := by
  unfold blockDash
  simp only [yieldsUnfailing_bind_iff, yieldsUnfailing_pure_iff]
  intro opened hopened dropped hdropped
  have hclean := unfailing_openBlock h (t := .blockSequenceStart) nofun opened hopened
  exact unfailing_cons_iff.mpr ⟨nofun, tokens_of_dropKey hdropped ▸ hclean⟩

lemma unfailing_keyMark : YieldsUnfailing s.keyMark := by
  unfold keyMark
  simp only [yieldsUnfailing_bind_iff, yieldsUnfailing_pure_iff]
  intro opened hopened dropped hdropped
  have hclean := unfailing_openBlock h (t := .blockMappingStart) nofun opened hopened
  exact unfailing_cons_iff.mpr ⟨nofun, tokens_of_dropKey hdropped ▸ hclean⟩

lemma unfailing_valueMark : YieldsUnfailing s.valueMark := by
  unfold valueMark
  refine yieldsUnfailing_bind_iff.mpr fun marked hmarked => ?_
  refine yieldsUnfailing_pure_iff.mpr (unfailing_cons_iff.mpr ⟨nofun, ?_⟩)
  split at hmarked
  · rename_i k _
    have hforgotten : Unfailing s.forgetKey.tokens := h
    have hkey := unfailing_emitAt hforgotten k.position (t := .key) nofun
    cases hmarked
    dsimp only
    split_ifs
    · exact hkey
    · split
      · rename_i deeper hdeeper
        exact unfailing_emitAt (tokens_of_deepen hdeeper ▸ hkey) _ nofun
      · exact hkey
  · revert marked
    show YieldsUnfailing _
    simp only [yieldsUnfailing_bind_iff]
    intro opened hopened dropped hdropped
    have hclean := unfailing_openBlock h (t := .blockMappingStart) nofun opened hopened
    exact tokens_of_dropKey hdropped ▸ hclean

lemma unfailing_documentMark {t : Token} (ht : ∀ e, t ≠ .bad e) :
    YieldsUnfailing (s.documentMark t) := by
  unfold documentMark
  refine yieldsUnfailing_bind_iff.mpr fun s' hs' => yieldsUnfailing_pure_iff.mpr ?_
  exact unfailing_cons_iff.mpr ⟨ht, tokens_of_dropKey hs' ▸ unfailing_unwind h (-1)⟩

lemma unfailing_directiveLine (fuel : Nat) : YieldsUnfailing (s.directiveLine fuel) := by
  unfold directiveLine
  simp only [yieldsUnfailing_bind_iff, yieldsUnfailing_pure_iff]
  intro s' hs' _ _
  exact unfailing_cons_iff.mpr ⟨nofun, tokens_of_dropKey hs' ▸ unfailing_unwind h (-1)⟩

lemma unfailing_blockScalarHere (folded : Bool) (fuel : Nat) :
    YieldsUnfailing (s.blockScalarHere folded fuel) := by
  unfold blockScalarHere
  simp only [yieldsUnfailing_bind_iff, yieldsUnfailing_pure_iff]
  intro s' hs' _ _
  exact unfailing_cons_iff.mpr ⟨nofun, tokens_of_dropKey hs' ▸ h⟩

lemma unfailing_plainScalarHere (fuel : Nat) : YieldsUnfailing (s.plainScalarHere fuel) := by
  unfold plainScalarHere
  refine yieldsUnfailing_bind_iff.mpr fun s' hs' => yieldsUnfailing_pure_iff.mpr ?_
  exact unfailing_cons_iff.mpr ⟨nofun, tokens_of_saveKey hs' ▸ h⟩

lemma unfailing_tokenHere (fuel : Nat) : YieldsUnfailing (s.tokenHere fuel) := by
  unfold tokenHere
  refine .ite (unfailing_directiveLine h fuel) ?_
  refine .ite (unfailing_documentMark h nofun) (.ite (unfailing_documentMark h nofun) ?_)
  refine .ite (unfailing_openFlow h nofun) (.ite (unfailing_openFlow h nofun) ?_)
  refine .ite (unfailing_closeFlow h nofun) (.ite (unfailing_closeFlow h nofun) ?_)
  refine .ite (unfailing_flowComma h) (.ite (unfailing_blockDash h) ?_)
  refine .ite (unfailing_keyMark h) (.ite (unfailing_valueMark h) ?_)
  refine .ite (unfailing_emitNode h _ nofun) (.ite (unfailing_emitNode h _ nofun) ?_)
  refine .ite (unfailing_emitNode h _ nofun) ?_
  refine .ite (unfailing_blockScalarHere h _ _) (.ite (unfailing_blockScalarHere h _ _) ?_)
  refine .ite (unfailing_emitNode h _ nofun) (.ite (unfailing_emitNode h _ nofun) ?_)
  exact .ite (unfailing_plainScalarHere h _) nofun

end

/-! ## The end of the tokens -/

/-- Tokens that end with a fault of a text, or without one. -/
def EndsLexically (ts : List Token) : Prop :=
  Unfailing ts ∨ ∃ front e, ts = front ++ [.bad e] ∧ Unfailing front ∧ IsLexical e

lemma endsLexically_endAt {e : YamlFault} (h : Unfailing s.tokens) (he : IsLexical e) :
    EndsLexically (s.endAt e) :=
  .inr ⟨_, e, rfl, fun e' he' => h e' (List.mem_reverse.mp (List.mem_of_mem_take he')), he⟩

lemma unfailing_approach (h : Unfailing s.tokens) (fuel : Nat) :
    YieldsUnfailing (s.approach fuel) := by
  unfold approach
  refine yieldsUnfailing_bind_iff.mpr fun kept hkept => yieldsUnfailing_pure_iff.mpr ?_
  refine unfailing_unwind ?_ _
  rw [tokens_of_dropStaleKeys hkept, tokens_skipGap, tokens_skipByteOrderMark]
  exact h

lemma unfailing_finish (h : Unfailing s.tokens) : YieldsUnfailing s.finish := by
  unfold finish
  refine yieldsUnfailing_bind_iff.mpr fun dropped hdropped => yieldsUnfailing_pure_iff.mpr ?_
  exact unfailing_cons_iff.mpr ⟨nofun, tokens_of_dropKey hdropped ▸ unfailing_unwind h (-1)⟩

lemma endsLexically_run (h : Unfailing s.tokens) (fuel : Nat) : EndsLexically (s.run fuel) := by
  induction fuel generalizing s with
  | zero => exact endsLexically_endAt h isLexical_token
  | succ fuel ih =>
    unfold run
    match happroach : s.approach fuel with
    | .error e => exact endsLexically_endAt h (failsLexically_approach s fuel e happroach)
    | .ok next =>
      have hnext : Unfailing next.tokens := unfailing_approach h fuel next happroach
      dsimp only
      split_ifs
      · match hfinish : next.finish with
        | .error e => exact endsLexically_endAt h (failsLexically_finish next e hfinish)
        | .ok last =>
          exact .inl fun e he => unfailing_finish hnext last hfinish e (List.mem_reverse.mp he)
      · match htoken : next.tokenHere fuel with
        | .error e => exact endsLexically_endAt h (failsLexically_tokenHere next fuel e htoken)
        | .ok read => exact ih (unfailing_tokenHere hnext fuel read htoken)

end Lexer

lemma endsLexically_tokensOfGood (cs : List Char) : Lexer.EndsLexically (tokensOfGood cs) :=
  Lexer.endsLexically_run unfailing_nil _

/-- The tokens of a text end at a fault of the text, if there is one. -/
theorem endsLexically_tokensOf (cs : List Char) (whole : Bool) :
    Lexer.EndsLexically (tokensOf cs whole) := by
  unfold tokensOf
  dsimp only
  split_ifs
  · exact endsLexically_tokensOfGood cs
  · unfold tokensOfFront
    split
    · exact endsLexically_tokensOfGood _
    · exact .inr ⟨[], .unprintable, rfl, unfailing_nil, .inl rfl⟩

end FirewallPolicy.Yaml
