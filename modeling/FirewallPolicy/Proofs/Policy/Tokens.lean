import FirewallPolicy.Proofs.Policy.Lapses
import FirewallPolicy.Proofs.Text.Trimmed

/-!
# Tokens

A token is a word of a document that goes into a command without quotes.

* `IsToken`: the grammar of tokens, up to a limit of their length.
* `Scalar.token_eq_ok_iff`: the reader of tokens accepts the texts of which trimming leaves a word
  of the grammar.
* `Scalar.token_eq_tokenByLine`: a reader that would let a line feed pass at the end of a text reads
  the same, since no text that was trimmed ends with one.
* `Scalar.tokens_read_exactly`: what is read, where all else is refused, and that what was read is
  read again.
-/

namespace FirewallPolicy

open FirewallPolicy.Text (trim isBlank IsTrimmed Strips)

/-! ## The grammar -/

/-- A word of ASCII letters and digits and of six other characters, of a limited length where there
is a limit. -/
structure IsToken (limit : Option Int) (t : String) : Prop where
  ne_empty : t ≠ ""
  chars : ∀ c ∈ t.toList, c.isAlphanum ∨ c ∈ "_.:@+-".toList
  fits : ∀ n ∈ limit, t.length ≤ n

namespace Scalar

variable {limit : Option Int} {value : Value} {path s t : String} {cs : List Char}

/-- The characters of tokens: ASCII letters and digits, and six others. -/
lemma isTokenChar_iff {c : Char} : isTokenChar c ↔ c.isAlphanum ∨ c ∈ "_.:@+-".toList := by
  have hdigit : (Text.asciiDigit? c).isSome ↔ c.isAlphanum := by
    have hbetween : ∀ first last : Char,
        (decide (first ≤ c) && decide (c ≤ last)) = true ↔ first ≤ c ∧ c ≤ last := by simp
    have hupper : c.isUpper ↔ 'A' ≤ c ∧ c ≤ 'Z' := decide_eq_true_iff
    have hlower : c.isLower ↔ 'a' ≤ c ∧ c ≤ 'z' := hbetween 'a' 'z'
    have hnumber : c.isDigit ↔ '0' ≤ c ∧ c ≤ '9' := hbetween '0' '9'
    have halphanum : c.isAlphanum ↔ (c.isUpper ∨ c.isLower) ∨ c.isDigit := by
      show ((c.isUpper || c.isLower) || c.isDigit) = true ↔ _
      rw [Bool.or_eq_true, Bool.or_eq_true]
    rw [halphanum, hupper, hlower, hnumber, Text.asciiDigit?]
    split_ifs <;> simp_all
  simp [isTokenChar, hdigit, or_assoc]

/-- A token is a word that is not too long. -/
lemma isToken_iff : IsToken limit t ↔ IsWord t ∧ ∀ n ∈ limit, t.length ≤ n := by
  simp only [IsWord, isTokenChar_iff]
  exact ⟨fun h => ⟨⟨h.ne_empty, h.chars⟩, h.fits⟩, fun h => ⟨h.1.1, h.1.2, h.2⟩⟩

/-! ## The reader -/

/-- What becomes of a text that was trimmed, given a way to tell the texts that are made of token
characters. -/
def tokenOf (isMade : List Char → Bool) (limit : Option Int) (path s : String) : Reading String :=
  if !isMade s.toList then refuse path (.notToken s)
  else match limit with
    | none => return s
    | some n => if n < s.length then refuse path (.tooLong s n) else return s

lemma token_eq_bind :
    token limit value path = text value path >>= tokenOf (·.all isTokenChar) limit path := rfl

/-- What is read of a text is decided by what trimming leaves of it. -/
lemma text_bind_of_ok {u : String} (h : text value path = .ok u) (f : String → Reading String) :
    text value path >>= f = f u := by
  rw [h]
  rfl

lemma tokenOf_eq_ok_iff {isMade : List Char → Bool} : tokenOf isMade limit path s = .ok t ↔
    s = t ∧ isMade s.toList ∧ ∀ n ∈ limit, s.length ≤ n := by
  unfold tokenOf
  cases isMade s.toList with
  | false => simp [refuse]
  | true =>
    cases limit with
    | none => simp [pure, Except.pure]
    | some n =>
      by_cases hlong : n < s.length
      · simp [refuse, hlong]
      · have hfits : s.length ≤ n := Int.not_lt.mp hlong
        simp [pure, Except.pure, hlong, hfits]

/-- The reader of tokens accepts the texts of which trimming leaves a word of the grammar. -/
theorem token_eq_ok_iff : token limit value path = .ok t ↔
    (∃ s, value = .text s ∧ trim s = t) ∧ IsToken limit t := by
  simp only [token_eq_bind, isToken_iff, IsWord]
  constructor
  · intro h
    obtain ⟨u, hu, hmade⟩ := exists_of_bind_eq_ok h
    obtain ⟨s, rfl, rfl, hne⟩ := text_eq_ok_iff.mp hu
    obtain ⟨rfl, hchars, hfits⟩ := tokenOf_eq_ok_iff.mp hmade
    exact ⟨⟨s, rfl, rfl⟩, ⟨by simpa using hne, List.all_eq_true.mp hchars⟩, hfits⟩
  · rintro ⟨⟨s, rfl, rfl⟩, ⟨hne, hchars⟩, hfits⟩
    have htext : text (.text s) path = .ok (trim s) :=
      text_eq_ok_iff.mpr ⟨s, rfl, rfl, by simpa using hne⟩
    rw [text_bind_of_ok htext]
    exact tokenOf_eq_ok_iff.mpr ⟨rfl, List.all_eq_true.mpr hchars, hfits⟩

/-- A token is read again as it is, wherever it stands. -/
lemma token_text_of_token (h : token limit value path = .ok t) (place : String) :
    token limit (.text t) place = .ok t := by
  obtain ⟨⟨s, -, rfl⟩, htoken⟩ := token_eq_ok_iff.mp h
  exact token_eq_ok_iff.mpr ⟨⟨trim s, rfl, Text.trim_trim s⟩, htoken⟩

/-! ## Refusals -/

/-- A reading fails at one location only, and only because a rule is broken there. -/
def RefusesAt {α : Type} (path : String) (reading : Reading α) : Prop :=
  ∀ e, reading = .error e → ∃ fault, e = .violation ⟨path, fault⟩

lemma refusesAt_ok {α : Type} (a : α) : RefusesAt path (.ok a : Reading α) := nofun

lemma refusesAt_refuse {α : Type} (fault : Fault) :
    RefusesAt path (refuse path fault : Reading α) := by
  rintro e ⟨⟩
  exact ⟨fault, rfl⟩

lemma RefusesAt.bind {α β : Type} {x : Reading α} {f : α → Reading β} (hx : RefusesAt path x)
    (hf : ∀ a, RefusesAt path (f a)) : RefusesAt path (x >>= f) := by
  cases x with
  | error e =>
    rintro e' ⟨⟩
    exact hx e rfl
  | ok a => exact hf a

lemma refusesAt_text : RefusesAt path (text value path) := by
  cases value with
  | text s =>
    simp only [text]
    split_ifs
    · exact refusesAt_refuse _
    · exact refusesAt_ok _
  | _ => exact refusesAt_refuse _

/-- What is no token is refused where it is. -/
lemma refusesAt_token : RefusesAt path (token limit value path) := by
  refine refusesAt_text.bind fun s => ?_
  split_ifs
  · exact refusesAt_refuse _
  · cases limit with
    | none => exact refusesAt_ok _
    | some n =>
      simp only
      split_ifs
      · exact refusesAt_refuse _
      · exact refusesAt_ok _

/-! ## The end of a text and the end of a line -/

/-- A run of token characters stands at the beginning of a text, and nothing behind it but perhaps
the end of the last line. -/
def matchesLine (cs : List Char) : Bool :=
  let rest := cs.dropWhile isTokenChar
  decide (rest.length < cs.length) && (rest == [] || rest == ['\n'])

/-- The reader of tokens that takes the end of the last line for the end of the text. -/
def tokenByLine (limit : Option Int) (value : Value) (path : String) : Reading String :=
  text value path >>= tokenOf matchesLine limit path

/-- A trimmed text does not end with a line feed, so there is nothing behind the run. -/
lemma matchesLine_eq_all (h : IsTrimmed cs) (hne : cs ≠ []) :
    matchesLine cs = cs.all isTokenChar := by
  have hline : cs.dropWhile isTokenChar ≠ ['\n'] := by
    intro hrest
    have hlast : '\n' ∈ cs.getLast? := by
      rw [← List.takeWhile_append_dropWhile (p := isTokenChar) (l := cs), hrest]
      exact List.getLast?_concat
    exact absurd (h.last _ hlast) (by decide)
  rw [Bool.eq_iff_iff, List.all_eq_true, ← List.dropWhile_eq_nil_iff]
  simp only [matchesLine, Bool.and_eq_true, Bool.or_eq_true, decide_eq_true_eq, beq_iff_eq, hline,
    or_false]
  refine and_iff_right_of_imp fun hrest => ?_
  rw [hrest]
  exact List.length_pos_of_ne_nil hne

/-- It makes no difference which of the two ends a token has to reach. -/
theorem token_eq_tokenByLine : token limit value path = tokenByLine limit value path := by
  rw [token_eq_bind, tokenByLine]
  cases htext : text value path with
  | error e => rfl
  | ok u =>
    have hmatches : matchesLine u.toList = u.toList.all isTokenChar := by
      obtain ⟨s, -, rfl, hne⟩ := text_eq_ok_iff.mp htext
      refine matchesLine_eq_all ?_ fun hnil => ?_
      · rw [trim, String.toList_ofList]
        exact Text.isTrimmed_trimChars _
      · rw [String.toList_eq_nil_iff.mp hnil] at hne
        cases hne
    rw [← htext, text_bind_of_ok htext, text_bind_of_ok htext]
    unfold tokenOf
    rw [hmatches]

/-- The reader of tokens gives what is left of a text between the blanks at its ends if that is a
word of the grammar, and refuses all other values, at the place where they are; what it gave it
gives again.  A reader that lets the end of the last line pass does the same. -/
theorem tokens_read_exactly (limit : Option Int) (value : Value) (path : String) :
    (∀ t, token limit value path = .ok t ↔
      ∃ s, value = .text s ∧ Strips s.toList t.toList ∧ IsToken limit t) ∧
    RefusesAt path (token limit value path) ∧
    (∀ t, token limit value path = .ok t → ∀ place, token limit (.text t) place = .ok t) ∧
    token limit value path = tokenByLine limit value path := by
  refine ⟨fun t => ?_, refusesAt_token, fun _ h => token_text_of_token h, token_eq_tokenByLine⟩
  have hstrips : ∀ s : String, Strips s.toList t.toList ↔ trim s = t := by
    intro s
    rw [Text.strips_iff, trim, ← String.toList_inj, String.toList_ofList]
  simp only [token_eq_ok_iff, hstrips]
  constructor
  · rintro ⟨⟨s, hs, ht⟩, htoken⟩
    exact ⟨s, hs, ht, htoken⟩
  · rintro ⟨s, hs, ht, htoken⟩
    exact ⟨⟨s, hs, ht⟩, htoken⟩

end Scalar

end FirewallPolicy
