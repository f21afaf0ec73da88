import FirewallPolicy.Proofs.Policy.Accepted
import FirewallPolicy.Proofs.Text.Cuts
import FirewallPolicy.Script.Listing
import Mathlib.Tactic.Common

/-!
# Words of a shell line

The commands of a transcript are written into a shell script as they are, without quotes.

* `Shell.IsSafe`, `Shell.IsPlain`: words, and arguments, of characters that mean nothing to a shell.
* `Shell.words?`: the words that a shell makes of a line, as long as it does nothing else with it.
* `Shell.words?_intercalate`: safe words that are joined with blanks come out as they were.
* `Shell.isPlain_intercalate`, `Shell.IsPlain.notMem_of_not_isSafeChar`: arguments are plain if
  they are joined from safe words, and hold no other character if they are plain.
-/

namespace FirewallPolicy.Shell

/-! ## Plain text -/

/-- A character that may stand in a command: one of a word, or one of `/ , !`. -/
def isSafeChar (c : Char) : Bool := Scalar.isTokenChar c || c == '/' || c == ',' || c == '!'

/-- A word of such characters. -/
def IsSafe (word : String) : Prop := word ≠ "" ∧ ∀ c ∈ word.toList, isSafeChar c

instance (word : String) : Decidable (IsSafe word) :=
  decidable_of_iff (word ≠ "" ∧ word.toList.all isSafeChar) (by rw [List.all_eq_true, IsSafe])

/-- Arguments of such characters and of single blanks, none of them at an end. -/
def IsPlain (arguments : String) : Prop :=
  ∀ piece ∈ Text.fieldsOf ' ' arguments.toList, piece ≠ [] ∧ ∀ c ∈ piece, isSafeChar c

instance (arguments : String) : Decidable (IsPlain arguments) :=
  decidable_of_iff ((Text.fieldsOf ' ' arguments.toList).all fun piece =>
    piece ≠ [] ∧ piece.all isSafeChar) (by simp only [List.all_eq_true, decide_eq_true_eq, IsPlain])

/-- No blank stands in a safe word. -/
lemma IsSafe.blank_notMem {word : String} (h : IsSafe word) : ' ' ∉ word.toList := by
  intro hmem
  have hblank : isSafeChar ' ' := h.2 ' ' hmem
  exact absurd hblank (by decide)

/-- A word of a policy is safe. -/
lemma IsSafe.of_isWord {word : String} (h : IsWord word) : IsSafe word := by
  refine ⟨h.1, fun c hc => ?_⟩
  simp [isSafeChar, h.2 c hc]

/-- Safe words stay safe when they are put together. -/
lemma IsSafe.append {first second : String} (h₁ : IsSafe first) (h₂ : IsSafe second) :
    IsSafe (first ++ second) := by
  refine ⟨?_, fun c hc => ?_⟩
  · intro hempty
    have hlist : (first ++ second).toList = [] := by rw [hempty]; rfl
    rw [String.toList_append, List.append_eq_nil_iff] at hlist
    exact h₁.1 (String.toList_injective hlist.1)
  · rw [String.toList_append, List.mem_append] at hc
    rcases hc with hc | hc
    · exact h₁.2 c hc
    · exact h₂.2 c hc

/-- A written number is safe. -/
lemma isSafe_toString (n : Nat) : IsSafe (toString n) := by
  have hlist : (toString n).toList = Nat.toDigits 10 n := by simp
  refine ⟨fun hempty => ?_, fun c hc => ?_⟩
  · rw [hempty] at hlist
    exact Nat.toDigits_ne_nil hlist.symm
  · rw [hlist] at hc
    have hdigit : c.isDigit = true := Nat.isDigit_of_mem_toDigits (by decide) (by decide) hc
    simp only [Char.isDigit, Bool.and_eq_true, decide_eq_true_eq] at hdigit
    -- A decimal digit is one of the characters of a token.
    have hascii : (Text.asciiDigit? c).isSome := by
      have hrange : '0' ≤ c ∧ c ≤ '9' := hdigit
      simp [Text.asciiDigit?, hrange]
    simp [isSafeChar, Scalar.isTokenChar, hascii]

/-! ## Joined words -/

/-- The characters of words that are joined with one character. -/
lemma toList_intercalate (sep : Char) {s : String} (hs : s.toList = [sep]) (words : List String) :
    (s.intercalate words).toList = Text.joinWith sep (words.map String.toList) := by
  rw [String.toList_intercalate, hs]
  induction words.map String.toList with
  | nil => rfl
  | cons piece pieces ih =>
    cases pieces with
    | nil => exact List.intercalate_singleton
    | cons piece' pieces =>
      rw [List.intercalate_cons_cons, ih]
      simp [Text.joinWith]

/-- Words without blanks are the pieces of the text that they are joined to. -/
lemma fieldsOf_intercalate {words : List String} (hne : words ≠ [])
    (h : ∀ w ∈ words, ' ' ∉ w.toList) :
    Text.fieldsOf ' ' (" ".intercalate words).toList = words.map String.toList := by
  rw [toList_intercalate ' ' rfl, Text.fieldsOf_joinWith (by simpa using hne)]
  intro piece hpiece
  obtain ⟨w, hw, rfl⟩ := List.mem_map.mp hpiece
  exact h w hw

/-- Arguments that are joined from safe words are plain. -/
theorem isPlain_intercalate {words : List String} (hne : words ≠ [])
    (h : ∀ w ∈ words, IsSafe w) : IsPlain (" ".intercalate words) := by
  intro piece hpiece
  rw [fieldsOf_intercalate hne fun w hw => (h w hw).blank_notMem] at hpiece
  obtain ⟨w, hw, rfl⟩ := List.mem_map.mp hpiece
  refine ⟨fun hnil => (h w hw).1 (String.toList_injective hnil), (h w hw).2⟩

/-- Plain arguments hold no character but blanks and safe ones. -/
lemma IsPlain.notMem_of_not_isSafeChar {arguments : String} (h : IsPlain arguments) {c : Char}
    (hc : ¬ isSafeChar c) (hblank : c ≠ ' ') : c ∉ arguments.toList := by
  have hall : ∀ d ∈ arguments.toList, isSafeChar d ∨ d = ' ' :=
    Text.forall_mem_of_fieldsOf ' ' (.inr rfl) fun piece hpiece d hd =>
      .inl ((h piece hpiece).2 d hd)
  intro hmem
  rcases hall c hmem with hsafe | hblank'
  · exact hc hsafe
  · exact hblank hblank'

/-! ## What a shell does with a line -/

/-- The characters with which a shell does something else than to put them into a word: they quote,
expand, begin a comment, or end the command. -/
def specials : List Char := "|&;<>()$`\\\"'*?[]#~=\x7b\x7d\n".toList

/-- Ends the word of which something has been read. -/
def endWord (word : List Char) (words : List String) : List String :=
  if word = [] then words else String.ofList word :: words

/-- The words in the rest of a line, of which a first one has been read in part. -/
def readWords (word : List Char) : List Char → Option (List String)
  | [] => some (endWord word [])
  | c :: cs =>
    if c = ' ' ∨ c = '\t' then (readWords [] cs).map (endWord word)
    else if c ∈ specials then none
    else readWords (word ++ [c]) cs

/-- The words that a shell makes of a line, as long as it does nothing else with it.  A lone `!`
means something at the beginning of a line only. -/
def words? (line : String) : Option (List String) := readWords [] line.toList

/-- Safe characters go into the word. -/
lemma readWords_append {cs : List Char} (h : ∀ c ∈ cs, isSafeChar c) (word rest : List Char) :
    readWords word (cs ++ rest) = readWords (word ++ cs) rest := by
  induction cs generalizing word with
  | nil => rw [List.nil_append, List.append_nil]
  | cons c cs ih =>
    rw [List.forall_mem_cons] at h
    -- No safe character separates words or means something else.
    have hunsafe : ∀ d ∈ [' ', '\t'] ++ specials, ¬ isSafeChar d := by
      have hall : ([' ', '\t'] ++ specials).all fun d => ¬ isSafeChar d := by decide +kernel
      exact fun d hd => of_decide_eq_true (List.all_eq_true.mp hall d hd)
    have hblank : ¬ (c = ' ' ∨ c = '\t') := by
      rintro (rfl | rfl)
      · exact hunsafe ' ' (by simp) h.1
      · exact hunsafe '\t' (by simp) h.1
    have hspecial : c ∉ specials := fun hmem =>
      hunsafe c (List.mem_append_right _ hmem) h.1
    rw [List.cons_append, readWords, if_neg hblank, if_neg hspecial, ih h.2, List.append_assoc,
      List.singleton_append]

/-- Safe words that are joined with blanks are the words that a shell makes of the line. -/
theorem words?_intercalate {words : List String} (h : ∀ w ∈ words, IsSafe w) :
    words? (" ".intercalate words) = some words := by
  -- A safe word is not empty, so a shell ends it where it sees the next blank.
  have hword : ∀ w : String, IsSafe w → ∀ ws, endWord w.toList ws = w :: ws := by
    intro w hw ws
    have hne : w.toList ≠ [] := fun hnil => hw.1 (String.toList_injective hnil)
    rw [endWord, if_neg hne, String.ofList_toList]
  induction words with
  | nil => rfl
  | cons w words ih =>
    rw [List.forall_mem_cons] at h
    cases words with
    | nil =>
      have hread := readWords_append h.1.2 [] []
      rw [List.append_nil, List.nil_append] at hread
      rw [String.intercalate_singleton, words?, hread, readWords, hword w h.1]
    | cons w' words =>
      have hlist : (" ".intercalate (w :: w' :: words)).toList =
          w.toList ++ ' ' :: (" ".intercalate (w' :: words)).toList := by
        rw [String.intercalate_cons_cons]
        simp
      have hrest : readWords [] (" ".intercalate (w' :: words)).toList = some (w' :: words) :=
        ih h.2
      rw [words?, hlist, readWords_append h.1.2, List.nil_append, readWords, if_pos (.inl rfl),
        hrest, Option.map_some, hword w h.1]

end FirewallPolicy.Shell
