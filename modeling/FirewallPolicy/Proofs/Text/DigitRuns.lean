import FirewallPolicy.Text.Numeral
import Mathlib.Algebra.Group.Nat.Defs
import Mathlib.Data.List.Basic
import Mathlib.Data.List.TakeWhile
import Mathlib.Tactic.Common

/-!
# Runs of digits and the numbers that they are read to

A text of digits in the wide sense is taken for a number.  It is read to one just where every
character is a decimal digit and there are not too many of them.

* `IsNumeral`: texts of decimal digits within the limit.
* `readInt_of_isNumeral`: they are read, to numbers that can be written again.
* `readInt_of_not_isNumeral`: no other text of digits is read.
* `isWritable_of_readInt`: whatever a text is read to can be written again.
-/

namespace FirewallPolicy.Text

variable {c : Char} {cs : List Char}

/-! ## Digits -/

lemma decimalDigit?_lt {d : Nat} (h : decimalDigit? c = some d) : d < 10 := by
  obtain ⟨z, hz, rfl⟩ := Option.map_eq_some_iff.mp h
  have hrange := List.find?_some hz
  simp only [Bool.and_eq_true, decide_eq_true_eq] at hrange
  omega

lemma numeralDigit?_lt {base d : Nat} (h : numeralDigit? base c = some d) : d < base := by
  rw [numeralDigit?, Option.filter_eq_some_iff] at h
  exact of_decide_eq_true h.2

/-- No digit is a blank: the two tables have no code point in common. -/
lemma not_isBlank_of_isDigitLike (h : isDigitLike c) : ¬ isBlank c := by
  have hzeros : ∀ z ∈ zeros, ∀ run ∈ blanks, run.2 < z ∨ z + 9 < run.1 := by
    decide +kernel
  have hlikes : ∀ like ∈ digitLikes, ∀ run ∈ blanks, run.2 < like.1 ∨ like.2 < run.1 := by
    decide +kernel
  intro hblank
  obtain ⟨run, hrun, hin⟩ := List.any_eq_true.mp hblank
  simp only [Bool.and_eq_true, decide_eq_true_eq] at hin
  rw [isDigitLike, Bool.or_eq_true] at h
  rcases h with hdecimal | hlike
  · obtain ⟨d, hd⟩ := Option.isSome_iff_exists.mp hdecimal
    obtain ⟨z, hz, -⟩ := Option.map_eq_some_iff.mp hd
    have hrange := List.find?_some hz
    have hapart := hzeros z (List.mem_of_find?_eq_some hz) run hrun
    simp only [Bool.and_eq_true, decide_eq_true_eq] at hrange
    omega
  · obtain ⟨like, hlike, hrange⟩ := List.any_eq_true.mp hlike
    have hapart := hlikes like hlike run hrun
    simp only [Bool.and_eq_true, decide_eq_true_eq] at hrange
    omega

lemma not_isNumeralBlank_of_isDigitLike (h : isDigitLike c) : isNumeralBlank c = false := by
  have hblank := not_isBlank_of_isDigitLike h
  rw [Bool.not_eq_true] at hblank
  rw [isNumeralBlank, hblank, Bool.false_and]

/-- A character beyond the ASCII letters is no ASCII digit in any base. -/
lemma asciiDigit?_eq_none (h : 'z'.toNat < c.toNat) : asciiDigit? c = none := by
  have hbelow : ∀ d : Char, d.toNat ≤ 'z'.toNat → ¬ c ≤ d := by
    intro d hd hle
    have hnat : c.toNat ≤ d.toNat := UInt32.le_iff_toNat_le.mp hle
    omega
  unfold asciiDigit?
  rw [if_neg fun hin => hbelow '9' (by decide) hin.2,
    if_neg fun hin => hbelow 'z' (Nat.le_refl _) hin.2,
    if_neg fun hin => hbelow 'Z' (by decide) hin.2]

/-- A digit without a place value is no digit of a numeral. -/
lemma numeralDigit?_eq_decimalDigit? (h : isDigitLike c) :
    numeralDigit? 10 c = decimalDigit? c := by
  unfold numeralDigit?
  cases hdecimal : decimalDigit? c with
  | some d =>
    have hlt := decimalDigit?_lt hdecimal
    simp [Option.filter, hlt]
  | none =>
    have hlikes : ∀ like ∈ digitLikes, 'z'.toNat < like.1 := by decide +kernel
    have hlike : digitLikes.contains c = true := by simpa [isDigitLike, hdecimal] using h
    obtain ⟨like, hlike, hrange⟩ := List.any_eq_true.mp hlike
    have hbeyond := hlikes like hlike
    simp only [Bool.and_eq_true, decide_eq_true_eq] at hrange
    rw [asciiDigit?_eq_none (by omega)]
    rfl

/-! ## Numbers -/

/-- Digits of a base denote a number with as many places at most. -/
lemma ofDigits_lt {base : Nat} {digits : List Nat} (h : ∀ d ∈ digits, d < base) :
    ofDigits base digits < base ^ digits.length := by
  -- The digits read so far are put behind the number that they make.
  have hfold : ∀ (digits : List Nat) (n k : Nat), n < base ^ k → (∀ d ∈ digits, d < base) →
      digits.foldl (fun n d => n * base + d) n < base ^ (k + digits.length) := by
    intro digits
    induction digits with
    | nil => exact fun n k hn _ => hn
    | cons d digits ih =>
      intro n k hn hdigits
      rw [List.forall_mem_cons] at hdigits
      have hnext : n * base + d < base ^ (k + 1) := by
        rw [Nat.pow_succ]
        have hmul : (n + 1) * base ≤ base ^ k * base := Nat.mul_le_mul_right base hn
        rw [Nat.add_mul, Nat.one_mul] at hmul
        omega
      have hrest := ih (n * base + d) (k + 1) hnext hdigits.2
      rw [List.foldl_cons, List.length_cons, Nat.add_comm digits.length 1, ← Nat.add_assoc]
      exact hrest
  have hall := hfold digits 0 0 (by simp) h
  rwa [Nat.zero_add] at hall

/-! ## Reading -/

/-- Whether a character is a decimal digit of some script. -/
def isDecimal (c : Char) : Bool := (decimalDigit? c).isSome

/-- A text of decimal digits of any script, as many as a numeral may have. -/
def IsNumeral (cs : List Char) : Prop := (∀ c ∈ cs, isDecimal c) ∧ cs.length ≤ numeralLimit

/-- What is no sign and no marker stands at the front of a text of digits. -/
lemma body_of_isDigitLike (h : ∀ c ∈ cs, isDigitLike c) :
    splitSign (cs.dropWhile isNumeralBlank) = (false, cs) ∧ dropBaseMark 10 cs = cs := by
  have hmark : dropBaseMark 10 cs = cs := by
    unfold dropBaseMark
    split
    · simp
    · rfl
  refine ⟨?_, hmark⟩
  cases cs with
  | nil => rfl
  | cons c cs =>
    rw [List.forall_mem_cons] at h
    rw [List.dropWhile_cons_of_neg (by simp [not_isNumeralBlank_of_isDigitLike h.1])]
    unfold splitSign
    split
    · rename_i heq
      rw [(List.cons.inj heq).1] at h
      exact absurd h.1 (by decide +kernel)
    · rename_i heq
      rw [(List.cons.inj heq).1] at h
      exact absurd h.1 (by decide +kernel)
    · rfl

/-- Decimal digits have no low lines between them. -/
lemma lowLinesBetween_of_isDecimal (hne : cs ≠ []) (h : ∀ c ∈ cs, isDecimal c) :
    cs.head? ≠ some '_' ∧ lowLinesBetween cs = true := by
  have hline : isDecimal '_' = false := by decide +kernel
  induction cs with
  | nil => exact absurd rfl hne
  | cons c cs ih =>
    rw [List.forall_mem_cons] at h
    have hc : c ≠ '_' := by
      rintro rfl
      exact Bool.false_ne_true (hline.symm.trans h.1)
    refine ⟨by simpa using hc, ?_⟩
    cases cs with
    | nil =>
      unfold lowLinesBetween
      split <;> simp_all
    | cons c' cs =>
      have hrest := (ih (List.cons_ne_nil c' cs) h.2).2
      unfold lowLinesBetween
      split <;> simp_all

/-- Among digits, the characters of a numeral are the decimal ones. -/
lemma isNumeralChar_eq (h : isDigitLike c) :
    (c == '_' || (numeralDigit? 10 c).isSome) = isDecimal c := by
  have hline : isDigitLike '_' = false := by decide +kernel
  have hc : (c == '_') = false := by
    rw [beq_eq_false_iff_ne]
    rintro rfl
    exact Bool.false_ne_true (hline.symm.trans h)
  rw [hc, Bool.false_or, numeralDigit?_eq_decimalDigit? h, isDecimal]

/-- How a text of digits is read: by the decimal digits in front, if nothing follows them. -/
lemma readInt_of_append {s : String} {run rest : List Char} (hs : s.toList = run ++ rest)
    (hlikes : ∀ c ∈ s.toList, isDigitLike c) (hrun : ∀ c ∈ run, isDecimal c)
    (hhead : rest = [] ∨ ∃ c cs, rest = c :: cs ∧ isDecimal c = false) :
    readInt s =
      if run = [] then .error (.malformed 10 s)
      else if numeralLimit < run.length then .error (.tooManyDigits run.length)
      else if rest ≠ [] then .error (.malformed 10 s)
      else .ok (ofDigits 10 (run.filterMap decimalDigit?)) := by
  obtain ⟨hbody, hmark⟩ := body_of_isDigitLike hlikes
  rw [hs, List.forall_mem_append] at hlikes
  have hrunChars : ∀ c ∈ run, (c == '_' || (numeralDigit? 10 c).isSome) = true := by
    intro c hc
    rw [isNumeralChar_eq (hlikes.1 c hc)]
    exact hrun c hc
  have hcut : rest.takeWhile (fun c => c == '_' || (numeralDigit? 10 c).isSome) = [] ∧
      rest.dropWhile (fun c => c == '_' || (numeralDigit? 10 c).isSome) = rest := by
    rcases hhead with rfl | ⟨c, cs, rfl, hc⟩
    · exact ⟨rfl, rfl⟩
    · rw [← isNumeralChar_eq (hlikes.2 c List.mem_cons_self)] at hc
      exact ⟨by rw [List.takeWhile_cons, if_neg (by rw [hc]; exact Bool.false_ne_true)],
        by rw [List.dropWhile_cons, if_neg (by rw [hc]; exact Bool.false_ne_true)]⟩
  have hdigits : run.filterMap (numeralDigit? 10) = run.filterMap decimalDigit? :=
    List.filterMap_congr fun c hc => numeralDigit?_eq_decimalDigit? (hlikes.1 c hc)
  have hlength : (run.filterMap decimalDigit?).length = run.length :=
    List.filterMap_length_eq_length.mpr hrun
  have hblanks : rest.all isNumeralBlank = rest.isEmpty := by
    rcases hhead with rfl | ⟨c, cs, rfl, -⟩
    · rfl
    · rw [List.all_cons, not_isNumeralBlank_of_isDigitLike (hlikes.2 c List.mem_cons_self)]
      rfl
  unfold readInt readIntIn
  rw [hbody]
  simp only [hmark]
  simp only [hs, List.takeWhile_append_of_pos hrunChars, List.dropWhile_append_of_pos hrunChars,
    hcut.1, hcut.2, List.append_nil, hdigits, hlength, hblanks]
  rcases Classical.em (run = []) with rfl | hne
  · rfl
  · obtain ⟨hfirst, hlines⟩ := lowLinesBetween_of_isDecimal hne hrun
    simp [hfirst, hlines, hne]

/-- Numbers of few enough digits can be written. -/
lemma isWritable_of_natAbs_lt {n : Int} {k : Nat} (h : n.natAbs < 10 ^ k)
    (hk : k ≤ numeralLimit) : isWritable n := by
  -- The limit is kept out of the powers, so that the larger one is never computed.
  have hpow : ∀ limit, k ≤ limit → 10 ^ k ≤ Nat.pow 10 limit :=
    fun limit hlimit => Nat.pow_le_pow_right (by decide) hlimit
  rw [isWritable, decide_eq_true_eq]
  exact Nat.lt_of_lt_of_le h (hpow _ hk)

/-- A numeral is read to a number that can be written again. -/
theorem readInt_of_isNumeral {s : String} (hne : s.toList ≠ []) (h : IsNumeral s.toList) :
    ∃ n : Nat, readInt s = .ok n ∧ isWritable n := by
  obtain ⟨hdecimal, hlimit⟩ := h
  have hlikes : ∀ c ∈ s.toList, isDigitLike c := by
    intro c hc
    have hc' : (decimalDigit? c).isSome = true := hdecimal c hc
    rw [isDigitLike, hc', Bool.true_or]
  have hread := readInt_of_append (List.append_nil _).symm hlikes hdecimal (.inl rfl)
  rw [if_neg hne, if_neg (by omega), if_neg (by simp)] at hread
  refine ⟨_, hread, ?_⟩
  have hdigits : ∀ d ∈ s.toList.filterMap decimalDigit?, d < 10 := by
    intro d hd
    obtain ⟨c, -, hc⟩ := List.mem_filterMap.mp hd
    exact decimalDigit?_lt hc
  have hlt := ofDigits_lt hdigits
  have hlength : (s.toList.filterMap decimalDigit?).length ≤ numeralLimit :=
    (List.length_filterMap_le _ _).trans hlimit
  exact isWritable_of_natAbs_lt hlt hlength

/-- A text of digits that is no numeral is not read. -/
theorem readInt_of_not_isNumeral {s : String} (h : isDigitRun s) (hnot : ¬ IsNumeral s.toList) :
    ∃ cause, readInt s = .error cause := by
  rw [isDigitRun, Bool.and_eq_true, List.all_eq_true] at h
  set run := s.toList.takeWhile isDecimal with hrun
  set rest := s.toList.dropWhile isDecimal with hrest
  have hs : s.toList = run ++ rest := List.takeWhile_append_dropWhile.symm
  have hdecimal : ∀ c ∈ run, isDecimal c := fun c hc => List.mem_takeWhile_imp hc
  have hhead : rest = [] ∨ ∃ c cs, rest = c :: cs ∧ isDecimal c = false := by
    cases hcut : rest with
    | nil => exact .inl rfl
    | cons c cs =>
      have hfirst : isDecimal (rest.head (by rw [hcut]; exact List.cons_ne_nil c cs)) = false :=
        List.head_dropWhile_not isDecimal _
      simp only [hcut, List.head_cons] at hfirst
      exact .inr ⟨c, cs, rfl, hfirst⟩
  rw [readInt_of_append hs h.2 hdecimal hhead]
  split_ifs with hempty hlong hrest'
  · exact ⟨_, rfl⟩
  · exact ⟨_, rfl⟩
  · exact ⟨_, rfl⟩
  · -- Without other characters and within the limit the text is a numeral.
    rw [not_not] at hrest'
    rw [hrest', List.append_nil] at hs
    refine absurd ⟨?_, ?_⟩ hnot
    · rw [hs]
      exact hdecimal
    · rw [hs]
      exact Nat.le_of_not_lt hlong

/-- A number that was read can be written again. -/
theorem isWritable_of_readInt {s : String} {k : Int} (h : readInt s = .ok k) : isWritable k := by
  unfold readInt readIntIn at h
  simp only at h
  generalize hbody : dropBaseMark 10 (splitSign (s.toList.dropWhile isNumeralBlank)).2 = body at h
  generalize hrun : body.takeWhile (fun c => c == '_' || (numeralDigit? 10 c).isSome) = run at h
  have hdigits : ∀ d ∈ run.filterMap (numeralDigit? 10), d < 10 := by
    intro d hd
    obtain ⟨c, -, hc⟩ := List.mem_filterMap.mp hd
    exact numeralDigit?_lt hc
  have hlt := ofDigits_lt hdigits
  split_ifs at h with hlines hlong hrest hneg
  all_goals
    have hfew : (run.filterMap (numeralDigit? 10)).length ≤ numeralLimit :=
      Nat.le_of_not_lt fun hmany => hlong ⟨hmany, trivial⟩
    cases h
  · exact isWritable_of_natAbs_lt (by rwa [Int.natAbs_neg, Int.natAbs_natCast]) hfew
  · exact isWritable_of_natAbs_lt (by rwa [Int.natAbs_natCast]) hfew

end FirewallPolicy.Text
