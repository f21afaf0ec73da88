import FirewallPolicy.Proofs.Address.Notation
import FirewallPolicy.Proofs.Text.DigitRuns
import FirewallPolicy.Proofs.Text.Trimmed

/-!
# Written numbers

A whole number is read from its decimal text, and this text has no blanks around it.

* `readInt_decimalText`: reading gives back the number that was written.
* `isTrimmed_decimalText`: trimming leaves the text of a number alone.
-/

namespace FirewallPolicy.Text

open FirewallPolicy.Address (valueOf_toDigits isAsciiDigit_of_mem_toDigits)

variable {c : Char} {cs : List Char} {n : Nat} {k : Int}

/-! ## Digits -/

/-- An ASCII digit counts the same, whatever scripts are looked at. -/
lemma decimalDigit?_of_isAsciiDigit (h : isAsciiDigit c) :
    decimalDigit? c = asciiDigit? c ∧ isDecimal c := by
  have hrange : '0' ≤ c ∧ c ≤ '9' := by simpa [isAsciiDigit] using h
  have hbounds : 48 ≤ c.toNat ∧ c.toNat ≤ 57 := hrange
  have hdecimal : decimalDigit? c = some (c.toNat - 48) := by
    have hzeros : zeros = 0x30 :: zeros.tail := rfl
    rw [decimalDigit?, hzeros, List.find?_cons_of_pos]
    · rfl
    · simp only [Bool.and_eq_true, decide_eq_true_eq]
      omega
  refine ⟨?_, by rw [isDecimal, hdecimal]; rfl⟩
  rw [hdecimal, asciiDigit?, if_pos hrange]
  rfl

lemma isDecimal_of_mem_toDigits (h : c ∈ Nat.toDigits 10 n) : isDecimal c :=
  (decimalDigit?_of_isAsciiDigit (isAsciiDigit_of_mem_toDigits h)).2

lemma isDigitLike_of_isDecimal (h : isDecimal c) : isDigitLike c := by
  have hdecimal : (decimalDigit? c).isSome = true := h
  rw [isDigitLike, hdecimal, Bool.true_or]

lemma ofDigits_toDigits (n : Nat) :
    ofDigits 10 ((Nat.toDigits 10 n).filterMap decimalDigit?) = n := by
  have hdigits : (Nat.toDigits 10 n).filterMap decimalDigit? =
      (Nat.toDigits 10 n).filterMap asciiDigit? :=
    List.filterMap_congr fun c hc =>
      (decimalDigit?_of_isAsciiDigit (isAsciiDigit_of_mem_toDigits hc)).1
  rw [hdigits]
  exact valueOf_toDigits n

/-- The digits of a number, with a minus before those of a negative one. -/
lemma toList_decimalText (k : Int) :
    (decimalText k).toList = (if k < 0 then ['-'] else []) ++ Nat.toDigits 10 k.natAbs := by
  cases k with
  | ofNat n =>
    have htext : (decimalText (Int.ofNat n)).toList = Nat.toDigits 10 n := by
      show (toString n).toList = _
      simp
    have hpos : ¬ Int.ofNat n < 0 := Int.not_lt.mpr (Int.natCast_nonneg n)
    rw [htext, if_neg hpos]
    rfl
  | negSucc n =>
    have htext : (decimalText (Int.negSucc n)).toList = '-' :: Nat.toDigits 10 (n + 1) := by
      show ("-" ++ toString (n + 1)).toList = _
      simp
    rw [htext, if_pos (Int.negSucc_lt_zero n)]
    rfl

/-! ## Reading -/

/-- A minus before digits makes their number negative. -/
lemma readInt_minus (hdigits : ∀ c ∈ cs, isDigitLike c)
    (h : readInt (String.ofList cs) = .ok k) : readInt (String.ofList ('-' :: cs)) = .ok (-k) := by
  obtain ⟨hbody, hmark⟩ := body_of_isDigitLike hdigits
  have hminus : splitSign (('-' :: cs).dropWhile isNumeralBlank) = (true, cs) := by
    rw [List.dropWhile_cons_of_neg (by decide)]
    rfl
  unfold readInt readIntIn at h ⊢
  simp only [String.toList_ofList, hbody, hminus, hmark, Bool.false_eq_true, if_false,
    if_true] at h ⊢
  split_ifs at h ⊢
  cases h
  rfl

/-- The digits of a number are read to the number, if there are not too many. -/
lemma readInt_toDigits (h : (Nat.toDigits 10 n).length ≤ numeralLimit) :
    readInt (String.ofList (Nat.toDigits 10 n)) = .ok n := by
  have hdecimal : ∀ c ∈ Nat.toDigits 10 n, isDecimal c := fun c => isDecimal_of_mem_toDigits
  have htext : (String.ofList (Nat.toDigits 10 n)).toList = Nat.toDigits 10 n ++ [] := by simp
  have hlikes : ∀ c ∈ (String.ofList (Nat.toDigits 10 n)).toList, isDigitLike c := fun c hc =>
    isDigitLike_of_isDecimal (hdecimal c (by simpa using hc))
  have hread := readInt_of_append htext hlikes hdecimal (.inl rfl)
  rwa [if_neg Nat.toDigits_ne_nil, if_neg (by omega), if_neg (by simp), ofDigits_toDigits] at hread

/-- A number that can be written is read as it was written. -/
theorem readInt_decimalText (h : isWritable k) : readInt (decimalText k) = .ok k := by
  have hlimit : ∀ limit, 0 < limit → k.natAbs < Nat.pow 10 limit →
      (Nat.toDigits 10 k.natAbs).length ≤ limit := fun limit hpos hlt =>
    (Nat.length_toDigits_le_iff (by decide) hpos).mpr hlt
  have hread := readInt_toDigits (hlimit numeralLimit (by decide) (of_decide_eq_true h))
  have htext := congrArg String.ofList (toList_decimalText k)
  rw [String.ofList_toList] at htext
  rw [htext]
  split
  · rename_i hneg
    have hlikes : ∀ c ∈ Nat.toDigits 10 k.natAbs, isDigitLike c := fun c hc =>
      isDigitLike_of_isDecimal (isDecimal_of_mem_toDigits hc)
    rw [List.singleton_append, readInt_minus hlikes hread,
      Int.ofNat_natAbs_of_nonpos (Int.le_of_lt hneg), Int.neg_neg]
  · rename_i hpos
    rw [List.nil_append, hread, Int.natAbs_of_nonneg (Int.not_lt.mp hpos)]

/-! ## Lengths and blanks -/

/-- A number of some digits has at most one more character, for its sign. -/
lemma length_decimalText_le {m : Nat} (hm : 0 < m) (h : k.natAbs < 10 ^ m) :
    (decimalText k).toList.length ≤ m + 1 := by
  have hdigits := (Nat.length_toDigits_le_iff (by decide) hm).mpr h
  rw [toList_decimalText, List.length_append]
  split_ifs <;> simp only [List.length_singleton, List.length_nil] <;> omega

/-- No blank stands in the text of a number. -/
lemma isBlank_of_mem_decimalText (h : c ∈ (decimalText k).toList) : isBlank c = false := by
  rw [toList_decimalText, List.mem_append] at h
  rcases h with h | h
  · split at h
    · rw [List.mem_singleton.mp h]
      rfl
    · cases h
  · have hlike := isDigitLike_of_isDecimal (isDecimal_of_mem_toDigits h)
    simpa using not_isBlank_of_isDigitLike hlike

lemma isTrimmed_decimalText (k : Int) : IsTrimmed (decimalText k).toList :=
  isTrimmed_of_forall fun _ => isBlank_of_mem_decimalText

end FirewallPolicy.Text
