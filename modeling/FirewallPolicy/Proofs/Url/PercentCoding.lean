import FirewallPolicy.Proofs.Text.Encoded
import FirewallPolicy.Url.Percent
import Mathlib.Data.List.Basic
import Mathlib.Data.List.TakeWhile
import Mathlib.Tactic.Common

/-!
# What is percent coded is read back

* `decode_code`, `decodeQuery_codeQuery`: a coded text is read back, outside a query and inside one.
* `mem_code`, `mem_codeQuery`: the characters of a coded text.
* `decode_ne_nil`: only the empty text is read to nothing.
-/

namespace FirewallPolicy.Url

open FirewallPolicy.Text

variable {c : Char} {cs safe : List Char}

/-! ## Bytes -/

/-- The digits of a byte are read back. -/
lemma digitBelow?_upperHexDigit {n : Nat} (h : n < 16) :
    digitBelow? 16 (upperHexDigit n) = some n := by
  have hall : ∀ n < 16, digitBelow? 16 (upperHexDigit n) = some n := by decide
  exact hall n h

lemma isUnreserved_upperHexDigit {n : Nat} (h : n < 16) : isUnreserved (upperHexDigit n) := by
  have hall : ∀ n < 16, isUnreserved (upperHexDigit n) := by decide
  exact hall n h

/-- A coded byte is read back, whatever stands behind it. -/
lemma decodeRun_codeByte (b : UInt8) (rest : List Char) :
    decodeRun (codeByte b ++ rest) = b :: decodeRun rest := by
  have hb : b.toNat < 256 := b.toNat_lt
  have hbyte : UInt8.ofNat (b.toNat / 16 * 16 + b.toNat % 16) = b := by
    rw [Nat.div_add_mod', UInt8.ofNat_toNat]
  have hcoded : codedByte? (upperHexDigit (b.toNat / 16) :: upperHexDigit (b.toNat % 16) :: rest) =
      some b := by
    rw [codedByte?, digitBelow?_upperHexDigit (by omega), digitBelow?_upperHexDigit (by omega)]
    exact congrArg some hbyte
  rw [codeByte, List.cons_append, List.cons_append, List.singleton_append, decodeRun, hcoded]
  rfl

lemma decodeRun_flatMap_codeByte (bytes : List UInt8) (rest : List Char) :
    decodeRun (bytes.flatMap codeByte ++ rest) = bytes ++ decodeRun rest := by
  induction bytes with
  | nil => rfl
  | cons b bytes ih =>
    rw [List.flatMap_cons, List.append_assoc, decodeRun_codeByte, ih, List.cons_append]

/-- A character that is no percent sign stands for its own byte. -/
lemma decodeRun_cons (h : c ≠ '%') (rest : List Char) :
    decodeRun (c :: rest) = UInt8.ofNat c.toNat :: decodeRun rest := by
  rw [decodeRun]
  exact h

/-! ## Characters -/

/-- What may be left alone besides the unreserved characters: any ASCII but the percent sign. -/
def IsSafeSet (safe : List Char) : Prop := ∀ c ∈ safe, isAscii c ∧ c ≠ '%'

instance (safe : List Char) : Decidable (IsSafeSet safe) :=
  decidable_of_iff (safe.all fun c => isAscii c && c != '%') (by simp [IsSafeSet])

lemma isAscii_of_isUnreserved (h : isUnreserved c) : isAscii c := by
  have hbelow : ∀ d : Char, d.toNat < 0x80 → c ≤ d → isAscii c := by
    intro d hd hle
    have hnat : c.toNat ≤ d.toNat := UInt32.le_iff_toNat_le.mp hle
    rw [isAscii, decide_eq_true_eq]
    omega
  simp only [isUnreserved, Bool.or_eq_true, beq_iff_eq] at h
  rcases h with (((h | rfl) | rfl) | rfl) | rfl
  · unfold asciiDigit? at h
    split_ifs at h with hdigit hlower hupper
    · exact hbelow '9' (by decide) hdigit.2
    · exact hbelow 'z' (by decide) hlower.2
    · exact hbelow 'Z' (by decide) hupper.2
    · cases h
  all_goals rfl

/-- A character left alone is ASCII and no percent sign. -/
lemma isAscii_of_isKept (hsafe : IsSafeSet safe) (h : isUnreserved c || safe.contains c) :
    isAscii c ∧ c ≠ '%' := by
  rw [Bool.or_eq_true, List.contains_iff_mem] at h
  rcases h with h | h
  · refine ⟨isAscii_of_isUnreserved h, ?_⟩
    rintro rfl
    exact absurd h (by decide)
  · exact hsafe c h

lemma encodeChar_of_isAscii (h : isAscii c) : encodeChar c = [UInt8.ofNat c.toNat] := by
  rw [isAscii, decide_eq_true_eq] at h
  rw [encodeChar, if_pos h]

/-- A coded character stands for its bytes, whatever stands behind it. -/
lemma decodeRun_codeChar (hsafe : IsSafeSet safe) (c : Char) (rest : List Char) :
    decodeRun (codeChar safe c ++ rest) = encodeChar c ++ decodeRun rest := by
  rw [codeChar]
  split_ifs with hkept
  · obtain ⟨hascii, hpercent⟩ := isAscii_of_isKept hsafe hkept
    rw [List.singleton_append, decodeRun_cons hpercent, encodeChar_of_isAscii hascii,
      List.singleton_append]
  · exact decodeRun_flatMap_codeByte _ rest

/-- The characters that coded bytes are made of. -/
lemma mem_codeByte {b : UInt8} (h : c ∈ codeByte b) : isUnreserved c ∨ c = '%' := by
  have hb : b.toNat < 256 := b.toNat_lt
  simp only [codeByte, List.mem_cons, List.not_mem_nil, or_false] at h
  rcases h with rfl | rfl | rfl
  · exact .inr rfl
  · exact .inl (isUnreserved_upperHexDigit (by omega))
  · exact .inl (isUnreserved_upperHexDigit (by omega))

lemma mem_codeChar {d : Char} (h : c ∈ codeChar safe d) :
    isUnreserved c ∨ c ∈ safe ∨ c = '%' := by
  rw [codeChar] at h
  split_ifs at h with hkept
  · rw [Bool.or_eq_true, List.contains_iff_mem] at hkept
    rw [List.mem_singleton.mp h]
    rcases hkept with hkept | hkept
    · exact .inl hkept
    · exact .inr (.inl hkept)
  · obtain ⟨b, -, hb⟩ := List.mem_flatMap.mp h
    rcases mem_codeByte hb with hc | hc
    · exact .inl hc
    · exact .inr (.inr hc)

/-! ## Texts -/

/-- The characters of a coded text. -/
lemma mem_code (h : c ∈ code safe cs) : isUnreserved c ∨ c ∈ safe ∨ c = '%' := by
  obtain ⟨d, -, hd⟩ := List.mem_flatMap.mp h
  exact mem_codeChar hd

/-- A character that is coded wherever it stands is not found in a coded text. -/
lemma notMem_code (hunreserved : isUnreserved c = false) (hsafe : c ∉ safe) (hpercent : c ≠ '%') :
    c ∉ code safe cs := by
  intro hmem
  rcases mem_code hmem with h | h | h
  · rw [hunreserved] at h
    cases h
  · exact hsafe h
  · exact hpercent h

/-- A text of ASCII characters is read as one run. -/
lemma decode_of_isAscii (h : ∀ c ∈ cs, isAscii c) : decode cs = decodeLossy (decodeRun cs) := by
  cases cs with
  | nil => simp [decode, decodeRun, decodeLossy]
  | cons c rest =>
    rw [List.forall_mem_cons] at h
    have htake : rest.takeWhile isAscii = rest := List.takeWhile_eq_self_iff.mpr h.2
    have hdrop : rest.dropWhile isAscii = [] := List.dropWhile_eq_nil_iff.mpr h.2
    rw [decode, if_pos h.1, htake, hdrop, decode, List.append_nil]

/-- A coded text stands for the bytes of the text. -/
lemma decodeRun_code (hsafe : IsSafeSet safe) (cs : List Char) :
    decodeRun (code safe cs) = encodeUtf8 cs := by
  induction cs with
  | nil => rw [code, encodeUtf8, List.flatMap_nil, List.flatMap_nil, decodeRun]
  | cons c cs ih =>
    rw [code, List.flatMap_cons, ← code, decodeRun_codeChar hsafe, ih, encodeUtf8, encodeUtf8,
      List.flatMap_cons]

/-- A coded text is read back. -/
theorem decode_code (hsafe : IsSafeSet safe) (cs : List Char) : decode (code safe cs) = cs := by
  have hascii : ∀ c ∈ code safe cs, isAscii c := by
    intro c hc
    rcases mem_code hc with h | h | rfl
    · exact isAscii_of_isUnreserved h
    · exact (hsafe c h).1
    · rfl
  rw [decode_of_isAscii hascii, decodeRun_code hsafe, decodeLossy_encodeUtf8]

/-! ## Inside a query -/

/-- But for the blanks, a text is coded inside a query as it is elsewhere. -/
lemma map_codeQuery (cs : List Char) :
    (codeQuery cs).map (fun c => if c = '+' then ' ' else c) = code [' '] cs := by
  rw [codeQuery, code, List.map_flatMap]
  refine List.flatMap_congr fun c _ => ?_
  by_cases hblank : c = ' '
  · rw [hblank]
    rfl
  · have hkept : [' '].contains c = false := by simpa using hblank
    have hplus : ∀ d ∈ codeChar [] c, (if d = '+' then ' ' else d) = d := by
      intro d hd
      refine if_neg ?_
      rintro rfl
      rcases mem_codeChar hd with h | h | h
      · exact absurd h (by decide)
      · cases h
      · exact absurd h (by decide)
    rw [if_neg hblank, List.map_congr_left hplus, List.map_id', codeChar, codeChar, hkept]
    rfl

/-- A text coded inside a query is read back. -/
theorem decodeQuery_codeQuery (cs : List Char) : decodeQuery (codeQuery cs) = cs := by
  rw [decodeQuery, map_codeQuery, decode_code (by decide)]

lemma codeQuery_ne_nil (h : cs ≠ []) : codeQuery cs ≠ [] := by
  intro hnil
  have hread := decodeQuery_codeQuery cs
  rw [hnil, decodeQuery, List.map_nil, decode] at hread
  exact h hread.symm

/-- The characters of a text coded inside a query. -/
lemma mem_codeQuery (h : c ∈ codeQuery cs) : isUnreserved c ∨ c = '+' ∨ c = '%' := by
  obtain ⟨d, -, hd⟩ := List.mem_flatMap.mp h
  split_ifs at hd with hblank
  · exact .inr (.inl (List.mem_singleton.mp hd))
  · rcases mem_codeChar hd with hc | hc | hc
    · exact .inl hc
    · cases hc
    · exact .inr (.inr hc)

/-! ## Nothing is read to nothing -/

lemma decodeLossy_ne_nil {bytes : List UInt8} (h : bytes ≠ []) : decodeLossy bytes ≠ [] := by
  cases bytes with
  | nil => exact absurd rfl h
  | cons b rest =>
    rw [decodeLossy]
    obtain ⟨result, used⟩ := readChar b rest
    cases result with
    | error fault => exact List.cons_ne_nil _ _
    | ok c => exact List.cons_ne_nil _ _

lemma decodeRun_ne_nil (h : cs ≠ []) : decodeRun cs ≠ [] := by
  cases cs with
  | nil => exact absurd rfl h
  | cons c rest =>
    rw [decodeRun.eq_def]
    split
    · contradiction
    · split <;> exact List.cons_ne_nil _ _
    · exact List.cons_ne_nil _ _

/-- Only the empty text is read to nothing. -/
lemma decode_ne_nil (h : cs ≠ []) : decode cs ≠ [] := by
  cases cs with
  | nil => exact absurd rfl h
  | cons c rest =>
    rw [decode]
    split
    · intro hnil
      exact decodeLossy_ne_nil (decodeRun_ne_nil (List.cons_ne_nil _ _))
        (List.append_eq_nil_iff.mp hnil).1
    · exact List.cons_ne_nil _ _

end FirewallPolicy.Url
