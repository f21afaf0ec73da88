import FirewallPolicy.Text.Utf8
import Mathlib.Tactic.Common

/-!
# Encoded texts

* `readChar_encodeChar`: a character is read from its bytes, whatever stands behind them.
* `decodeLossy_encodeUtf8`, `decodeFile_encodeUtf8`: so is a text.
-/

namespace FirewallPolicy.Text

/-! ## Characters -/

lemma toNat_byte {n : Nat} (h : n < 256) : (UInt8.ofNat n).toNat = n := by
  rw [UInt8.toNat_ofNat']
  omega

/-- A further byte of a character adds its six bits. -/
lemma continue?_cons {more low high bits n : Nat} (rest : List UInt8) (hlow : low ≤ 0x80 + n)
    (hhigh : 0x80 + n ≤ high) (hn : n < 64) :
    continue? (more + 1) low high bits (UInt8.ofNat (0x80 + n) :: rest) =
      ((continue? more 0x80 0xBF (bits * 64 + n) rest).1,
        (continue? more 0x80 0xBF (bits * 64 + n) rest).2 + 1) := by
  rw [continue?, toNat_byte (by omega), if_pos ⟨hlow, hhigh⟩, Nat.add_sub_cancel_left]

/-- The first of two bytes. -/
lemma lead?_two {n : Nat} (hlow : 0x80 ≤ n) (hhigh : n < 0x800) :
    lead? (0xC0 + n / 64) = some ⟨1, 0x80, 0xBF, n / 64⟩ := by
  unfold lead?
  rw [if_neg (by omega), if_neg (by omega), if_pos (by omega), Nat.add_sub_cancel_left]

/-- The first of three bytes; it bounds the second one, so that no character has two forms and no
half of a character has one. -/
lemma lead?_three {n : Nat} (hlow : 0x800 ≤ n) (hhigh : n < 0x10000)
    (hhalf : n < 0xD800 ∨ 0xDFFF < n) : ∃ low high,
    lead? (0xE0 + n / 4096) = some ⟨2, low, high, n / 4096⟩ ∧ low ≤ 0x80 + n / 64 % 64 ∧
      0x80 + n / 64 % 64 ≤ high := by
  unfold lead?
  rw [if_neg (by omega), if_neg (by omega), if_neg (by omega), Nat.add_sub_cancel_left]
  split_ifs with hfirst hhalves
  · have hbits : n / 4096 = 0 := by omega
    exact ⟨0xA0, 0xBF, by rw [hbits], by omega, by omega⟩
  · have hbits : n / 4096 = 0xD := by omega
    exact ⟨0x80, 0x9F, by rw [hbits], by omega, by omega⟩
  · exact ⟨0x80, 0xBF, rfl, by omega, by omega⟩
  all_goals omega

/-- The first of four bytes. -/
lemma lead?_four {n : Nat} (hlow : 0x10000 ≤ n) (hhigh : n < 0x110000) : ∃ low high,
    lead? (0xF0 + n / 262144) = some ⟨3, low, high, n / 262144⟩ ∧ low ≤ 0x80 + n / 4096 % 64 ∧
      0x80 + n / 4096 % 64 ≤ high := by
  unfold lead?
  rw [if_neg (by omega), if_neg (by omega), if_neg (by omega), if_neg (by omega),
    if_neg (by omega), if_neg (by omega), Nat.add_sub_cancel_left]
  split_ifs with hfirst hmiddle hlast
  · have hbits : n / 262144 = 0 := by omega
    exact ⟨0x90, 0xBF, by rw [hbits], by omega, by omega⟩
  · exact ⟨0x80, 0xBF, rfl, by omega, by omega⟩
  · have hbits : n / 262144 = 4 := by omega
    exact ⟨0x80, 0x8F, by rw [hbits], by omega, by omega⟩
  · omega

/-- A character is read from its bytes, whatever stands behind them. -/
lemma readChar_encodeChar (c : Char) (rest : List UInt8) :
    ∃ b more, encodeChar c = b :: more ∧ readChar b (more ++ rest) = (.ok c, more.length) := by
  have hrange : c.toNat < 0xD800 ∨ 0xDFFF < c.toNat ∧ c.toNat < 0x110000 := c.valid
  have hc := Char.ofNat_toNat c
  unfold encodeChar readChar
  simp only [Nat.shiftRight_eq_div_pow, Nat.reducePow, Nat.pow_zero, Nat.div_one]
  generalize c.toNat = n at hrange hc ⊢
  split_ifs with hone htwo hthree
  · refine ⟨_, _, rfl, ?_⟩
    rw [toNat_byte (by omega), lead?, if_pos hone]
    simp [continue?, Except.map, hc]
  · have hn : n / 64 * 64 + n % 64 = n := by omega
    refine ⟨_, _, rfl, ?_⟩
    rw [toNat_byte (by omega), lead?_two (by omega) htwo]
    simp only [List.cons_append]
    rw [continue?_cons _ (by omega) (by omega) (by omega)]
    simp [continue?, Except.map, hn, hc]
  · obtain ⟨low, high, hlead, hlow, hhigh⟩ := lead?_three (by omega) hthree (by omega)
    have hn : (n / 4096 * 64 + n / 64 % 64) * 64 + n % 64 = n := by omega
    refine ⟨_, _, rfl, ?_⟩
    rw [toNat_byte (by omega), hlead]
    simp only [List.cons_append]
    rw [continue?_cons _ hlow hhigh (by omega), continue?_cons _ (by omega) (by omega) (by omega)]
    simp [continue?, Except.map, hn, hc]
  · obtain ⟨low, high, hlead, hlow, hhigh⟩ := lead?_four (by omega) (by omega : n < 0x110000)
    have hn : ((n / 262144 * 64 + n / 4096 % 64) * 64 + n / 64 % 64) * 64 + n % 64 = n := by omega
    refine ⟨_, _, rfl, ?_⟩
    rw [toNat_byte (by omega), hlead]
    simp only [List.cons_append]
    rw [continue?_cons _ hlow hhigh (by omega), continue?_cons _ (by omega) (by omega) (by omega),
      continue?_cons _ (by omega) (by omega) (by omega)]
    simp [continue?, Except.map, hn, hc]

/-! ## Texts -/

/-- A text is read from its bytes. -/
theorem decodeLossy_encodeUtf8 (cs : List Char) : decodeLossy (encodeUtf8 cs) = cs := by
  induction cs with
  | nil => rw [encodeUtf8, List.flatMap_nil, decodeLossy]
  | cons c cs ih =>
    obtain ⟨b, more, hbytes, hread⟩ := readChar_encodeChar c (encodeUtf8 cs)
    rw [encodeUtf8, List.flatMap_cons, ← encodeUtf8, hbytes, List.cons_append, decodeLossy, hread]
    simp [ih]

/-- The bytes of a text are read without a fault. -/
theorem decodeFrom_encodeUtf8 (cs : List Char) (position : Nat) :
    decodeFrom position (encodeUtf8 cs) = (cs, none) := by
  induction cs generalizing position with
  | nil => rw [encodeUtf8, List.flatMap_nil, decodeFrom]
  | cons c cs ih =>
    obtain ⟨b, more, hbytes, hread⟩ := readChar_encodeChar c (encodeUtf8 cs)
    rw [encodeUtf8, List.flatMap_cons, ← encodeUtf8, hbytes, List.cons_append, decodeFrom, hread]
    simp [ih]

lemma decodeFile_encodeUtf8 (cs : List Char) : decodeFile (encodeUtf8 cs) = .ok cs := by
  rw [decodeFile, decodeUtf8, decodeFrom_encodeUtf8]

end FirewallPolicy.Text
