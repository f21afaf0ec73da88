import FirewallPolicy.Proofs.Address.Characters
import FirewallPolicy.Proofs.Address.Cover
import Mathlib.Data.List.Induction
import Mathlib.Tactic.IntervalCases

/-!
# How IPv4 networks are written

Which texts denote which network, said without a reader, and that the reader follows it.

* `valueOf_eq_iff`: which texts are numerals of a number.
* `IPv4.ofChars?_eq_some_iff`: an address is written in just one way.
* `IsSuffix`: what may stand behind the slash: a length, a netmask or a hostmask.
* `Denotes`: the network that a text denotes.
* `Network.ofChars?_eq_some_iff`: the reader gives a network exactly for the texts that denote it.
-/

namespace FirewallPolicy.Address

open FirewallPolicy.Text

/-! ## Numerals -/

/-- The value of a text of digits. -/
def valueOf (cs : List Char) : Nat := ofDigits 10 (cs.filterMap asciiDigit?)

lemma valueOf_append_digit {c : Char} {d : Nat} (hc : asciiDigit? c = some d) (cs : List Char) :
    valueOf (cs ++ [c]) = 10 * valueOf cs + d := by
  simp [valueOf, ofDigits, List.filterMap_append, hc, Nat.mul_comm]

/-- A digit is the numeral of a number below ten. -/
lemma exists_digit {c : Char} (h : isAsciiDigit c) :
    ∃ d < 10, asciiDigit? c = some d ∧ Nat.toDigits 10 d = [c] := by
  have hrange : '0' ≤ c ∧ c ≤ '9' := by simpa [isAsciiDigit] using h
  have hbounds : 48 ≤ c.toNat ∧ c.toNat ≤ 57 := hrange
  refine ⟨c.toNat - 48, by omega, by simp [asciiDigit?, hrange], ?_⟩
  rw [Nat.toDigits_of_lt_base (by omega)]
  congr 1
  apply Char.toNat_inj.mp
  rw [Nat.toNat_digitChar_of_lt_ten (by omega)]
  omega

lemma isAsciiDigit_of_mem_toDigits {c : Char} {n : Nat} (h : c ∈ Nat.toDigits 10 n) :
    isAsciiDigit c := by
  have hdigit : c.isDigit = true := Nat.isDigit_of_mem_toDigits (by decide) (by decide) h
  simp only [Char.isDigit, Bool.and_eq_true, decide_eq_true_eq] at hdigit
  have hrange : '0' ≤ c ∧ c ≤ '9' := hdigit
  simp [isAsciiDigit, hrange]

/-- A text of digits is the numeral of its value, perhaps with zeros in front. -/
lemma exists_eq_zeros_append {cs : List Char} (hne : cs ≠ [])
    (h : ∀ c ∈ cs, isAsciiDigit c) :
    ∃ zeros, cs = List.replicate zeros '0' ++ Nat.toDigits 10 (valueOf cs) := by
  -- The last digit is the one that the value gets last.
  induction cs using List.reverseRecOn with
  | nil => exact absurd rfl hne
  | append_singleton cs c ih =>
    obtain ⟨d, hd, hvalue, hdigit⟩ := exists_digit (h c (by simp))
    rw [valueOf_append_digit hvalue]
    rcases Decidable.eq_or_ne cs [] with rfl | hcs
    · exact ⟨0, by simp [valueOf, ofDigits, hdigit]⟩
    · obtain ⟨zeros, hzeros⟩ := ih hcs fun c hc => h c (by simp [hc])
      rcases Nat.eq_zero_or_pos (valueOf cs) with hzero | hpos
      · rw [hzero] at hzeros ⊢
        refine ⟨zeros + 1, ?_⟩
        rw [Nat.mul_zero, Nat.zero_add, hdigit, hzeros, List.replicate_succ']
        rfl
      · have hnumeral := Nat.toDigits_append_toDigits (by decide : 1 < 10) hpos hd
        refine ⟨zeros, ?_⟩
        rw [← hnumeral, hdigit, ← List.append_assoc, ← hzeros]

lemma valueOf_toDigits (n : Nat) : valueOf (Nat.toDigits 10 n) = n := by
  have hdigit : ∀ d < 10, ∃ c, Nat.toDigits 10 d = [c] ∧ asciiDigit? c = some d := by
    intro d hd
    interval_cases d <;> exact ⟨_, rfl, rfl⟩
  induction n using Nat.strong_induction_on with
  | h n ih =>
    rcases Nat.lt_or_ge n 10 with hn | hn
    · obtain ⟨c, hc, hvalue⟩ := hdigit n hn
      simp [hc, valueOf, ofDigits, hvalue]
    · obtain ⟨c, hc, hvalue⟩ := hdigit (n % 10) (Nat.mod_lt n (by decide))
      have hnumeral := Nat.toDigits_append_toDigits (by decide : 1 < 10)
        (Nat.div_pos hn (by decide)) (Nat.mod_lt n (by decide : 0 < 10))
      rw [Nat.div_add_mod, hc] at hnumeral
      rw [← hnumeral, valueOf_append_digit hvalue, ih (n / 10) (Nat.div_lt_self (by omega)
        (by decide)), Nat.div_add_mod]

/-- Zeros in front do not count. -/
lemma valueOf_zeros_append (zeros : Nat) (cs : List Char) :
    valueOf (List.replicate zeros '0' ++ cs) = valueOf cs := by
  induction zeros with
  | zero => rfl
  | succ zeros ih =>
    rw [List.replicate_succ, List.cons_append]
    simpa [valueOf, ofDigits, asciiDigit?] using ih

/-- The texts of digits with a value are its numeral with any number of zeros in front. -/
lemma valueOf_eq_iff {cs : List Char} {n : Nat} :
    (cs ≠ [] ∧ (∀ c ∈ cs, isAsciiDigit c) ∧ valueOf cs = n) ↔
      ∃ zeros, cs = List.replicate zeros '0' ++ Nat.toDigits 10 n := by
  constructor
  · rintro ⟨hne, hdigits, rfl⟩
    exact exists_eq_zeros_append hne hdigits
  · rintro ⟨zeros, rfl⟩
    refine ⟨fun h => Nat.toDigits_ne_nil (List.append_eq_nil_iff.mp h).2, fun c hc => ?_, ?_⟩
    · rcases List.mem_append.mp hc with hc | hc
      · rw [List.eq_of_mem_replicate hc]
        rfl
      · exact isAsciiDigit_of_mem_toDigits hc
    · rw [valueOf_zeros_append, valueOf_toDigits]

/-! ## Addresses -/

lemma octet?_toDigits {n : Nat} (h : n ≤ 255) : octet? (Nat.toDigits 10 n) = some n := by
  have hall : ∀ m < 256, octet? (Nat.toDigits 10 m) = some m := by decide +kernel
  exact hall n (by omega)

/-- An octet is written as the numeral of a number up to 255. -/
lemma octet?_eq_some_iff {cs : List Char} {n : Nat} :
    octet? cs = some n ↔ n ≤ 255 ∧ cs = Nat.toDigits 10 n := by
  constructor
  · intro h
    unfold octet? at h
    dsimp only at h
    split_ifs at h with hdigits hzero hle
    simp only [not_or, List.isEmpty_iff, Bool.not_eq_true', Bool.not_eq_false,
      List.all_eq_true] at hdigits
    cases h
    refine ⟨hle, ?_⟩
    obtain ⟨zeros, hzeros⟩ := exists_eq_zeros_append hdigits.1 hdigits.2.1
    change cs = Nat.toDigits 10 (valueOf cs)
    cases zeros with
    | zero => exact hzeros
    | succ zeros =>
      -- A zero in front stands alone.
      have hhead : cs.head? = some '0' := by rw [hzeros]; rfl
      have hcs : cs = ['0'] := by
        by_contra hne
        exact hzero ⟨hhead, hne⟩
      rw [hcs]
      rfl
  · rintro ⟨hle, rfl⟩
    exact octet?_toDigits hle

/-- The pieces between the dots of an address. -/
def quadPieces (v : Nat) : List (List Char) :=
  [Nat.toDigits 10 (v / 0x1000000 % 256), Nat.toDigits 10 (v / 0x10000 % 256),
    Nat.toDigits 10 (v / 0x100 % 256), Nat.toDigits 10 (v % 256)]

lemma toList_quadText (v : Nat) : (quadText v).toList = joinWith '.' (quadPieces v) := by
  simp [quadText, quadPieces, joinWith]

lemma notMem_toDigits {c : Char} (h : isAsciiDigit c = false) (n : Nat) :
    c ∉ Nat.toDigits 10 n := by
  intro hc
  rw [isAsciiDigit_of_mem_toDigits hc] at h
  cases h

lemma fieldsOf_quadText (v : Nat) : fieldsOf '.' (quadText v).toList = quadPieces v := by
  rw [toList_quadText]
  refine Text.fieldsOf_joinWith (by simp [quadPieces]) fun piece hpiece => ?_
  simp only [quadPieces, List.mem_cons, List.not_mem_nil, or_false] at hpiece
  rcases hpiece with rfl | rfl | rfl | rfl <;> exact notMem_toDigits rfl _

/-- Octets that are read are written as numerals. -/
lemma eq_map_of_mapM_octet? {pieces : List (List Char)} {octets : List Nat}
    (h : pieces.mapM octet? = some octets) :
    pieces = octets.map (Nat.toDigits 10) ∧ ∀ n ∈ octets, n ≤ 255 := by
  induction pieces generalizing octets with
  | nil =>
    cases h
    simp
  | cons piece pieces ih =>
    rw [List.mapM_cons] at h
    obtain ⟨n, hn, h⟩ := Option.bind_eq_some_iff.mp h
    obtain ⟨rest, hrest, h⟩ := Option.bind_eq_some_iff.mp h
    cases h
    obtain ⟨hle, rfl⟩ := octet?_eq_some_iff.mp hn
    obtain ⟨rfl, hall⟩ := ih hrest
    exact ⟨rfl, List.forall_mem_cons.mpr ⟨hle, hall⟩⟩

/-- A dotted quad is written in just one way. -/
lemma dottedQuad?_eq_some_iff {cs : List Char} {v : Nat} :
    dottedQuad? cs = some v ↔ v < 0x100000000 ∧ cs = (quadText v).toList := by
  constructor
  · intro h
    unfold dottedQuad? at h
    split at h
    · rename_i a b c d hoctets
      cases h
      obtain ⟨hpieces, hall⟩ := eq_map_of_mapM_octet? hoctets
      simp only [List.forall_mem_cons] at hall
      obtain ⟨ha, hb, hc, hd, -⟩ := hall
      have hquad : quadPieces (((a * 256 + b) * 256 + c) * 256 + d) =
          [a, b, c, d].map (Nat.toDigits 10) := by
        have hfirst : (((a * 256 + b) * 256 + c) * 256 + d) / 0x1000000 % 256 = a := by omega
        have hsecond : (((a * 256 + b) * 256 + c) * 256 + d) / 0x10000 % 256 = b := by omega
        have hthird : (((a * 256 + b) * 256 + c) * 256 + d) / 0x100 % 256 = c := by omega
        have hlast : (((a * 256 + b) * 256 + c) * 256 + d) % 256 = d := by omega
        rw [quadPieces, hfirst, hsecond, hthird, hlast]
        rfl
      refine ⟨by omega, ?_⟩
      rw [← joinWith_fieldsOf '.' cs, hpieces, toList_quadText, hquad]
    · cases h
  · rintro ⟨hv, rfl⟩
    unfold dottedQuad?
    rw [fieldsOf_quadText]
    have hoctet : ∀ m, octet? (Nat.toDigits 10 (m % 256)) = some (m % 256) := fun m =>
      octet?_toDigits (by omega)
    simp only [quadPieces, List.mapM_cons, List.mapM_nil, hoctet, Option.pure_def,
      Option.bind_eq_bind, Option.bind_some, Option.some.injEq]
    omega

/-- An address is written in just one way. -/
theorem IPv4.ofChars?_eq_some_iff {cs : List Char} {a : IPv4} :
    IPv4.ofChars? cs = some a ↔ cs = a.text.toList := by
  rw [IPv4.ofChars?, Option.map_eq_some_iff]
  constructor
  · rintro ⟨v, hv, rfl⟩
    obtain ⟨hlt, rfl⟩ := dottedQuad?_eq_some_iff.mp hv
    show _ = (quadText (v % 0x100000000)).toList
    rw [Nat.mod_eq_of_lt hlt]
  · rintro rfl
    refine ⟨a.value, dottedQuad?_eq_some_iff.mpr ⟨a.value_lt, rfl⟩, ?_⟩
    obtain ⟨v, hv⟩ := a
    simp [IPv4.wrap, Nat.mod_eq_of_lt hv]

/-! ## Lengths and masks -/

/-- What may stand behind the slash of a network, and for which length it stands there. -/
inductive IsSuffix : List Char → Nat → Prop
  /-- The length itself, with any zeros in front, as long as this is no longer than a numeral. -/
  | length {n : Nat} (zeros : Nat) (hn : n ≤ 32)
    (hlimit : zeros + (Nat.toDigits 10 n).length ≤ numeralLimit) :
    IsSuffix (List.replicate zeros '0' ++ Nat.toDigits 10 n) n
  /-- A netmask: as many ones as the length says, and zeros behind them. -/
  | netmask {n : Nat} {mask : IPv4} (hn : n ≤ 32)
    (hmask : mask.value + 2 ^ (32 - n) = 2 ^ 32) : IsSuffix mask.text.toList n
  /-- A hostmask: as many zeros as the length says, and ones behind them.  A mask of one kind of
  bits alone counts as a netmask. -/
  | hostmask {n : Nat} {mask : IPv4} (hn : 0 < n ∧ n < 32)
    (hmask : mask.value + 1 = 2 ^ (32 - n)) : IsSuffix mask.text.toList n

/-- Where only one length can be found, it is found. -/
lemma find?_lengths_eq_some_iff {p : { n : Nat // n ≤ 32 } → Bool}
    (hunique : ∀ m n, p m → p n → m = n) {n : { n : Nat // n ≤ 32 }} :
    lengths.find? p = some n ↔ p n := by
  have hmem : ∀ m, m ∈ lengths := fun m =>
    List.mem_map.mpr ⟨⟨m.val, Nat.lt_succ_of_le m.property⟩, List.mem_finRange _, rfl⟩
  constructor
  · exact List.find?_some
  · intro hn
    cases hfound : lengths.find? p with
    | none => exact absurd hn (List.find?_eq_none.mp hfound n (hmem n))
    | some m => rw [hunique m n (List.find?_some hfound) hn]

/-- Zeros and then ones are not also ones and then zeros if both bits occur. -/
lemma add_two_pow_ne_of_hostmask {mask a : Nat} (ha : 0 < a ∧ a < 32) (h : mask + 1 = 2 ^ a)
    (b : Nat) : mask + 2 ^ b ≠ 2 ^ 32 := by
  intro hsum
  obtain ⟨a, rfl⟩ := Nat.exists_eq_succ_of_ne_zero (Nat.pos_iff_ne_zero.mp ha.1)
  have hlt : 2 ^ (a + 1) < 2 ^ 32 := Nat.pow_lt_pow_right (by decide) ha.2
  rw [Nat.succ_eq_add_one, Nat.pow_succ] at h
  rw [Nat.pow_succ] at hlt
  cases b with
  | zero => omega
  | succ b =>
    -- The mask is odd, and the numbers on both sides are even.
    rw [Nat.pow_succ] at hsum
    omega

/-- Networks of different lengths are of different sizes. -/
lemma length_eq_of_two_pow_eq {m n : { n : Nat // n ≤ 32 }}
    (h : 2 ^ (32 - m.val) = 2 ^ (32 - n.val)) : m = n := by
  have hexponents := Nat.pow_right_injective (le_refl 2) h
  apply Subtype.ext
  have hm := m.property
  have hn := n.property
  omega

/-- The length that a netmask stands for is found. -/
lemma find?_netmask_eq_some_iff {mask : Nat} {n : { n : Nat // n ≤ 32 }} :
    (lengths.find? fun m => decide (mask + blockSize (32 - m.val) = 0x100000000)) = some n ↔
      mask + 2 ^ (32 - n.val) = 2 ^ 32 := by
  simp only [blockSize_eq_two_pow]
  refine (find?_lengths_eq_some_iff fun m n hm hn => ?_).trans decide_eq_true_iff
  rw [decide_eq_true_eq] at hm hn
  exact length_eq_of_two_pow_eq (by omega)

/-- So is the one that a hostmask stands for. -/
lemma find?_hostmask_eq_some_iff {mask : Nat} {n : { n : Nat // n ≤ 32 }} :
    (lengths.find? fun m => decide (mask + 1 = blockSize (32 - m.val))) = some n ↔
      mask + 1 = 2 ^ (32 - n.val) := by
  simp only [blockSize_eq_two_pow]
  refine (find?_lengths_eq_some_iff fun m n hm hn => ?_).trans decide_eq_true_iff
  rw [decide_eq_true_eq] at hm hn
  exact length_eq_of_two_pow_eq (by omega)

/-- A netmask or a hostmask stands for one length; what is both counts as a netmask. -/
lemma maskLength?_eq_some_iff {mask : Nat} {n : { n : Nat // n ≤ 32 }} :
    maskLength? mask = some n ↔ mask + 2 ^ (32 - n.val) = 2 ^ 32 ∨
      (0 < n.val ∧ n.val < 32) ∧ mask + 1 = 2 ^ (32 - n.val) := by
  unfold maskLength?
  rw [← find?_netmask_eq_some_iff, ← find?_hostmask_eq_some_iff]
  cases hfound : lengths.find? fun m => decide (mask + blockSize (32 - m.val) = 0x100000000) with
  | some m =>
    have hm := find?_netmask_eq_some_iff.mp hfound
    refine ⟨.inl, fun h => h.elim id fun ⟨hn, h⟩ => ?_⟩
    exact absurd hm
      (add_two_pow_ne_of_hostmask (by omega) (find?_hostmask_eq_some_iff.mp h) _)
  | none =>
    refine ⟨fun h => .inr ⟨?_, h⟩, fun h => h.elim (nomatch ·) And.right⟩
    have hnone : ∀ m : { n : Nat // n ≤ 32 }, mask + 2 ^ (32 - m.val) ≠ 2 ^ 32 := by
      intro m hm
      rw [← find?_netmask_eq_some_iff, hfound] at hm
      cases hm
    have hmask := find?_hostmask_eq_some_iff.mp h
    -- Ones alone are the netmask of a single address, and zeros alone that of all addresses.
    have hzero : n.val ≠ 0 := fun hn => hnone ⟨32, le_rfl⟩ (by rwa [hn] at hmask)
    have htop : n.val ≠ 32 := by
      intro hn
      have hempty : mask = 0 := by simpa [hn] using hmask
      exact hnone ⟨0, by decide⟩ (by rw [hempty, Nat.zero_add, Nat.sub_zero])
    have hle := n.property
    omega

/-- A length is read from its numeral, with any zeros in front. -/
lemma length?_eq_some_iff {limit : Nat} {cs : List Char} {n : { n : Nat // n ≤ limit }} :
    length? limit cs = some n ↔ ∃ zeros, cs = List.replicate zeros '0' ++ Nat.toDigits 10 n.val ∧
      zeros + (Nat.toDigits 10 n.val).length ≤ numeralLimit := by
  have hlength : ∀ zeros, (List.replicate zeros '0' ++ Nat.toDigits 10 n.val).length =
      zeros + (Nat.toDigits 10 n.val).length := by
    intro zeros
    rw [List.length_append, List.length_replicate]
  unfold length?
  constructor
  · intro h
    dsimp only at h
    split_ifs at h with hdigits hle
    simp only [not_or, List.isEmpty_iff, Bool.not_eq_true', Bool.not_eq_false,
      List.all_eq_true] at hdigits
    obtain ⟨hne, hall, hlimit⟩ := hdigits
    cases h
    obtain ⟨zeros, hzeros⟩ := valueOf_eq_iff.mp ⟨hne, hall, rfl⟩
    refine ⟨zeros, hzeros, ?_⟩
    rw [← hlength]
    exact (congrArg List.length hzeros).symm.trans_le (Nat.le_of_not_lt hlimit)
  · rintro ⟨zeros, hzeros, hlimit⟩
    obtain ⟨hne, hall, hvalue⟩ := valueOf_eq_iff.mpr ⟨zeros, hzeros⟩
    rw [← hlength, ← hzeros] at hlimit
    have hguard : ¬ (cs.isEmpty ∨ !cs.all isAsciiDigit ∨ numeralLimit < cs.length) := by
      simp only [not_or, List.isEmpty_iff, Bool.not_eq_true', Bool.not_eq_false, List.all_eq_true]
      exact ⟨hne, hall, Nat.not_lt_of_le hlimit⟩
    have hle : ofDigits 10 (cs.filterMap asciiDigit?) ≤ limit := by
      rw [← valueOf, hvalue]
      exact n.property
    rw [if_neg hguard, dif_pos hle]
    exact congrArg some (Subtype.ext hvalue)

/-- A mask is no length. -/
lemma suffix?_text (mask : IPv4) : suffix? mask.text.toList = maskLength? mask.value := by
  have hlength : length? 32 mask.text.toList = none := by
    rw [Option.eq_none_iff_forall_ne_some]
    intro n hn
    obtain ⟨zeros, hzeros, -⟩ := length?_eq_some_iff.mp hn
    -- There is a dot in the mask, and none among digits.
    have hdot : '.' ∈ mask.text.toList := by simp [IPv4.text, quadText]
    have hdigits := (valueOf_eq_iff.mpr ⟨zeros, hzeros⟩).2.1 '.' hdot
    cases hdigits
  have hquad : dottedQuad? mask.text.toList = some mask.value :=
    dottedQuad?_eq_some_iff.mpr ⟨mask.value_lt, rfl⟩
  rw [suffix?, hlength, hquad, Option.bind_some, Option.orElse_none]

/-- What is read behind a slash is what may stand there. -/
lemma suffix?_eq_some_iff {cs : List Char} {n : { n : Nat // n ≤ 32 }} :
    suffix? cs = some n ↔ IsSuffix cs n.val := by
  constructor
  · intro h
    cases hlength : length? 32 cs with
    | some m =>
      rw [suffix?, hlength] at h
      cases h
      obtain ⟨zeros, rfl, hlimit⟩ := length?_eq_some_iff.mp hlength
      exact .length zeros n.property hlimit
    | none =>
      have hmask : (dottedQuad? cs).bind maskLength? = some n := by
        rwa [suffix?, hlength] at h
      obtain ⟨v, hv, hn⟩ := Option.bind_eq_some_iff.mp hmask
      obtain ⟨hlt, rfl⟩ := dottedQuad?_eq_some_iff.mp hv
      rcases maskLength?_eq_some_iff.mp hn with hnet | ⟨hbounds, hhost⟩
      · exact @IsSuffix.netmask _ ⟨v, hlt⟩ n.property hnet
      · exact @IsSuffix.hostmask _ ⟨v, hlt⟩ hbounds hhost
  · obtain ⟨n, hle⟩ := n
    intro h
    cases h with
    | length zeros hn hlimit =>
      have hlength := length?_eq_some_iff (n := ⟨n, hle⟩).mpr ⟨zeros, rfl, hlimit⟩
      rw [suffix?, hlength]
      rfl
    | netmask hn hmask =>
      rw [suffix?_text]
      exact maskLength?_eq_some_iff.mpr (.inl hmask)
    | hostmask hn hmask =>
      rw [suffix?_text]
      exact maskLength?_eq_some_iff.mpr (.inr ⟨hn, hmask⟩)

/-! ## Networks -/

/-- The network that a text denotes: it has the length that the text gives, or that of a single
address, and holds the address. -/
inductive Denotes : List Char → Network → Prop
  | address {a : IPv4} {n : Network} (hlength : n.length = 32) (ha : n.contains a) :
    Denotes a.text.toList n
  | network {a : IPv4} {suffix : List Char} {n : Network} (hlength : IsSuffix suffix n.length)
    (ha : n.contains a) : Denotes (a.text.toList ++ '/' :: suffix) n

/-- The network of a length that holds an address. -/
lemma Network.holding_eq_iff {n : Network} {a : IPv4} {length : Nat} (h : length ≤ 32) :
    Network.holding a length h = n ↔ n.length = length ∧ n.contains a := by
  constructor
  · rintro rfl
    refine ⟨rfl, ?_⟩
    simp [Network.contains, Network.holding, Nat.mul_div_cancel _ (blockSize_pos _)]
  · obtain ⟨address, nlength, hle, hlt, haligned⟩ := n
    rintro ⟨rfl, ha⟩
    obtain ⟨k, rfl⟩ := haligned
    have hk : a.value / blockSize (32 - nlength) = k := by
      simpa [Network.contains, Nat.mul_div_cancel_left _ (blockSize_pos _)] using ha
    simp [Network.holding, hk, Nat.mul_comm]

/-- Addresses are written with digits and dots. -/
lemma notMem_text {c : Char} (hdot : c ≠ '.') (hdigit : isAsciiDigit c = false) (a : IPv4) :
    c ∉ a.text.toList := by
  rw [IPv4.text, toList_quadText]
  intro h
  have hpieces : ∀ d ∈ joinWith '.' (quadPieces a.value), d ≠ c := by
    refine Text.forall_mem_joinWith (Ne.symm hdot) fun piece hpiece d hd => ?_
    simp only [quadPieces, List.mem_cons, List.not_mem_nil, or_false] at hpiece
    rintro rfl
    rcases hpiece with rfl | rfl | rfl | rfl <;> exact notMem_toDigits hdigit _ hd
  exact hpieces c h rfl

lemma slash_notMem_text (a : IPv4) : '/' ∉ a.text.toList := notMem_text (by decide) rfl a

lemma IsSuffix.slash_notMem {suffix : List Char} {n : Nat} (h : IsSuffix suffix n) :
    '/' ∉ suffix := by
  cases h with
  | length zeros hn hlimit =>
    intro hslash
    have hdigits := (valueOf_eq_iff.mpr ⟨zeros, rfl⟩).2.1 '/' hslash
    cases hdigits
  | netmask hn hmask => exact slash_notMem_text _
  | hostmask hn hmask => exact slash_notMem_text _

/-- The network that a text denotes is the one that is read. -/
theorem Network.ofChars?_eq_some_iff {cs : List Char} {n : Network} :
    Network.ofChars? cs = some n ↔ Denotes cs n := by
  constructor
  · intro h
    have hcs := joinWith_fieldsOf '/' cs
    unfold Network.ofChars? at h
    split at h
    · rename_i a hfields
      obtain ⟨a, ha, hn⟩ := Option.map_eq_some_iff.mp h
      obtain rfl := IPv4.ofChars?_eq_some_iff.mp ha
      obtain ⟨hlength, hcontains⟩ := (Network.holding_eq_iff _).mp hn
      rw [← hcs, hfields]
      exact .address hlength hcontains
    · rename_i a suffix hfields
      obtain ⟨a, ha, h⟩ := Option.bind_eq_some_iff.mp h
      obtain ⟨length, hsuffix, hn⟩ := Option.bind_eq_some_iff.mp h
      obtain rfl := IPv4.ofChars?_eq_some_iff.mp ha
      obtain ⟨hlength, hcontains⟩ :=
        (Network.holding_eq_iff length.property).mp (Option.some.inj hn)
      rw [← hcs, hfields]
      exact .network (hlength ▸ suffix?_eq_some_iff.mp hsuffix) hcontains
    · cases h
  · intro h
    cases h with
    | @address a _ hlength ha =>
      have hread : IPv4.ofChars? a.text.toList = some a := IPv4.ofChars?_eq_some_iff.mpr rfl
      have hn := (Network.holding_eq_iff (Nat.le_refl 32)).mpr ⟨hlength, ha⟩
      simp only [Network.ofChars?, Text.fieldsOf_of_notMem (slash_notMem_text a), hread,
        Option.map_some, hn]
    | @network a suffix _ hlength ha =>
      have hread : IPv4.ofChars? a.text.toList = some a := IPv4.ofChars?_eq_some_iff.mpr rfl
      have hsuffix : suffix? suffix = some ⟨n.length, n.length_le⟩ :=
        suffix?_eq_some_iff.mpr hlength
      have hn := (Network.holding_eq_iff n.length_le).mpr ⟨rfl, ha⟩
      simp only [Network.ofChars?, Text.fieldsOf_append (slash_notMem_text a),
        Text.fieldsOf_of_notMem hlength.slash_notMem, hread, hsuffix, Option.bind_eq_bind,
        Option.bind_some, hn, Option.pure_def]

/-- A network denotes itself as it is written. -/
lemma Network.denotes_text (n : Network) : Denotes n.text.toList n := by
  have hsuffix : IsSuffix (Nat.toDigits 10 n.length) n.length := by
    refine IsSuffix.length 0 n.length_le ?_
    have hle := n.length_le
    have hall : ∀ m < 33, 0 + (Nat.toDigits 10 m).length ≤ numeralLimit := by decide +kernel
    exact hall n.length (by omega)
  have htext : n.text.toList =
      (IPv4.mk n.address n.address_lt).text.toList ++ '/' :: Nat.toDigits 10 n.length := by
    simp [Network.text, IPv4.text]
  rw [htext]
  exact .network hsuffix (by simp [Network.contains])

end FirewallPolicy.Address
