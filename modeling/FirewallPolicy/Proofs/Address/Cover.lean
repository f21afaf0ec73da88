import FirewallPolicy.Address.Cover
import Mathlib.Algebra.Group.Nat.Defs
import Mathlib.Data.List.Basic
import Mathlib.Data.Nat.Log
import Mathlib.Order.Basic
import Mathlib.Tactic.Common

/-!
# Covers of a range are exact and as short as possible

The networks that `cover` gives stand one behind the other, from the first address of the range to
the last, and no list of networks covers the same addresses with fewer.

* `le_hostBits_iff`: which blocks may begin at an address and end within the range.
* `tiles_cover`: the networks of a cover leave no gap and do not overlap.
* `length_cover_le`: every list of networks that covers the same addresses is at least as long.
  Each network in it either lies within the first block of the cover or begins behind it, so the
  ones behind it cover the rest with one network less.
-/

namespace FirewallPolicy.Address

variable {first count limit b : Nat}

/-! ## The size of the first block -/

lemma blockSize_eq_two_pow (b : Nat) : blockSize b = 2 ^ b := by
  rw [blockSize, Nat.one_shiftLeft]

/-- A number has as many trailing zeros as the largest block that it is aligned to. -/
lemma le_trailingZeros_iff (hb : b ≤ limit) (n : Nat) :
    b ≤ trailingZeros limit n ↔ blockSize b ∣ n := by
  induction limit generalizing b n with
  | zero =>
    obtain rfl : b = 0 := by omega
    simp
  | succ limit ih =>
    cases b with
    | zero => simp
    | succ b =>
      rw [trailingZeros, blockSize_succ]
      by_cases heven : n % 2 = 0
      · rw [if_pos heven, Nat.add_le_add_iff_right, ih (by omega)]
        obtain ⟨m, rfl⟩ : 2 ∣ n := Nat.dvd_of_mod_eq_zero heven
        rw [Nat.mul_div_cancel_left m (by decide), Nat.mul_dvd_mul_iff_left (by decide)]
      · rw [if_neg heven]
        -- An odd number is aligned to single addresses only.
        have hodd : ¬ 2 * blockSize b ∣ n := fun h =>
          heven (Nat.mod_eq_zero_of_dvd (Nat.dvd_trans (Nat.dvd_mul_right 2 _) h))
        simp [hodd]

lemma trailingZeros_le (limit n : Nat) : trailingZeros limit n ≤ limit := by
  induction limit generalizing n with
  | zero => rfl
  | succ limit ih =>
    rw [trailingZeros]
    split
    · exact Nat.succ_le_succ (ih _)
    · exact Nat.zero_le _

lemma hostBits_le (first count : Nat) : hostBits first count ≤ 32 :=
  (Nat.min_le_left _ _).trans (trailingZeros_le _ _)

/-- The first network is the largest that is aligned and ends within the range. -/
lemma le_hostBits_iff (hb : b ≤ 32) (hcount : count ≠ 0) :
    b ≤ hostBits first count ↔ blockSize b ∣ first ∧ blockSize b ≤ count := by
  rw [hostBits, Nat.le_min, le_trailingZeros_iff hb, Nat.le_log2 hcount, blockSize_eq_two_pow]

lemma blockSize_hostBits_dvd (first : Nat) (hcount : count ≠ 0) :
    blockSize (hostBits first count) ∣ first :=
  ((le_hostBits_iff (hostBits_le first count) hcount).mp le_rfl).1

/-! ## The addresses of a network -/

/-- How many addresses a network has. -/
def Network.size (n : Network) : Nat := blockSize (32 - n.length)

lemma Network.size_pos (n : Network) : 0 < n.size := blockSize_pos _

/-- A network ends within the address space. -/
lemma Network.end_le (n : Network) : n.address + n.size ≤ 0x100000000 := by
  have hdvd : n.size ∣ 0x100000000 := by
    rw [Network.size, blockSize_eq_two_pow, show 0x100000000 = 2 ^ 32 from rfl]
    exact Nat.pow_dvd_pow 2 (Nat.sub_le _ _)
  obtain ⟨k, hk⟩ := hdvd
  obtain ⟨m, hm⟩ := n.aligned
  have hlt := n.address_lt
  change n.address = n.size * m at hm
  rw [hk, hm] at hlt ⊢
  -- Below the end of the address space an aligned block has room for all its addresses.
  rw [← Nat.mul_succ]
  exact Nat.mul_le_mul_left _ (Nat.lt_of_mul_lt_mul_left hlt)

lemma Network.last_add_one (n : Network) : n.last + 1 = n.address + n.size := by
  have hpos := n.size_pos
  rw [Network.last, Network.size] at *
  omega

/-- A network holds the addresses from its first to its last. -/
lemma Network.contains_iff (n : Network) (a : IPv4) :
    n.contains a ↔ n.address ≤ a.value ∧ a.value < n.address + n.size := by
  obtain ⟨k, hk⟩ := n.aligned
  have hpos := n.size_pos
  rw [Network.size] at *
  rw [Network.contains, beq_iff_eq, hk, Nat.mul_div_cancel_left _ hpos, Nat.div_eq_iff hpos,
    Nat.mul_comm k]
  omega

/-- The network of a block that is aligned and begins at an address. -/
lemma Network.holding_eq {bits : Nat} (hbits : bits ≤ 32) (hfirst : first < 0x100000000)
    (hdvd : blockSize bits ∣ first) :
    (Network.holding (IPv4.wrap first) (32 - bits) (Nat.sub_le _ _)).address = first ∧
      (Network.holding (IPv4.wrap first) (32 - bits) (Nat.sub_le _ _)).size = blockSize bits := by
  have hback : 32 - (32 - bits) = bits := Nat.sub_sub_self hbits
  constructor
  · show first % 0x100000000 / blockSize (32 - (32 - bits)) * blockSize (32 - (32 - bits)) = first
    rw [hback, Nat.mod_eq_of_lt hfirst, Nat.div_mul_cancel hdvd]
  · show blockSize (32 - (32 - bits)) = _
    rw [hback]

/-! ## Covers -/

/-- Networks that stand one behind the other, from one address up to another. -/
def Tiles (first next : Nat) : List Network → Prop
  | [] => first = next
  | n :: rest => n.address = first ∧ Tiles (first + n.size) next rest

/-- The networks of a cover stand one behind the other and end where the range does. -/
theorem tiles_cover (h : first + count ≤ 0x100000000) :
    Tiles first (first + count) (cover first count) := by
  fun_induction cover first count with
  | case1 first => rfl
  | case2 first count hcount bits ih =>
    have hsize : blockSize bits ≤ count := blockSize_hostBits_le first hcount
    obtain ⟨haddress, hblock⟩ := Network.holding_eq (hostBits_le first count) (by omega)
      (blockSize_hostBits_dvd first hcount)
    have hrest := ih (by omega)
    rw [show first + blockSize bits + (count - blockSize bits) = first + count by omega] at hrest
    exact ⟨haddress, hblock.symm ▸ hrest⟩

/-- A network that lies in the range and begins in the first block of the cover ends in it as
well: a smaller block is aligned to the end of that block, and a larger one would have to begin with
it, where there is no room for more. -/
lemma add_size_le_of_address_lt (hcount : count ≠ 0) (n : Network) (hfirst : first ≤ n.address)
    (hlast : n.address + n.size ≤ first + count)
    (hlt : n.address < first + blockSize (hostBits first count)) :
    n.address + n.size ≤ first + blockSize (hostBits first count) := by
  set bits := hostBits first count with hbits
  have haligned : blockSize bits ∣ first := blockSize_hostBits_dvd first hcount
  have hle : 32 - n.length ≤ 32 := Nat.sub_le _ _
  rw [Network.size] at *
  rcases le_or_gt (32 - n.length) bits with hsmall | hlarge
  · have hdvd : blockSize (32 - n.length) ∣ blockSize bits := by
      rw [blockSize_eq_two_pow, blockSize_eq_two_pow]
      exact Nat.pow_dvd_pow 2 hsmall
    have hdiff : blockSize (32 - n.length) ∣ first + blockSize bits - n.address :=
      Nat.dvd_sub (Nat.dvd_add (Nat.dvd_trans hdvd haligned) hdvd) n.aligned
    have hroom := Nat.le_of_dvd (by omega) hdiff
    omega
  · have hdvd : blockSize bits ∣ blockSize (32 - n.length) := by
      rw [blockSize_eq_two_pow, blockSize_eq_two_pow]
      exact Nat.pow_dvd_pow 2 hlarge.le
    have hsame : n.address - first = 0 :=
      Nat.eq_zero_of_dvd_of_lt (Nat.dvd_sub (Nat.dvd_trans hdvd n.aligned) haligned) (by omega)
    have hbegin : n.address = first := by omega
    have hfits : 32 - n.length ≤ bits :=
      (le_hostBits_iff hle hcount).mpr ⟨hbegin ▸ n.aligned, by omega⟩
    omega

/-- Some networks hold exactly the addresses from one up to another. -/
def Fills (blocks : List Network) (first next : Nat) : Prop :=
  ∀ a, (∃ n ∈ blocks, n.address ≤ a ∧ a < n.address + n.size) ↔ first ≤ a ∧ a < next

/-- Networks that fill a range lie in it. -/
lemma Fills.bounds {blocks : List Network} {next : Nat} (h : Fills blocks first next)
    {n : Network} (hn : n ∈ blocks) : first ≤ n.address ∧ n.address + n.size ≤ next := by
  have hpos := n.size_pos
  have hbegin := (h n.address).mp ⟨n, hn, le_rfl, by omega⟩
  have hend := (h (n.address + n.size - 1)).mp ⟨n, hn, by omega, by omega⟩
  omega

/-- Of the networks that fill a range, those that begin behind the first block of its cover fill the
rest. -/
lemma Fills.rest {blocks : List Network} (hcount : count ≠ 0)
    (h : Fills blocks first (first + count)) :
    Fills (blocks.filter fun n => first + blockSize (hostBits first count) ≤ n.address)
      (first + blockSize (hostBits first count)) (first + count) := by
  intro a
  simp only [List.mem_filter, decide_eq_true_eq]
  constructor
  · rintro ⟨n, ⟨hn, hbehind⟩, hle, hlt⟩
    have hbounds := h.bounds hn
    omega
  · rintro ⟨hle, hlt⟩
    obtain ⟨n, hn, hbegin, hend⟩ := (h a).mpr ⟨by omega, hlt⟩
    refine ⟨n, ⟨hn, ?_⟩, hbegin, hend⟩
    -- A network that begins in the first block ends there, so it does not hold the address.
    by_contra hin
    obtain ⟨hfirst, hlast⟩ := h.bounds hn
    have hwithin := add_size_le_of_address_lt hcount n hfirst hlast (by omega)
    omega

/-- No networks fill a range with fewer than its cover has. -/
theorem length_cover_le {blocks : List Network} (h : Fills blocks first (first + count)) :
    (cover first count).length ≤ blocks.length := by
  fun_induction cover first count generalizing blocks with
  | case1 first => exact Nat.zero_le _
  | case2 first count hcount bits =>
    rename_i ih
    have hpos : 0 < blockSize bits := blockSize_pos bits
    have hsize : blockSize bits ≤ count := blockSize_hostBits_le first hcount
    have hrest := h.rest hcount
    rw [show first + count = first + blockSize bits + (count - blockSize bits) by omega] at hrest
    -- The network that holds the first address is none of those behind the first block.
    obtain ⟨n, hn, hbegin, -⟩ := (h first).mpr ⟨le_rfl, by omega⟩
    have hfewer : (blocks.filter fun n => first + blockSize bits ≤ n.address).length <
        blocks.length := by
      refine List.length_filter_lt_length_iff_exists.mpr ⟨n, hn, ?_⟩
      rw [decide_eq_true_eq]
      omega
    rw [List.length_cons]
    exact Nat.succ_le_of_lt (lt_of_le_of_lt (ih hrest) hfewer)

/-! ## Covers of ranges of addresses -/

/-- Networks in a row, if there are any, begin with the first address, end with the last, and each
begins behind the one before it. -/
lemma Tiles.spec {blocks : List Network} {next : Nat} (h : Tiles first next blocks)
    (hne : blocks ≠ []) :
    blocks.head?.map Network.address = some first ∧
      blocks.IsChain (fun m n => n.address = m.last + 1) ∧
      blocks.getLast?.map (fun n => n.last + 1) = some next := by
  induction blocks generalizing first with
  | nil => exact absurd rfl hne
  | cons n rest ih =>
    obtain ⟨rfl, h⟩ := h
    have hnext : n.last + 1 = n.address + n.size := n.last_add_one
    cases rest with
    | nil => exact ⟨rfl, .singleton n, congrArg some (hnext.trans h)⟩
    | cons m rest =>
      obtain ⟨-, hchain, hlast⟩ := ih h (List.cons_ne_nil m rest)
      exact ⟨rfl, .cons_cons (h.1.trans hnext.symm) hchain, hlast⟩

/-- Networks that hold exactly the addresses of a range fill it. -/
lemma Fills.of_contains {blocks : List Network} {first last : IPv4}
    (h : ∀ a : IPv4, (∃ n ∈ blocks, n.contains a) ↔ first.value ≤ a.value ∧ a.value ≤ last.value) :
    Fills blocks first.value (last.value + 1) := by
  intro a
  have hlast := last.value_lt
  constructor
  · rintro ⟨n, hn, hle, hlt⟩
    have hend := n.end_le
    have hrange := (h ⟨a, by omega⟩).mp ⟨n, hn, (n.contains_iff _).mpr ⟨hle, hlt⟩⟩
    exact ⟨hrange.1, Nat.lt_succ_of_le hrange.2⟩
  · rintro ⟨hle, hlt⟩
    obtain ⟨n, hn, hcontains⟩ := (h ⟨a, by omega⟩).mpr ⟨hle, Nat.le_of_lt_succ hlt⟩
    exact ⟨n, hn, (n.contains_iff _).mp hcontains⟩

end FirewallPolicy.Address
