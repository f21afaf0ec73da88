import FirewallPolicy.Address.IPv4

/-!
# Covering a range by networks

A range of addresses is split from its first address on.  Each network is the largest that starts
there, which the address's own alignment bounds, and ends within the range, which the number of
addresses left bounds.
-/

namespace FirewallPolicy.Address

/-- How many of the lowest `limit` bits of a number are zero before its first one. -/
def trailingZeros : Nat → Nat → Nat
  | 0, _ => 0
  | limit + 1, n => if n % 2 = 0 then trailingZeros limit (n / 2) + 1 else 0

/-- The number of host bits of the largest network at `first` with at most `count` addresses. -/
def hostBits (first count : Nat) : Nat := min (trailingZeros 32 first) count.log2

/-- The largest network that fits has no more addresses than are left. -/
theorem blockSize_hostBits_le (first : Nat) {count : Nat} (h : count ≠ 0) :
    blockSize (hostBits first count) ≤ count := by
  rw [blockSize, Nat.one_shiftLeft]
  exact Nat.le_trans (Nat.pow_le_pow_right (by decide) (Nat.min_le_right _ _))
    (Nat.log2_self_le h)

/-- The networks that cover the `count` addresses from `first` on, in order. -/
def cover (first count : Nat) : List Network :=
  if _ : count = 0 then []
  else
    let bits := hostBits first count
    Network.holding (IPv4.wrap first) (32 - bits) (Nat.sub_le _ _) ::
      cover (first + blockSize bits) (count - blockSize bits)
termination_by count
decreasing_by exact Nat.sub_lt (Nat.pos_of_ne_zero ‹count ≠ 0›) (blockSize_pos _)

/-- The networks that cover the addresses from `first` to `last`, both included. -/
def coverRange (first last : IPv4) : List Network := cover first.value (last.value + 1 - first.value)

end FirewallPolicy.Address
