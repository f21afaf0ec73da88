import FirewallPolicy.Proofs.Address.Notation
import FirewallPolicy.Proofs.Firewall.RuleText

/-!
# The two families of addresses

A text for an address or a network that is accepted is of one of two families, and the colons in it
tell which: there are none in the first, and at least two in the second, before any scope.

* `Address.IsIPv4`: the texts that denote a network of the first family, or a single address of it.
* `Address.exists_colons_of_isSubject`: what else is accepted has two colons before any blank.
-/

namespace FirewallPolicy.Address

open FirewallPolicy.Text

/-! ## IPv4 -/

/-- The text denotes an IPv4 network or a single IPv4 address. -/
def IsIPv4 (text : String) : Prop := ∃ n, Denotes text.toList n

lemma isIPv4_iff {text : String} : IsIPv4 text ↔ (Network.ofChars? text.toList).isSome := by
  simp only [IsIPv4, Option.isSome_iff_exists, Network.ofChars?_eq_some_iff]

instance (text : String) : Decidable (IsIPv4 text) := decidable_of_iff _ isIPv4_iff.symm

/-- Lengths and masks are written with digits and dots. -/
lemma IsSuffix.notMem {suffix : List Char} {length : Nat} (h : IsSuffix suffix length) {c : Char}
    (hdot : c ≠ '.') (hdigit : isAsciiDigit c = false) : c ∉ suffix := by
  cases h with
  | length zeros hn hlimit =>
    intro hc
    have hdigits := (valueOf_eq_iff.mpr ⟨zeros, rfl⟩).2.1 c hc
    exact Bool.false_ne_true (hdigit.symm.trans hdigits)
  | netmask hn hmask => exact notMem_text hdot hdigit _
  | hostmask hn hmask => exact notMem_text hdot hdigit _

/-- What denotes an IPv4 network is accepted. -/
lemma IsIPv4.isSubject {text : String} (h : IsIPv4 text) : IsSubject text := by
  refine .inr ?_
  rw [isNetwork, isIPv4_iff.mp h, Bool.true_or]

/-- IPv4 networks are written with digits, dots and a slash. -/
lemma IsIPv4.notMem {text : String} (h : IsIPv4 text) {c : Char} (hdot : c ≠ '.') (hslash : c ≠ '/')
    (hdigit : isAsciiDigit c = false) : c ∉ text.toList := by
  have hdenotes : ∀ {cs n}, Denotes cs n → c ∉ cs := by
    intro cs n h
    cases h with
    | address hlength ha => exact notMem_text hdot hdigit _
    | network hlength ha =>
      rw [List.mem_append, List.mem_cons, not_or, not_or]
      exact ⟨notMem_text hdot hdigit _, hslash, hlength.notMem hdot hdigit⟩
  obtain ⟨n, h⟩ := h
  exact hdenotes h

lemma IsIPv4.blank_notMem {text : String} (h : IsIPv4 text) : ' ' ∉ text.toList :=
  h.notMem (by decide) (by decide) rfl

lemma IsIPv4.colon_notMem {text : String} (h : IsIPv4 text) : ':' ∉ text.toList :=
  h.notMem (by decide) (by decide) rfl

/-- A single IPv4 address is an IPv4 network. -/
lemma isIPv4_of_isSome {text : String} (h : (IPv4.ofChars? text.toList).isSome) : IsIPv4 text := by
  obtain ⟨a, ha⟩ := Option.isSome_iff_exists.mp h
  refine ⟨Network.holding a 32 (Nat.le_refl 32), ?_⟩
  rw [IPv4.ofChars?_eq_some_iff.mp ha]
  obtain ⟨hlength, hcontains⟩ := (Network.holding_eq_iff (Nat.le_refl 32)).mp rfl
  exact .address hlength hcontains

/-! ## IPv6 -/

/-- An address has at least three groups. -/
lemma two_le_count_of_sixteenBytes? {cs : List Char} (h : (sixteenBytes? cs).isSome) :
    2 ≤ cs.count ':' := by
  have hgroups : (groups? cs).isSome := by
    cases hgroups : groups? cs with
    | some parts => rfl
    | none => simp [sixteenBytes?, hgroups] at h
  have hlength := length_fieldsOf ':' cs
  by_contra hfew
  have hshort : (fieldsOf ':' cs).length < 3 := by omega
  simp [groups?, hshort] at hgroups

/-- A text that begins with the two colons of an address, before any blank. -/
def HasColons (cs : List Char) : Prop :=
  ∃ body rest, cs = body ++ rest ∧ 2 ≤ body.count ':' ∧ ' ' ∉ body

lemma HasColons.append {cs : List Char} (h : HasColons cs) (rest : List Char) :
    HasColons (cs ++ rest) := by
  obtain ⟨body, rest', rfl, hcount, hblank⟩ := h
  exact ⟨body, rest' ++ rest, by rw [List.append_assoc], hcount, hblank⟩

lemma hasColons_of_ofChars? {cs : List Char} (h : (IPv6.ofChars? cs).isSome) : HasColons cs := by
  have hbody : ∀ body, (sixteenBytes? body).isSome → HasColons body := by
    intro body hbody
    refine ⟨body, [], by simp, two_le_count_of_sixteenBytes? hbody, fun hblank => ?_⟩
    exact absurd (sixteenBytes?_chars hbody _ hblank) (by decide)
  unfold IPv6.ofChars? at h
  split at h
  · exact hbody cs (by simpa using h)
  · rename_i body scope hcut
    rw [(cutAt?_eq_some_iff.mp hcut).1]
    split at h
    · cases h
    · exact (hbody body (by simpa using h)).append _

lemma hasColons_of_isIPv6Network {cs : List Char} (h : isIPv6Network cs) : HasColons cs := by
  have hcs := joinWith_fieldsOf '/' cs
  unfold isIPv6Network at h
  split at h
  · rename_i a hfields
    rw [← hcs, hfields]
    exact hasColons_of_ofChars? h
  · rename_i a s hfields
    rw [← hcs, hfields]
    exact (hasColons_of_ofChars? (Bool.and_eq_true_iff.mp h).1).append _
  · cases h

/-- An accepted text that is not of the first family has two colons before any blank. -/
theorem hasColons_of_isSubject {text : String} (h : IsSubject text) (hother : ¬ IsIPv4 text) :
    HasColons text.toList := by
  rcases h with h | h
  · simp only [isAddress, Bool.and_eq_true, Bool.or_eq_true] at h
    exact h.2.elim (fun h => absurd (isIPv4_of_isSome h) hother) hasColons_of_ofChars?
  · simp only [isNetwork, Bool.or_eq_true] at h
    exact h.elim (fun h => absurd (isIPv4_iff.mpr h) hother) hasColons_of_isIPv6Network

/-- Of such a text the piece in front of the first blank has the colons too. -/
lemma HasColons.exists_fieldsOf {cs : List Char} (h : HasColons cs) :
    ∃ first rest, fieldsOf ' ' cs = first :: rest ∧ 2 ≤ first.count ':' := by
  obtain ⟨body, rest, rfl, hcount, hblank⟩ := h
  have hfields : ∀ body : List Char, ' ' ∉ body → ∃ first pieces,
      fieldsOf ' ' (body ++ rest) = (body ++ first) :: pieces := by
    intro body
    induction body with
    | nil =>
      intro _
      exact List.exists_cons_of_ne_nil (fieldsOf_ne_nil ' ' rest)
    | cons c body ih =>
      intro hblank
      rw [List.mem_cons, not_or] at hblank
      obtain ⟨first, pieces, hpieces⟩ := ih hblank.2
      refine ⟨first, pieces, ?_⟩
      rw [List.cons_append, fieldsOf, if_neg (Ne.symm hblank.1), hpieces, List.cons_append]
  obtain ⟨first, pieces, hpieces⟩ := hfields body hblank
  refine ⟨_, _, hpieces, ?_⟩
  rw [List.count_append]
  omega

end FirewallPolicy.Address
