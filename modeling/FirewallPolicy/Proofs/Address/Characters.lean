import FirewallPolicy.Proofs.Firewall.RuleText
import FirewallPolicy.Proofs.Shell.Words

/-!
# The characters of addresses

A text that is read as an address or a network consists of digits and separators, but for the scope
of an IPv6 address, which may be any text.  Without a percent sign there is no scope.

* `Address.isSafe_of_isAddress`, `Address.isSafe_of_isNetwork`, `Address.isSafe_of_isSubject`: such
  a text is safe for a shell if there is no percent sign in it.
* `Address.Network.isSafe_text`: a network is always safe as it is written.
-/

namespace FirewallPolicy.Address

open FirewallPolicy.Shell (IsSafe isSafeChar isSafe_toString)
open FirewallPolicy.Text

/-- Where all of a list can be read, every element can. -/
lemma isSome_of_mapM {α β : Type} {f : α → Option β} {xs : List α} {ys : List β}
    (h : xs.mapM f = some ys) : ∀ x ∈ xs, (f x).isSome := by
  induction xs generalizing ys with
  | nil => simp
  | cons x xs ih =>
    rw [List.mapM_cons] at h
    obtain ⟨y, hy, h⟩ := Option.bind_eq_some_iff.mp h
    obtain ⟨ys', hys', -⟩ := Option.bind_eq_some_iff.mp h
    rw [List.forall_mem_cons]
    exact ⟨by rw [hy]; rfl, ih hys'⟩

/-! ## Single characters -/

lemma isSafeChar_of_isAsciiDigit {c : Char} (h : isAsciiDigit c) : isSafeChar c := by
  have hrange : '0' ≤ c ∧ c ≤ '9' := by simpa [isAsciiDigit] using h
  simp [isSafeChar, Scalar.isTokenChar, asciiDigit?, hrange]

lemma isSafeChar_of_digitBelow? {base : Nat} {c : Char} (h : (digitBelow? base c).isSome) :
    isSafeChar c := by
  have hdigit : (asciiDigit? c).isSome := by
    rw [digitBelow?] at h
    cases hc : asciiDigit? c with
    | none => simp [hc] at h
    | some d => rfl
  simp [isSafeChar, Scalar.isTokenChar, hdigit]

/-! ## IPv4 -/

lemma octet?_chars {cs : List Char} (h : (octet? cs).isSome) : ∀ c ∈ cs, isSafeChar c := by
  unfold octet? at h
  split at h
  · cases h
  · rename_i hdigits
    simp only [not_or, Bool.not_eq_true', Bool.not_eq_false, List.all_eq_true] at hdigits
    exact fun c hc => isSafeChar_of_isAsciiDigit (hdigits.2.1 c hc)

lemma dottedQuad?_chars {cs : List Char} (h : (dottedQuad? cs).isSome) :
    ∀ c ∈ cs, isSafeChar c := by
  unfold dottedQuad? at h
  split at h
  · rename_i hfields
    exact forall_mem_of_fieldsOf '.' (by decide) fun piece hpiece =>
      octet?_chars (isSome_of_mapM hfields piece hpiece)
  · cases h

lemma IPv4.ofChars?_chars {cs : List Char} (h : (IPv4.ofChars? cs).isSome) :
    ∀ c ∈ cs, isSafeChar c :=
  dottedQuad?_chars (by simpa [IPv4.ofChars?] using h)

lemma length?_chars {limit : Nat} {cs : List Char} (h : (length? limit cs).isSome) :
    ∀ c ∈ cs, isSafeChar c := by
  unfold length? at h
  split at h
  · cases h
  · rename_i hdigits
    simp only [not_or, Bool.not_eq_true', Bool.not_eq_false, List.all_eq_true] at hdigits
    exact fun c hc => isSafeChar_of_isAsciiDigit (hdigits.2.1 c hc)

lemma suffix?_chars {cs : List Char} (h : (suffix? cs).isSome) : ∀ c ∈ cs, isSafeChar c := by
  unfold suffix? at h
  cases hlength : length? 32 cs with
  | some n =>
    have hsome : (length? 32 cs).isSome := by
      rw [hlength]
      rfl
    exact length?_chars hsome
  | none =>
    rw [hlength] at h
    cases hquad : dottedQuad? cs with
    | some n => exact dottedQuad?_chars (by rw [hquad]; rfl)
    | none => simp [hquad] at h

lemma Network.ofChars?_chars {cs : List Char} (h : (Network.ofChars? cs).isSome) :
    ∀ c ∈ cs, isSafeChar c := by
  unfold Network.ofChars? at h
  split at h
  · rename_i a hfields
    refine forall_mem_of_fieldsOf '/' (by decide) ?_
    rw [hfields, List.forall_mem_singleton]
    exact IPv4.ofChars?_chars (by simpa using h)
  · rename_i a s hfields
    refine forall_mem_of_fieldsOf '/' (by decide) ?_
    obtain ⟨n, hn⟩ := Option.isSome_iff_exists.mp h
    obtain ⟨address, haddress, hn⟩ := Option.bind_eq_some_iff.mp hn
    obtain ⟨length, hlength, -⟩ := Option.bind_eq_some_iff.mp hn
    rw [hfields]
    simp only [List.forall_mem_cons]
    exact ⟨IPv4.ofChars?_chars (by rw [haddress]; rfl), suffix?_chars (by rw [hlength]; rfl),
      by simp⟩
  · cases h

/-! ## IPv6 -/

lemma group?_chars {cs : List Char} (h : (group? cs).isSome) : ∀ c ∈ cs, isSafeChar c := by
  unfold group? at h
  split at h
  · cases h
  · obtain ⟨n, hn⟩ := Option.isSome_iff_exists.mp h
    obtain ⟨digits, hdigits, -⟩ := Option.map_eq_some_iff.mp hn
    exact fun c hc => isSafeChar_of_digitBelow? (isSome_of_mapM hdigits c hc)

/-- Dropping an empty part at the beginning loses no other part. -/
lemma mem_dropEmptyHead {parts : List (List Char)} {part : List Char} (h : part ∈ parts) :
    part = [] ∨ part ∈ (if parts.head? = some [] then parts.drop 1 else parts) := by
  split
  · rename_i hhead
    cases parts with
    | nil => cases h
    | cons first rest =>
      cases hhead
      rcases List.mem_cons.mp h with rfl | h
      · exact .inl rfl
      · exact .inr h
  · exact .inr h

/-- Dropping an empty part at the end loses no other part. -/
lemma mem_dropEmptyLast {parts : List (List Char)} {part : List Char} (h : part ∈ parts) :
    part = [] ∨ part ∈ (if parts.getLast? = some [] then parts.dropLast else parts) := by
  split
  · rename_i hlast
    obtain ⟨front, hfront⟩ := List.getLast?_eq_some_iff.mp hlast
    rw [hfront] at h ⊢
    rw [List.dropLast_concat]
    rcases List.mem_append.mp h with h | h
    · exact .inr h
    · exact .inl (List.mem_singleton.mp h)
  · exact .inr h

/-- Every part is on either side of an empty one, unless it is empty itself. -/
lemma mem_sides? {parts before after : List (List Char)} {gap : Nat}
    (h : sides? parts gap = some (before, after)) (hgap : parts.getD gap [] = []) :
    ∀ part ∈ parts, part = [] ∨ part ∈ before ∨ part ∈ after := by
  have hsides : before = (if (parts.take gap).head? = some [] then (parts.take gap).drop 1
        else parts.take gap) ∧
      after = (if (parts.drop (gap + 1)).getLast? = some [] then (parts.drop (gap + 1)).dropLast
        else parts.drop (gap + 1)) := by
    unfold sides? at h
    simp only [Option.ite_none_left_eq_some, Option.some.injEq, Prod.mk.injEq] at h
    exact ⟨h.2.2.2.1.symm, h.2.2.2.2.symm⟩
  obtain ⟨rfl, rfl⟩ := hsides
  intro part hpart
  rw [← List.take_append_drop gap parts, List.mem_append] at hpart
  -- The part stands in front of the gap, or is the gap, or stands behind it.
  rcases hpart with hpart | hpart
  · rcases mem_dropEmptyHead hpart with hnil | hmem
    · exact .inl hnil
    · exact .inr (.inl hmem)
  · by_cases hlt : gap < parts.length
    · rw [List.drop_eq_getElem_cons hlt] at hpart
      rcases List.mem_cons.mp hpart with rfl | hpart
      · left
        rwa [List.getD_eq_getElem?_getD, List.getElem?_eq_getElem hlt] at hgap
      · rcases mem_dropEmptyLast hpart with hnil | hmem
        · exact .inl hnil
        · exact .inr (.inr hmem)
    · rw [List.drop_eq_nil_of_le (by omega)] at hpart
      cases hpart

/-- The parts of an address that is read are made of digits. -/
lemma groups?_chars {cs : List Char} (h : (sixteenBytes? cs).isSome) :
    ∃ parts, groups? cs = some parts ∧ ∀ part ∈ parts, ∀ c ∈ part, isSafeChar c := by
  obtain ⟨n, hn⟩ := Option.isSome_iff_exists.mp h
  obtain ⟨parts, hparts, hn⟩ := Option.bind_eq_some_iff.mp hn
  refine ⟨parts, hparts, ?_⟩
  simp only [Option.bind_eq_bind] at hn
  split at hn
  · cases hn
  · have hread : ∀ (groups : List (List Char)) (ns : List Nat), groups.mapM group? = some ns →
        ∀ part ∈ groups, ∀ c ∈ part, isSafeChar c :=
      fun groups ns hns part hpart => group?_chars (isSome_of_mapM hns part hpart)
    split at hn
    · split at hn
      · obtain ⟨ns, hns, -⟩ := Option.map_eq_some_iff.mp hn
        exact hread parts ns hns
      · cases hn
    · rename_i gap hgaps
      -- A gap is an empty part, so the parts on both sides of it are all that matter.
      have hempty : parts.getD gap [] = [] := by
        have hmem : gap ∈ gaps parts := by rw [hgaps]; exact List.mem_singleton_self _
        simp only [gaps, List.mem_filter, Bool.and_eq_true, List.isEmpty_iff] at hmem
        exact hmem.2.2
      obtain ⟨⟨before, after⟩, hsides, hn⟩ := Option.bind_eq_some_iff.mp hn
      obtain ⟨high, hhigh, hn⟩ := Option.bind_eq_some_iff.mp hn
      obtain ⟨low, hlow, -⟩ := Option.bind_eq_some_iff.mp hn
      intro part hpart
      rcases mem_sides? hsides hempty part hpart with rfl | hmem | hmem
      · simp
      · exact hread before high hhigh part hmem
      · exact hread after low hlow part hmem
    · cases hn

lemma sixteenBytes?_chars {cs : List Char} (h : (sixteenBytes? cs).isSome) :
    ∀ c ∈ cs, isSafeChar c := by
  obtain ⟨parts, hparts, hchars⟩ := groups?_chars h
  refine forall_mem_of_fieldsOf ':' (by decide) fun piece hpiece => ?_
  simp only [groups?] at hparts
  split at hparts
  · cases hparts
  · split at hparts
    · obtain ⟨n, hquad, rfl⟩ := Option.map_eq_some_iff.mp hparts
      -- The last piece is an IPv4 address, from which two of the parts were made.
      have hne := fieldsOf_ne_nil ':' cs
      rw [← List.dropLast_concat_getLast hne, List.mem_append, List.mem_singleton] at hpiece
      rcases hpiece with hpiece | rfl
      · exact hchars piece (List.mem_append_left _ hpiece)
      · rw [List.getLastD_eq_getLast?, List.getLast?_eq_some_getLast hne, Option.getD_some] at hquad
        exact dottedQuad?_chars (by rw [hquad]; rfl)
    · cases hparts
      exact hchars piece hpiece

/-- Without a percent sign, there is no scope. -/
lemma IPv6.ofChars?_chars {cs : List Char} (h : (IPv6.ofChars? cs).isSome) (hscope : '%' ∉ cs) :
    ∀ c ∈ cs, isSafeChar c := by
  rw [IPv6.ofChars?, cutAt?_of_notMem hscope] at h
  exact sixteenBytes?_chars (by simpa using h)

lemma isIPv6Network_chars {cs : List Char} (h : isIPv6Network cs) (hscope : '%' ∉ cs) :
    ∀ c ∈ cs, isSafeChar c := by
  have hpiece : ∀ piece ∈ fieldsOf '/' cs, '%' ∉ piece :=
    fun piece hpiece hmem => hscope (subset_of_mem_fieldsOf hpiece hmem)
  unfold isIPv6Network at h
  refine forall_mem_of_fieldsOf '/' (by decide) ?_
  split at h
  · rename_i a hfields
    rw [hfields, List.forall_mem_singleton] at hpiece ⊢
    exact IPv6.ofChars?_chars h hpiece
  · rename_i a s hfields
    rw [hfields, List.forall_mem_cons] at hpiece
    rw [hfields]
    rw [Bool.and_eq_true] at h
    simp only [List.forall_mem_cons]
    exact ⟨IPv6.ofChars?_chars h.1 hpiece.1, length?_chars h.2, by simp⟩
  · cases h

/-! ## Whole texts -/

/-- An address without a percent sign is safe. -/
theorem isSafe_of_isAddress {s : String} (h : isAddress s) (hscope : '%' ∉ s.toList) :
    IsSafe s := by
  refine ⟨?_, ?_⟩
  · rintro rfl
    exact absurd h (by decide)
  · simp only [isAddress, Bool.and_eq_true, Bool.or_eq_true] at h
    rcases h.2 with h | h
    · exact IPv4.ofChars?_chars h
    · exact IPv6.ofChars?_chars h hscope

/-- A network without a percent sign is safe. -/
theorem isSafe_of_isNetwork {s : String} (h : isNetwork s) (hscope : '%' ∉ s.toList) :
    IsSafe s := by
  refine ⟨?_, ?_⟩
  · rintro rfl
    exact absurd h (by decide)
  · simp only [isNetwork, Bool.or_eq_true] at h
    rcases h with h | h
    · exact Network.ofChars?_chars h
    · exact isIPv6Network_chars h hscope

/-- What a rule may be about is safe without a percent sign. -/
theorem isSafe_of_isSubject {s : String} (h : IsSubject s) (hscope : '%' ∉ s.toList) :
    IsSafe s := by
  rcases h with h | h
  · exact isSafe_of_isAddress h hscope
  · exact isSafe_of_isNetwork h hscope

/-- A network is written safely. -/
theorem Network.isSafe_text (n : Network) : IsSafe n.text := by
  have hdot : IsSafe "." := by decide
  have hslash : IsSafe "/" := by decide
  have hquad : ∀ m, IsSafe (quadText m) := fun m =>
    ((((((isSafe_toString _).append hdot).append (isSafe_toString _)).append hdot).append
      (isSafe_toString _)).append hdot).append (isSafe_toString _)
  exact ((hquad _).append hslash).append (isSafe_toString _)

end FirewallPolicy.Address
