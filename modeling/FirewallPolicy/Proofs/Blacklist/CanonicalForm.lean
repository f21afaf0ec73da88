import FirewallPolicy.Proofs.Address.Notation
import FirewallPolicy.Proofs.Jobs.DocumentedErrors
import FirewallPolicy.Proofs.Text.Trimmed
import Mathlib.Data.List.Sort

/-!
# The canonical form of a blacklist

What the entries of a blacklist are brought into depends on which networks they denote, and on
nothing else: not on their order, on repetitions, on host bits, or on how a length is written.

* `Address.Network.Precedes`: networks by address, those of one address by length.
* `Blacklist.sortNetworks_eq_iff`: sorting gives the one list in this order with the same networks.
* `Blacklist.IsFirstRefused`: the first entry that denotes no network.
* `BlacklistSync.networksOf_canonical`: what comes of the entries, and that this is canonical.
-/

namespace FirewallPolicy

open Address (Network Denotes)

/-- Networks by address, those of one address by length. -/
def Address.Network.Precedes (m n : Network) : Prop :=
  m.address < n.address ∨ m.address = n.address ∧ m.length < n.length

namespace Blacklist

/-! ## Order -/

lemma before_iff {m n : Network} : m.before n ↔ m.Precedes n := by
  simp [Network.before, Network.Precedes]

lemma precedes_trans {l m n : Network} (hlm : l.Precedes m) (hmn : m.Precedes n) :
    l.Precedes n := by
  unfold Network.Precedes at *
  omega

instance : Std.Irrefl Network.Precedes :=
  ⟨fun n h => by simp [Network.Precedes] at h⟩

instance : Std.Antisymm Network.Precedes :=
  ⟨fun m _ hmn hnm => absurd (precedes_trans hmn hnm) (Std.Irrefl.irrefl m)⟩

/-- Of two networks one comes first, unless they are the same. -/
lemma eq_of_not_precedes {m n : Network} (hmn : ¬ m.Precedes n) (hnm : ¬ n.Precedes m) : m = n := by
  obtain ⟨maddress, mlength, _, _, _⟩ := m
  obtain ⟨naddress, nlength, _, _, _⟩ := n
  simp only [Network.Precedes] at hmn hnm
  obtain ⟨rfl, rfl⟩ : maddress = naddress ∧ mlength = nlength := by omega
  rfl

lemma mem_insertNetwork {m n : Network} {networks : List Network} :
    m ∈ insertNetwork n networks ↔ m = n ∨ m ∈ networks := by
  induction networks with
  | nil => simp [insertNetwork]
  | cons first rest ih =>
    rw [insertNetwork]
    split_ifs with hfront hbehind
    · exact List.mem_cons
    · rw [List.mem_cons, ih, List.mem_cons]
      exact or_left_comm
    · -- The network is there already.
      rw [before_iff] at hfront hbehind
      obtain rfl := eq_of_not_precedes hfront hbehind
      simp

lemma pairwise_insertNetwork {networks : List Network} (h : networks.Pairwise Network.Precedes)
    (n : Network) : (insertNetwork n networks).Pairwise Network.Precedes := by
  induction networks with
  | nil => simp [insertNetwork]
  | cons first rest ih =>
    obtain ⟨hfirst, hrest⟩ := List.pairwise_cons.mp h
    rw [insertNetwork]
    split_ifs with hfront hbehind
    · rw [before_iff] at hfront
      refine List.pairwise_cons.mpr ⟨fun m hm => ?_, h⟩
      rcases List.mem_cons.mp hm with rfl | hm
      · exact hfront
      · exact precedes_trans hfront (hfirst m hm)
    · refine List.pairwise_cons.mpr ⟨fun m hm => ?_, ih hrest⟩
      rcases mem_insertNetwork.mp hm with rfl | hm
      · exact before_iff.mp hbehind
      · exact hfirst m hm
    · exact h

lemma mem_sortNetworks {n : Network} {networks : List Network} :
    n ∈ sortNetworks networks ↔ n ∈ networks := by
  induction networks with
  | nil => rfl
  | cons first rest ih =>
    rw [List.mem_cons, ← ih]
    exact mem_insertNetwork

lemma pairwise_sortNetworks (networks : List Network) :
    (sortNetworks networks).Pairwise Network.Precedes := by
  induction networks with
  | nil => exact .nil
  | cons first rest ih => exact pairwise_insertNetwork ih first

/-- Sorting gives the one list in order that has the same networks. -/
theorem sortNetworks_eq_iff {networks sorted : List Network} :
    sortNetworks networks = sorted ↔
      sorted.Pairwise Network.Precedes ∧ ∀ n, n ∈ sorted ↔ n ∈ networks := by
  constructor
  · rintro rfl
    exact ⟨pairwise_sortNetworks networks, fun _ => mem_sortNetworks⟩
  · rintro ⟨hsorted, hsame⟩
    exact (pairwise_sortNetworks networks).eq_of_mem_iff hsorted fun n =>
      mem_sortNetworks.trans (hsame n).symm

/-! ## Entries -/

/-- The network that an entry denotes, blanks at its ends left aside. -/
def EntryDenotes (entry : Value) (n : Network) : Prop :=
  Denotes (Text.trim entry.plainText).toList n

/-- The first entry that denotes no network. -/
def IsFirstRefused (entries : List Value) (entry : Value) : Prop :=
  ∃ before after, entries = before ++ entry :: after ∧
    (∀ earlier ∈ before, ∃ n, EntryDenotes earlier n) ∧ ¬ ∃ n, EntryDenotes entry n

/-- A network that one of the entries denotes. -/
def AnyDenotes (entries : List Value) (n : Network) : Prop :=
  ∃ entry ∈ entries, EntryDenotes entry n

lemma network?_eq_some_iff {entry : Value} {n : Network} :
    network? entry = some n ↔ EntryDenotes entry n :=
  Network.ofChars?_eq_some_iff

lemma isSome_network?_iff {entry : Value} :
    (network? entry).isSome ↔ ∃ n, EntryDenotes entry n := by
  simp only [Option.isSome_iff_exists, network?_eq_some_iff]

/-- What is refused is the first entry that denotes no network. -/
lemma readNetworks_error_iff_isFirstRefused {entries : List Value} {cause : SourceError} :
    readNetworks entries = .error cause ↔
      ∃ entry, IsFirstRefused entries entry ∧ cause = .notNetwork entry := by
  have hnone : ∀ entry, network? entry = none ↔ ¬ ∃ n, EntryDenotes entry n := by
    intro entry
    rw [← isSome_network?_iff, Option.not_isSome_iff_eq_none]
  rw [BlacklistSync.readNetworks_error_iff]
  simp only [isSome_network?_iff, hnone]
  constructor
  · rintro ⟨before, entry, after, hentries, hbefore, hentry, rfl⟩
    exact ⟨entry, ⟨before, after, hentries, hbefore, hentry⟩, rfl⟩
  · rintro ⟨entry, ⟨before, after, hentries, hbefore, hentry⟩, rfl⟩
    exact ⟨before, entry, after, hentries, hbefore, hentry, rfl⟩

/-- If all entries denote networks, these are read. -/
lemma readNetworks_of_forall {entries : List Value}
    (h : ∀ entry ∈ entries, ∃ n, EntryDenotes entry n) :
    ∃ networks, readNetworks entries = .ok networks ∧
      ∀ n, n ∈ networks ↔ AnyDenotes entries n := by
  induction entries with
  | nil => exact ⟨[], rfl, by simp [AnyDenotes]⟩
  | cons entry rest ih =>
    rw [List.forall_mem_cons] at h
    obtain ⟨⟨n, hn⟩, hrest⟩ := h
    obtain ⟨networks, hread, hmem⟩ := ih hrest
    have hsome := network?_eq_some_iff.mpr hn
    refine ⟨n :: networks, by simp only [readNetworks, hsome, hread, Except.map], fun m => ?_⟩
    have hm : EntryDenotes entry m ↔ m = n := by
      rw [← network?_eq_some_iff, hsome, Option.some.injEq, eq_comm]
    rw [List.mem_cons, hmem]
    simp only [AnyDenotes, List.exists_mem_cons_iff, hm]

/-- If not all entries denote networks, they are refused. -/
lemma exists_error_of_not_forall {entries : List Value}
    (h : ¬ ∀ entry ∈ entries, ∃ n, EntryDenotes entry n) :
    ∃ cause, readNetworks entries = .error cause := by
  induction entries with
  | nil => simp at h
  | cons entry rest ih =>
    rw [readNetworks]
    cases hentry : network? entry with
    | none => exact ⟨_, rfl⟩
    | some n =>
      obtain ⟨cause, hcause⟩ := ih fun hrest =>
        h (List.forall_mem_cons.mpr ⟨⟨n, network?_eq_some_iff.mp hentry⟩, hrest⟩)
      exact ⟨cause, by rw [hcause]; rfl⟩

/-- Entries that denote networks are brought into these, in order. -/
lemma normalize_ok_iff {entries : List Value} {texts : List String} :
    normalize entries = .ok texts ↔ (∀ entry ∈ entries, ∃ n, EntryDenotes entry n) ∧
      ∃ networks : List Network, texts = networks.map Network.text ∧
        networks.Pairwise Network.Precedes ∧ ∀ n, n ∈ networks ↔ AnyDenotes entries n := by
  by_cases hall : ∀ entry ∈ entries, ∃ n, EntryDenotes entry n
  · obtain ⟨networks, hread, hmem⟩ := readNetworks_of_forall hall
    rw [normalize, hread]
    constructor
    · intro h
      cases h
      refine ⟨hall, sortNetworks networks, rfl, pairwise_sortNetworks networks, fun n => ?_⟩
      rw [mem_sortNetworks, hmem]
    · rintro ⟨-, sorted, rfl, hsorted, hsame⟩
      have heq := sortNetworks_eq_iff.mpr ⟨hsorted, fun n => (hsame n).trans (hmem n).symm⟩
      rw [Except.map, heq]
  · obtain ⟨cause, hcause⟩ := exists_error_of_not_forall hall
    refine iff_of_false (fun h => ?_) (fun h => hall h.1)
    rw [normalize, hcause] at h
    cases h

/-! ## Networks as entries -/

/-- The characters of a word of a command lie between the blanks. -/
lemma isBlank_of_isSafeChar {c : Char} (h : Shell.isSafeChar c) : Text.isBlank c = false := by
  have hrange : 0x21 ≤ c.toNat ∧ c.toNat ≤ 0x7A := by
    simp only [Shell.isSafeChar, Scalar.isTokenChar, Bool.or_eq_true, beq_iff_eq] at h
    rcases h with ((((((((h | rfl) | rfl) | rfl) | rfl) | rfl) | rfl) | rfl) | rfl) | rfl
    · unfold Text.asciiDigit? at h
      split_ifs at h with hdigit hlower hupper
      · have hbounds : 48 ≤ c.toNat ∧ c.toNat ≤ 57 := hdigit
        omega
      · have hbounds : 97 ≤ c.toNat ∧ c.toNat ≤ 122 := hlower
        omega
      · have hbounds : 65 ≤ c.toNat ∧ c.toNat ≤ 90 := hupper
        omega
      · cases h
    all_goals decide
  have hgap : ∀ run ∈ Text.blanks, run.2 < 0x21 ∨ 0x7A < run.1 := by decide
  rw [Text.isBlank, Text.CharTable.contains, List.any_eq_false]
  intro run hrun
  have hbounds := hgap run hrun
  simp only [Bool.and_eq_true, decide_eq_true_eq]
  omega

/-- A network as it is written denotes itself, and nothing else. -/
lemma entryDenotes_text_iff {m n : Network} : EntryDenotes (.text m.text) n ↔ n = m := by
  have htrim : Text.trim m.text = m.text := by
    have htrimmed : Text.IsTrimmed m.text.toList :=
      Text.isTrimmed_of_forall fun c hc => isBlank_of_isSafeChar (m.isSafe_text.2 c hc)
    exact Text.trim_eq_self htrimmed
  have hm : network? (.text m.text) = some m := by
    rw [network?_eq_some_iff, EntryDenotes, Value.plainText, htrim]
    exact m.denotes_text
  rw [← network?_eq_some_iff, hm, Option.some.injEq, eq_comm]

end Blacklist

/-! ## What comes of the entries -/

namespace BlacklistSync

open Blacklist

/-- The networks that the entries of a blacklist are brought into. -/
def networksOf (entries : List Value) : Except JobError (List String) :=
  (normalize entries).mapError entryError

/-- What the job contributes is made of these networks. -/
lemma contribution_eq_map_networksOf (entries : List Value) :
    contribution entries = (networksOf entries).map fun networks =>
      .ofOperations (install networks) uninstall
        [log.info s!"Adding {networks.length} networks to {ChainName.blockSet}"] := by
  rw [contribution, networksOf]
  cases normalize entries <;> rfl

/-- The entries of a blacklist are refused for the first of them that denotes no network, if there
is one, with an error that shows this entry if it can be shown.  Otherwise they are brought into
the networks that they denote, each of them once, by address and then by length.  Entries that
denote the same networks are brought into the same, and what they are brought into stays as it
is. -/
theorem networksOf_canonical (entries : List Value) :
    (∀ e, networksOf entries = .error e ↔ ∃ entry, IsFirstRefused entries entry ∧
      e = if entry.isWritable then .source (.notNetwork entry) else .sourcePort .tooLongToWrite) ∧
    (∀ texts, networksOf entries = .ok texts ↔ (∀ entry ∈ entries, ∃ n, EntryDenotes entry n) ∧
      ∃ networks : List Network, texts = networks.map Network.text ∧
        networks.Pairwise Network.Precedes ∧ ∀ n, n ∈ networks ↔ AnyDenotes entries n) ∧
    (∀ entries', (∀ entry ∈ entries, ∃ n, EntryDenotes entry n) →
      (∀ entry ∈ entries', ∃ n, EntryDenotes entry n) →
      (∀ n, AnyDenotes entries n ↔ AnyDenotes entries' n) →
      networksOf entries = networksOf entries') ∧
    (∀ texts, networksOf entries = .ok texts → networksOf (texts.map .text) = .ok texts) := by
  have hok : ∀ {entries texts}, networksOf entries = .ok texts ↔ normalize entries = .ok texts := by
    intro entries texts
    rw [networksOf]
    cases normalize entries <;> simp [Except.mapError]
  refine ⟨fun e => ?_, fun texts => hok.trans normalize_ok_iff, fun entries' hall hall' hsame => ?_,
    fun texts h => ?_⟩
  · have herror : networksOf entries = .error e ↔
        ∃ cause, readNetworks entries = .error cause ∧ e = entryError cause := by
      rw [networksOf, Blacklist.normalize]
      cases readNetworks entries <;> simp [Except.map, Except.mapError, eq_comm]
    rw [herror]
    simp only [readNetworks_error_iff_isFirstRefused]
    constructor
    · rintro ⟨-, ⟨entry, hfirst, rfl⟩, rfl⟩
      exact ⟨entry, hfirst, rfl⟩
    · rintro ⟨entry, hfirst, rfl⟩
      exact ⟨_, ⟨entry, hfirst, rfl⟩, rfl⟩
  · obtain ⟨networks, -, hmem⟩ := readNetworks_of_forall hall
    have hsorted : ∀ n, n ∈ sortNetworks networks ↔ AnyDenotes entries n := fun n =>
      mem_sortNetworks.trans (hmem n)
    have hleft := hok.mpr <| normalize_ok_iff.mpr
      ⟨hall, sortNetworks networks, rfl, pairwise_sortNetworks networks, hsorted⟩
    have hright := hok.mpr <| normalize_ok_iff.mpr
      ⟨hall', sortNetworks networks, rfl, pairwise_sortNetworks networks,
        fun n => (hsorted n).trans (hsame n)⟩
    rw [hleft, hright]
  · obtain ⟨-, networks, rfl, hpairwise, -⟩ := normalize_ok_iff.mp (hok.mp h)
    refine hok.mpr <| normalize_ok_iff.mpr ⟨?_, networks, rfl, hpairwise, fun n => ?_⟩
    · simp [entryDenotes_text_iff]
    · simp [AnyDenotes, entryDenotes_text_iff]

example : (networksOf [.text "10.9.0.1/255.0.0.0", .text " 9.9.9.9 ",
    .text "10.0.0.0/0.255.255.255"]).toOption = some ["9.9.9.9/32", "10.0.0.0/8"] := by
  decide +kernel

end BlacklistSync

end FirewallPolicy
