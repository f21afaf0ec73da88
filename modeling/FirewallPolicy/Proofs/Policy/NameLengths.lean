import FirewallPolicy.Proofs.Policy.Tokens
import FirewallPolicy.Proofs.Services.HostService

/-!
# How long names may be

The kernel takes names of chains and of links up to some lengths.  The readers keep to these
lengths: the name that a service is given is limited by what is put in front of it.

* `isToken_limit_iff`: the limit for such a name leaves out no name whose chains would be taken.
* `HostService.isChainName_of_mem_ownChains`: the chains of an accepted service.
* `HostService.readFrom_map_iff`: which names of services are accepted.
* `PrepareConfig.isLinkName_of_read`, `DnsConfig.isLinkName_of_read`: the links in accepted
  configurations.
-/

namespace FirewallPolicy

open FirewallPolicy.ChainName
open FirewallPolicy.Text (trim)

/-! ## Names of chains and of links -/

/-- A name that the kernel takes for a chain. -/
abbrev IsChainName (name : String) : Prop := IsToken (some ChainName.maxLength) name

/-- A name that the kernel takes for a link. -/
abbrev IsLinkName (name : String) : Prop := IsToken (some ChainName.interfaceMaxLength) name

lemma IsToken.isWord {limit : Option Int} {t : String} (h : IsToken limit t) : IsWord t :=
  (Scalar.isToken_iff.mp h).1

lemma isChainName_iff {name : String} :
    IsChainName name ↔ IsWord name ∧ name.length ≤ ChainName.maxLength := by
  simp [Scalar.isToken_iff]

instance (limit : Option Int) (t : String) : Decidable (IsToken limit t) :=
  decidable_of_iff _ Scalar.isToken_iff.symm

/-- The two sides of a chain. -/
def ChainName.sides (chain : String) : List String := [ingress chain, egress chain]

section Names

variable {default mark name : String}

/-- What stands in front of a word may be empty. -/
lemma IsWord.append_left (h : IsWord name) (hmark : mark.toList.all Scalar.isTokenChar) :
    IsWord (mark ++ name) := by
  refine ⟨by simp [h.1], ?_⟩
  rw [String.toList_append, List.forall_mem_append]
  exact ⟨List.all_eq_true.mp hmark, h.2⟩

lemma IsWord.sides (h : IsWord name) : ∀ c ∈ sides name, IsWord c := by
  simp only [ChainName.sides, List.forall_mem_cons]
  exact ⟨h.append_left (by decide), h.append_left (by decide), by simp⟩

/-- The outgoing side has the longer name, and its length is that of what stands in front and of the
name. -/
lemma length_sides_iff : (∀ c ∈ sides (mark ++ name), c.length ≤ ChainName.maxLength) ↔
    (name.length : Int) ≤ ChainName.maxLength - (egress mark).length := by
  have hin : "IN_".length = 3 := by decide
  have hout : "OUT_".length = 4 := by decide
  simp only [ChainName.sides, ingress, egress, String.length_append, List.forall_mem_cons,
    List.not_mem_nil, IsEmpty.forall_iff, implies_true, and_true, hin, hout]
  omega

/-- A name is short enough exactly if the sides of the chain are that is called by it. -/
lemma isToken_limit_iff :
    IsToken (some (ChainName.maxLength - (egress mark).length : Int)) name ↔
      IsWord name ∧ ∀ c ∈ sides (mark ++ name), c.length ≤ ChainName.maxLength := by
  rw [Scalar.isToken_iff, length_sides_iff]
  simp

/-- A name that was given is read if it is short enough. -/
lemma readChainName_of_present {data : Scalar.Mapping} {text : String}
    (h : Field.present? data "chainName" = some (.text text)) :
    readChainName default mark data = .ok name ↔ trim text = name ∧ IsWord name ∧
      ∀ c ∈ sides (mark ++ name), c.length ≤ ChainName.maxLength := by
  rw [← isToken_limit_iff]
  have hread : readChainName default mark data =
      Scalar.token (some (ChainName.maxLength - (egress mark).length : Int)) (.text text)
        (Location.key "" "chainName") := by
    simp only [readChainName, Field.withDefault, Field.optional, h]
    cases Scalar.token _ _ _ <;> rfl
  rw [hread, Scalar.token_eq_ok_iff]
  simp

/-- The name is read last: where the items are read, all is read exactly if the name is. -/
lemma readChainName_of_items {α β : Type} {read : Scalar.Mapping → String → Reading α}
    {data : Scalar.Mapping} {items : List α} (make : List α → String → β)
    (hmake : Function.Injective (make items)) (hitems : readItems read data = .ok items) :
    (do
      let data ← Scalar.mapping (.map data) ""
      let items ← readItems read data
      let chainName ← readChainName default mark data
      return make items chainName) = (.ok (make items name) : Reading β) ↔
      readChainName default mark data = .ok name := by
  show (readItems read data >>= fun items => readChainName default mark data >>= fun chainName =>
    (.ok (make items chainName) : Reading β)) = .ok (make items name) ↔ _
  rw [hitems]
  show (readChainName default mark data >>= fun chainName =>
    (.ok (make items chainName) : Reading β)) = .ok (make items name) ↔ _
  cases readChainName default mark data with
  | error e => exact iff_of_false nofun nofun
  | ok chainName =>
    show Except.ok (make items chainName) = .ok (make items name) ↔ _
    rw [Except.ok.injEq, Except.ok.injEq, hmake.eq_iff]

/-- The sides of the chain that is called by a name that was read are taken, if so it is with the
default. -/
lemma isChainName_of_readChainName {data : Scalar.Mapping}
    (hmark : mark.toList.all Scalar.isTokenChar)
    (hdefault : ∀ c ∈ sides (mark ++ default), IsChainName c)
    (h : readChainName default mark data = .ok name) :
    ∀ c ∈ sides (mark ++ name), IsChainName c := by
  obtain ⟨-, rfl⟩ | ⟨value, -, hread⟩ := Field.present?_of_withDefault h
  · exact hdefault
  · obtain ⟨hword, hlength⟩ := isToken_limit_iff.mp (Scalar.token_eq_ok_iff.mp hread).2
    intro c hc
    exact isChainName_iff.mpr ⟨(hword.append_left hmark).sides c hc, hlength c hc⟩

end Names

/-! ## Services -/

namespace HostService

/-- The name that a service is given; its chains may have a mark in front of it. -/
def givenName : HostService → String
  | .ports config => config.chainName
  | .names config => config.chainName

/-- The job reads the items of this service in a document. -/
def ItemsReadFrom (data : Scalar.Mapping) : HostService → Prop
  | .ports config => readItems ServiceItem.read data = .ok config.items
  | .names config => readItems DnsForward.read data = .ok config.items

variable {s : HostService}

/-- The kernel takes the chains of every service that is accepted. -/
theorem isChainName_of_mem_ownChains {raw : Value} (h : s.ReadFrom raw) :
    ∀ c ∈ s.ownChains, IsChainName c := by
  cases s with
  | ports config =>
    obtain ⟨data, -, -, hname⟩ := ServiceConfig.fields_of_read h
    have hchains := isChainName_of_readChainName (by decide) (by decide +kernel) hname
    rwa [String.empty_append] at hchains
  | names config =>
    obtain ⟨data, -, -, hname⟩ := DnsConfig.fields_of_read h
    exact isChainName_of_readChainName (by decide) (by decide +kernel) hname

/-- Where the items of a service are read, the service is accepted exactly if the name it is given
is a word and its chains are short enough. -/
theorem readFrom_map_iff {data : Scalar.Mapping} {text : String} (hitems : s.ItemsReadFrom data)
    (htext : Field.present? data "chainName" = some (.text text)) (hname : trim text = s.givenName) :
    s.ReadFrom (.map data) ↔
      IsWord s.givenName ∧ ∀ c ∈ s.ownChains, c.length ≤ ChainName.maxLength := by
  -- The two jobs differ in the default and in the mark.
  have hnamed : ∀ {default mark : String}, s.chainName = mark ++ s.givenName →
      (s.ReadFrom (.map data) ↔ readChainName default mark data = .ok s.givenName) →
      (s.ReadFrom (.map data) ↔
        IsWord s.givenName ∧ ∀ c ∈ s.ownChains, c.length ≤ ChainName.maxLength) := by
    intro default mark hchain hread
    rw [hread, readChainName_of_present htext]
    show _ ↔ _ ∧ ∀ c ∈ sides s.chainName, _
    rw [hchain]
    exact and_iff_right hname
  cases s with
  | ports config =>
    exact hnamed String.empty_append.symm <| readChainName_of_items
      (fun items name => ServiceConfig.mk name items)
      (fun _ _ h => (ServiceConfig.mk.inj h).1) hitems
  | names config =>
    exact hnamed rfl <| readChainName_of_items (fun items name => DnsConfig.mk name items)
      (fun _ _ h => (DnsConfig.mk.inj h).1) hitems

end HostService

/-! ## Links -/

/-- The kernel takes the link that a field with this limit names. -/
lemma isLinkName_of_required {data : Scalar.Mapping} {key path name : String}
    (h : Field.required (Scalar.token (some ChainName.interfaceMaxLength)) data key path =
      .ok name) : IsLinkName name := by
  obtain ⟨value, -, hread⟩ := Field.present?_of_required h
  exact (Scalar.token_eq_ok_iff.mp hread).2

/-- The kernel takes the links of every host that is accepted. -/
theorem PrepareConfig.isLinkName_of_read {value : Value} {globals : List Value}
    {config : PrepareConfig} (h : PrepareConfig.read value globals = .ok config) :
    ∀ i ∈ config.interfaces, IsLinkName i.name := by
  intro i hi
  obtain ⟨v, at', hread⟩ := exists_read_of_mem h i hi
  obtain ⟨data, input, output, items, hname, -⟩ := PrimaryInterface.fields_of_read hread
  exact isLinkName_of_required hname

/-- The kernel takes the links of every name service that is accepted. -/
theorem DnsConfig.isLinkName_of_read {value : Value} {config : DnsConfig}
    (h : DnsConfig.read value = .ok config) : ∀ item ∈ config.items, IsLinkName item.interface := by
  obtain ⟨data, -, hitems, -⟩ := fields_of_read h
  intro item hitem
  obtain ⟨m, at', hread⟩ := readItems_ok hitems item hitem
  exact isLinkName_of_required (DnsForward.fields_of_read hread).1

end FirewallPolicy
