import FirewallPolicy.Policy.JobConfig
import Mathlib.Tactic.Common

/-!
# Accepted configurations

What is known of a configuration that was read without a fault.

* `exists_of_bind_eq_ok` and the lemmas on fields take a successful reading apart.
* `IsWord`, `IsSubject` and the `Scalar` lemmas say what the readers of single values let through.
* The `fields_of_read` lemmas take the readings of whole configurations apart.
* `PrepareConfig.Valid`, `ServiceConfig.Valid`, `DnsConfig.Valid` gather what is known of whole
  configurations; the `read_valid` lemmas give it for every accepted one.
-/

namespace FirewallPolicy

/-! ## Taking readings apart -/

/-- Where two steps in a row succeed, both do. -/
lemma exists_of_bind_eq_ok {ε α β : Type} {x : Except ε α} {f : α → Except ε β} {b : β}
    (h : x >>= f = .ok b) : ∃ a, x = .ok a ∧ f a = .ok b := by
  cases x with
  | error e => cases h
  | ok a => exact ⟨a, rfl, h⟩

/-- Where two steps in a row fail, the first one does, or the second one behind it. -/
lemma bind_eq_error_iff {ε α β : Type} {x : Except ε α} {f : α → Except ε β} {e : ε} :
    x >>= f = .error e ↔ x = .error e ∨ ∃ a, x = .ok a ∧ f a = .error e := by
  cases x <;> simp [bind, Except.bind]

/-- A reading that is carried over succeeds where the first one does. -/
lemma Reading.map_ok {α β : Type} {x : Reading α} {f : α → β} {b : β} (h : x.map f = .ok b) :
    ∃ a, x = .ok a ∧ f a = b := by
  cases x with
  | error e => cases h
  | ok a =>
    cases h
    exact ⟨a, rfl, rfl⟩

/-- Of two lists that correspond, every element of the second belongs to one of the first. -/
lemma exists_mem_of_forall₂ {α β : Type} {r : α → β → Prop} {as : List α} {bs : List β} {b : β}
    (h : List.Forall₂ r as bs) (hb : b ∈ bs) : ∃ a ∈ as, r a b := by
  induction h with
  | nil => cases hb
  | @cons a _ as bs hab _ ih =>
    rcases List.mem_cons.mp hb with rfl | hb
    · exact ⟨a, List.mem_cons_self, hab⟩
    · obtain ⟨a', ha', hr⟩ := ih hb
      exact ⟨a', List.mem_cons_of_mem _ ha', hr⟩

/-- A result is what can be seen of it without the faults. -/
lemma Except.eq_ok_of_toOption {ε α : Type} {x : Except ε α} {a : α} (h : x.toOption = some a) :
    x = .ok a := by
  cases x with
  | error e => cases h
  | ok b =>
    cases h
    rfl

namespace Field

section

variable {α : Type} {read : Reader α} {data : Scalar.Mapping} {key path : String}

/-- A field that has to be there is read from the value that is there. -/
lemma present?_of_required {a : α} (h : required read data key path = .ok a) :
    ∃ value, present? data key = some value ∧ read value (Location.key path key) = .ok a := by
  unfold required at h
  split at h
  · cases h
  · rename_i value hpresent
    exact ⟨value, hpresent, h⟩

/-- A field that may be absent is read from the value if there is one. -/
lemma present?_of_optional {a : Option α} (h : optional read data key path = .ok a) :
    (present? data key = none ∧ a = none) ∨ ∃ value b, present? data key = some value ∧
      read value (Location.key path key) = .ok b ∧ a = some b := by
  unfold optional at h
  split at h
  · rename_i habsent
    cases h
    exact .inl ⟨habsent, rfl⟩
  · rename_i value hpresent
    obtain ⟨b, hb, rfl⟩ := Reading.map_ok h
    exact .inr ⟨value, b, hpresent, hb, rfl⟩

/-- A field with a default is the default, or read from the value if there is one. -/
lemma present?_of_withDefault {default a : α} (h : withDefault default read data key path = .ok a) :
    (present? data key = none ∧ a = default) ∨
      ∃ value, present? data key = some value ∧ read value (Location.key path key) = .ok a := by
  obtain ⟨o, ho, rfl⟩ := Reading.map_ok h
  obtain ⟨habsent, rfl⟩ | ⟨value, b, hpresent, hb, rfl⟩ := present?_of_optional ho
  · exact .inl ⟨habsent, rfl⟩
  · exact .inr ⟨value, hpresent, hb⟩

end

/-- What is read of a list is read of its elements, one by one. -/
lemma forall₂_of_elementsFrom {α β : Type} {read : β → String → Reading α} {path : String}
    {start : Nat} {items : List β} {xs : List α} (h : elementsFrom read path start items = .ok xs) :
    List.Forall₂ (fun v x => ∃ at', read v at' = .ok x) items xs := by
  induction items generalizing start xs with
  | nil =>
    cases h
    exact .nil
  | cons v vs ih =>
    obtain ⟨x, hx, hrest⟩ := exists_of_bind_eq_ok h
    obtain ⟨rest, hvs, hxs⟩ := exists_of_bind_eq_ok hrest
    cases hxs
    exact .cons ⟨_, hx⟩ (ih hvs)

/-- Every element of a list that was read comes from an element of the document. -/
lemma elements_ok {α β : Type} {read : β → String → Reading α} {path : String} {items : List β}
    {xs : List α} (h : elements read items path = .ok xs) :
    ∀ x ∈ xs, ∃ v ∈ items, ∃ at', read v at' = .ok x :=
  fun _ => exists_mem_of_forall₂ (forall₂_of_elementsFrom h)

end Field

/-! ## Single values -/

/-- A word that may stand in a command: not empty, and made of token characters. -/
def IsWord (s : String) : Prop := s ≠ "" ∧ ∀ c ∈ s.toList, Scalar.isTokenChar c

instance (s : String) : Decidable (IsWord s) :=
  decidable_of_iff (s ≠ "" ∧ s.toList.all Scalar.isTokenChar) (by rw [List.all_eq_true, IsWord])

/-- What a rule may be about: an address, or a network. -/
def IsSubject (s : String) : Prop := Address.isAddress s ∨ Address.isNetwork s

namespace Scalar

lemma text_ok {value : Value} {path s : String} (h : text value path = .ok s) : s ≠ "" := by
  cases value with
  | text t =>
    simp only [text] at h
    split at h
    · cases h
    · rename_i hne
      cases h
      simpa using hne
  | _ => cases h

/-- A token is a word. -/
lemma token_ok {limit : Option Int} {value : Value} {path s : String}
    (h : token limit value path = .ok s) : IsWord s := by
  obtain ⟨t, ht, hrest⟩ := exists_of_bind_eq_ok h
  split at hrest
  · cases hrest
  · rename_i hall
    have hchars : ∀ c ∈ t.toList, isTokenChar c := by
      simpa [List.all_eq_true] using hall
    -- A limit only makes more words fail.
    cases limit with
    | none =>
      cases hrest
      exact ⟨text_ok ht, hchars⟩
    | some n =>
      simp only at hrest
      split at hrest
      · cases hrest
      · cases hrest
        exact ⟨text_ok ht, hchars⟩

lemma network_ok {value : Value} {path s : String} (h : network value path = .ok s) :
    Address.isNetwork s := by
  obtain ⟨t, ht, hrest⟩ := exists_of_bind_eq_ok h
  split at hrest
  · cases hrest
  · split at hrest
    · cases hrest
    · rename_i hnet
      cases hrest
      simpa using hnet

lemma address_ok {value : Value} {path s : String} (h : address value path = .ok s) :
    Address.isAddress s := by
  obtain ⟨t, ht, hrest⟩ := exists_of_bind_eq_ok h
  split at hrest
  · rename_i haddr
    cases hrest
    exact haddr
  · cases hrest

lemma addressOrNetwork_ok {value : Value} {path s : String}
    (h : addressOrNetwork value path = .ok s) : IsSubject s := by
  obtain ⟨t, ht, hrest⟩ := exists_of_bind_eq_ok h
  split at hrest
  · exact .inr (network_ok hrest)
  · exact .inl (address_ok hrest)

end Scalar

/-! ## Whole configurations -/

/-- The elements of a list that is made from another one. -/
lemma Field.elements_of_map {α β γ : Type} (read : β → String → Reading α) (f : γ → β)
    (items : List γ) (path : String) :
    elements read (items.map f) path = elements (fun item => read (f item)) items path := by
  have hfrom : ∀ start, elementsFrom read path start (items.map f) =
      elementsFrom (fun item => read (f item)) path start items := by
    induction items with
    | nil => exact fun _ => rfl
    | cons item items ih =>
      intro start
      rw [List.map_cons, elementsFrom, elementsFrom, ih]
  exact hfrom 0

lemma NetworkEntry.read_map (data : Scalar.Mapping) (path : String) : read (.map data) path = do
    let value ← Field.required Scalar.network data "value" path
    let description ← Field.withDefault "" Scalar.text data "description" path
    return ⟨value, description⟩ := rfl

/-- The values of a document are read one by one. -/
lemma NetworkEntry.readAll_values (values : List Value) (path : String) :
    readAll values path = Field.elements read values path :=
  Field.elements_of_map _ _ _ _

/-- An entry that was read has a network for its value. -/
lemma NetworkEntry.readAll_ok {values : List Value} {path : String} {entries : List NetworkEntry}
    (h : readAll values path = .ok entries) : ∀ e ∈ entries, Address.isNetwork e.value := by
  intro e he
  rw [readAll_values] at h
  obtain ⟨item, -, at', hread⟩ := Field.elements_ok h e he
  unfold NetworkEntry.read at hread
  split at hread
  · obtain ⟨s, hs, rfl⟩ := Reading.map_ok hread
    exact Scalar.network_ok hs
  · obtain ⟨data, -, hread⟩ := exists_of_bind_eq_ok hread
    obtain ⟨value, hvalue, hread⟩ := exists_of_bind_eq_ok hread
    obtain ⟨description, -, hread⟩ := exists_of_bind_eq_ok hread
    cases hread
    obtain ⟨v, -, hv⟩ := Field.present?_of_required hvalue
    exact Scalar.network_ok hv

/-- What is known of an accepted interface. -/
structure PrimaryInterface.Valid (i : PrimaryInterface) : Prop where
  name : IsWord i.name
  networks : ∀ n ∈ i.networks, Address.isNetwork n.value
  inputAction : IsWord i.inputAction
  outputAction : IsWord i.outputAction

/-- What is known of an accepted configuration of the base chains. -/
structure PrepareConfig.Valid (config : PrepareConfig) : Prop where
  interfaces : ∀ i ∈ config.interfaces, i.Valid
  trusted : ∀ n ∈ config.trustedNetworks, Address.isNetwork n

/-- What is known of an accepted port of a service. -/
structure ServiceItem.Valid (item : ServiceItem) : Prop where
  protocol : IsWord item.protocol
  sources : ∀ s ∈ item.sources, IsSubject s
  destination : ∀ d ∈ item.destination, IsSubject d

/-- What is known of an accepted configuration of a service. -/
structure ServiceConfig.Valid (config : ServiceConfig) : Prop where
  chainName : IsWord config.chainName
  items : ∀ item ∈ config.items, item.Valid

/-- What is known of an accepted forwarding. -/
structure DnsForward.Valid (item : DnsForward) : Prop where
  interface : IsWord item.interface
  sourceAddress : Address.isAddress item.sourceAddress
  destinationAddress : Address.isAddress item.destinationAddress

/-- What is known of an accepted configuration of a name service. -/
structure DnsConfig.Valid (config : DnsConfig) : Prop where
  chainName : IsWord config.chainName
  items : ∀ item ∈ config.items, item.Valid

/-- What the fields of an interface were read from. -/
lemma PrimaryInterface.fields_of_read {value : Value} {path : String} {i : PrimaryInterface}
    (h : PrimaryInterface.read value path = .ok i) :
    ∃ (data input output : Scalar.Mapping) (items : List Value),
      Field.required (Scalar.token (some ChainName.interfaceMaxLength)) data "name" path =
        .ok i.name ∧
      NetworkEntry.readAll items (Location.key path "networks") = .ok i.networks ∧
      Field.required (Scalar.token none) input "defaultAction"
        (Location.key (Location.key path "rules") "input") = .ok i.inputAction ∧
      Field.required (Scalar.token none) output "defaultAction"
        (Location.key (Location.key path "rules") "output") = .ok i.outputAction := by
  obtain ⟨data, -, h⟩ := exists_of_bind_eq_ok h
  obtain ⟨rules, -, h⟩ := exists_of_bind_eq_ok h
  obtain ⟨input, -, h⟩ := exists_of_bind_eq_ok h
  obtain ⟨output, -, h⟩ := exists_of_bind_eq_ok h
  obtain ⟨name, hname, h⟩ := exists_of_bind_eq_ok h
  obtain ⟨items, -, h⟩ := exists_of_bind_eq_ok h
  obtain ⟨networks, hnetworks, h⟩ := exists_of_bind_eq_ok h
  obtain ⟨inputAction, hinput, h⟩ := exists_of_bind_eq_ok h
  obtain ⟨outputAction, houtput, h⟩ := exists_of_bind_eq_ok h
  cases h
  exact ⟨data, input, output, items, hname, hnetworks, hinput, houtput⟩

lemma PrimaryInterface.read_valid {value : Value} {path : String} {i : PrimaryInterface}
    (h : PrimaryInterface.read value path = .ok i) : i.Valid := by
  obtain ⟨data, input, output, items, hname, hnetworks, hinput, houtput⟩ := fields_of_read h
  obtain ⟨_, -, hname⟩ := Field.present?_of_required hname
  obtain ⟨_, -, hinput⟩ := Field.present?_of_required hinput
  obtain ⟨_, -, houtput⟩ := Field.present?_of_required houtput
  exact ⟨Scalar.token_ok hname, NetworkEntry.readAll_ok hnetworks, Scalar.token_ok hinput,
    Scalar.token_ok houtput⟩

/-- What the fields of a configuration of the base chains were read from. -/
lemma PrepareConfig.fields_of_read {value : Value} {globals : List Value} {config : PrepareConfig}
    (h : PrepareConfig.read value globals = .ok config) :
    ∃ interfaces trusted : List Value,
      NetworkEntry.readAll trusted "network.trustedItems" = .ok config.trusted ∧
      Field.elements PrimaryInterface.read interfaces "network.primaryInterfaces" =
        .ok config.interfaces ∧
      NetworkEntry.readAll globals globalTrustedPath = .ok config.globalTrusted := by
  obtain ⟨data, -, h⟩ := exists_of_bind_eq_ok h
  obtain ⟨network, -, h⟩ := exists_of_bind_eq_ok h
  obtain ⟨interfaceItems, -, h⟩ := exists_of_bind_eq_ok h
  obtain ⟨trustedItems, -, h⟩ := exists_of_bind_eq_ok h
  obtain ⟨trusted, htrusted, h⟩ := exists_of_bind_eq_ok h
  obtain ⟨interfaces, hinterfaces, h⟩ := exists_of_bind_eq_ok h
  obtain ⟨globalTrusted, hglobal, h⟩ := exists_of_bind_eq_ok h
  cases h
  exact ⟨interfaceItems, trustedItems, htrusted, hinterfaces, hglobal⟩

/-- Every interface of such a configuration was read. -/
lemma PrepareConfig.exists_read_of_mem {value : Value} {globals : List Value}
    {config : PrepareConfig} (h : PrepareConfig.read value globals = .ok config) :
    ∀ i ∈ config.interfaces, ∃ v at', PrimaryInterface.read v at' = .ok i := by
  obtain ⟨interfaces, trusted, -, hinterfaces, -⟩ := fields_of_read h
  intro i hi
  obtain ⟨v, -, at', hread⟩ := Field.elements_ok hinterfaces i hi
  exact ⟨v, at', hread⟩

/-- Every accepted configuration of the base chains is valid. -/
theorem PrepareConfig.read_valid {value : Value} {globals : List Value} {config : PrepareConfig}
    (h : PrepareConfig.read value globals = .ok config) : config.Valid := by
  obtain ⟨interfaces, trusted, htrusted, -, hglobal⟩ := fields_of_read h
  constructor
  · intro i hi
    obtain ⟨v, at', hread⟩ := exists_read_of_mem h i hi
    exact PrimaryInterface.read_valid hread
  · intro n hn
    simp only [trustedNetworks, List.mem_map, List.mem_append] at hn
    obtain ⟨e, he | he, rfl⟩ := hn
    · exact NetworkEntry.readAll_ok hglobal e he
    · exact NetworkEntry.readAll_ok htrusted e he

lemma readItems_ok {α : Type} {read : Scalar.Mapping → String → Reading α}
    {data : Scalar.Mapping} {xs : List α} (h : readItems read data = .ok xs) :
    ∀ x ∈ xs, ∃ m at', read m at' = .ok x := by
  obtain ⟨network, -, h⟩ := exists_of_bind_eq_ok h
  obtain ⟨items, -, h⟩ := exists_of_bind_eq_ok h
  obtain ⟨mappings, -, h⟩ := exists_of_bind_eq_ok h
  intro x hx
  obtain ⟨m, -, at', hread⟩ := Field.elements_ok h x hx
  exact ⟨m, at', hread⟩

/-- The name of a service's chains is a word if the default is one. -/
lemma readChainName_ok {default mark s : String} {data : Scalar.Mapping} (hdefault : IsWord default)
    (h : readChainName default mark data = .ok s) : IsWord s := by
  obtain ⟨-, rfl⟩ | ⟨value, -, hread⟩ := Field.present?_of_withDefault h
  · exact hdefault
  · exact Scalar.token_ok hread

lemma ServiceItem.read_valid {data : Scalar.Mapping} {path : String} {item : ServiceItem}
    (h : ServiceItem.read data path = .ok item) : item.Valid := by
  obtain ⟨sourceItems, -, h⟩ := exists_of_bind_eq_ok h
  obtain ⟨port, -, h⟩ := exists_of_bind_eq_ok h
  obtain ⟨protocol, hprotocol, h⟩ := exists_of_bind_eq_ok h
  obtain ⟨sources, hsources, h⟩ := exists_of_bind_eq_ok h
  obtain ⟨destination, hdestination, h⟩ := exists_of_bind_eq_ok h
  cases h
  refine ⟨?_, ?_, ?_⟩
  · obtain ⟨_, -, hprotocol⟩ := Field.present?_of_required hprotocol
    exact Scalar.token_ok hprotocol
  · intro s hs
    obtain ⟨v, -, at', hread⟩ := Field.elements_ok hsources s hs
    exact Scalar.addressOrNetwork_ok hread
  · intro d hd
    obtain ⟨-, rfl⟩ | ⟨value, b, -, hread, rfl⟩ := Field.present?_of_optional hdestination
    · cases hd
    · cases hd
      exact Scalar.addressOrNetwork_ok hread

/-- What the fields of a configuration of a service were read from. -/
lemma ServiceConfig.fields_of_read {value : Value} {config : ServiceConfig}
    (h : ServiceConfig.read value = .ok config) :
    ∃ data, Scalar.mapping value "" = .ok data ∧
      readItems ServiceItem.read data = .ok config.items ∧
      readChainName "genericServiceName" "" data = .ok config.chainName := by
  obtain ⟨data, hdata, h⟩ := exists_of_bind_eq_ok h
  obtain ⟨items, hitems, h⟩ := exists_of_bind_eq_ok h
  obtain ⟨chainName, hname, h⟩ := exists_of_bind_eq_ok h
  cases h
  exact ⟨data, hdata, hitems, hname⟩

/-- Every accepted configuration of a service is valid. -/
theorem ServiceConfig.read_valid {value : Value} {config : ServiceConfig}
    (h : ServiceConfig.read value = .ok config) : config.Valid := by
  obtain ⟨data, -, hitems, hname⟩ := fields_of_read h
  refine ⟨readChainName_ok (by decide +kernel) hname, ?_⟩
  intro item hitem
  obtain ⟨m, at', hread⟩ := readItems_ok hitems item hitem
  exact ServiceItem.read_valid hread

/-- What the names and addresses of a forwarding were read from. -/
lemma DnsForward.fields_of_read {data : Scalar.Mapping} {path : String} {item : DnsForward}
    (h : DnsForward.read data path = .ok item) :
    Field.required (Scalar.token (some ChainName.interfaceMaxLength)) data "sourceLinkName" path =
        .ok item.interface ∧
      Field.required Scalar.address data "sourceIpAddress" path = .ok item.sourceAddress ∧
      Field.required Scalar.address data "destinationIpAddress" path =
        .ok item.destinationAddress := by
  obtain ⟨interface, hinterface, h⟩ := exists_of_bind_eq_ok h
  obtain ⟨sourceAddress, hsource, h⟩ := exists_of_bind_eq_ok h
  obtain ⟨destinationAddress, hdestination, h⟩ := exists_of_bind_eq_ok h
  obtain ⟨destinationPort, -, h⟩ := exists_of_bind_eq_ok h
  obtain ⟨sourcePort, -, h⟩ := exists_of_bind_eq_ok h
  cases h
  exact ⟨hinterface, hsource, hdestination⟩

lemma DnsForward.read_valid {data : Scalar.Mapping} {path : String} {item : DnsForward}
    (h : DnsForward.read data path = .ok item) : item.Valid := by
  obtain ⟨hinterface, hsource, hdestination⟩ := fields_of_read h
  obtain ⟨_, -, hinterface⟩ := Field.present?_of_required hinterface
  obtain ⟨_, -, hsource⟩ := Field.present?_of_required hsource
  obtain ⟨_, -, hdestination⟩ := Field.present?_of_required hdestination
  exact ⟨Scalar.token_ok hinterface, Scalar.address_ok hsource, Scalar.address_ok hdestination⟩

/-- What the fields of a configuration of a name service were read from. -/
lemma DnsConfig.fields_of_read {value : Value} {config : DnsConfig}
    (h : DnsConfig.read value = .ok config) :
    ∃ data, Scalar.mapping value "" = .ok data ∧
      readItems DnsForward.read data = .ok config.items ∧
      readChainName "dockerDnsService" ChainName.dnsMark data = .ok config.chainName := by
  obtain ⟨data, hdata, h⟩ := exists_of_bind_eq_ok h
  obtain ⟨items, hitems, h⟩ := exists_of_bind_eq_ok h
  obtain ⟨chainName, hname, h⟩ := exists_of_bind_eq_ok h
  cases h
  exact ⟨data, hdata, hitems, hname⟩

/-- Every accepted configuration of a name service is valid. -/
theorem DnsConfig.read_valid {value : Value} {config : DnsConfig}
    (h : DnsConfig.read value = .ok config) : config.Valid := by
  obtain ⟨data, -, hitems, hname⟩ := fields_of_read h
  refine ⟨readChainName_ok (by decide +kernel) hname, ?_⟩
  intro item hitem
  obtain ⟨m, at', hread⟩ := readItems_ok hitems item hitem
  exact DnsForward.read_valid hread

end FirewallPolicy
