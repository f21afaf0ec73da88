import FirewallPolicy.Proofs.Firewall.Packets
import FirewallPolicy.Proofs.Policy.Lapses
import FirewallPolicy.Proofs.Services.Session
import FirewallPolicy.Proofs.Text.Trimmed

/-!
# What a service lets in

The incoming chain of a service is a flat list of rules, made from items with lists of sources and
destinations that may be left out.

* `IsItemOf`, `Declares`: the items of a document, and the packets that an item declares.
* `ServiceItem.admits_iff_declares`: what is read of an item stands for the same packets.
* `Service.any_itemRules_iff`: and so do the rules made from it.
* `service_admits_declared`: the chain accepts just the declared packets, and the others go back.
-/

namespace FirewallPolicy

open FirewallPolicy.Address
open FirewallPolicy.ChainName
open FirewallPolicy.Scalar (Mapping)
open FirewallPolicy.Text (trim readInt)

/-! ## What documents declare -/

/-- A value tells a port: a number, or a text that is read to one. -/
inductive TellsPort : Value → ℕ → Prop
  | number (n : ℕ) : TellsPort (.int n) n
  | text {s : String} {n : ℕ} (h : readInt (trim s) = .ok n) : TellsPort (.text s) n

/-- A mapping is an item of the service that a document describes. -/
def IsItemOf (item : Mapping) (document : Value) : Prop :=
  ∃ data network items, document = .map data ∧
    Field.present? data "network" = some (.map network) ∧
    Field.present? network "items" = some (.list items) ∧ .map item ∈ items

/-- An item declares a packet.  Fields that are null count as absent, and an empty list of sources
stands for any source. -/
structure Declares (item : Mapping) (p : Packet) : Prop where
  protocol : ∃ s, Field.present? item "protocol" = some (.text s) ∧ p.isOf (trim s)
  port : ∃ value n, Field.present? item "portNumber" = some value ∧ TellsPort value n ∧
    p.destinationPort = some n
  destination : ∀ value, Field.present? item "destinationNetwork" = some value →
    ∃ s, value = .text s ∧ p.destination.LiesIn (trim s)
  sources : ∀ value, Field.present? item "sourceNetworks" = some value → value = .list [] ∨
    ∃ members s, value = .list members ∧ .text s ∈ members ∧ p.source.LiesIn (trim s)
  ephemeral : ∃ n, p.sourcePort = some n ∧ 1024 ≤ n ∧ n ≤ 65535

/-- An item that was read lets a packet in. -/
structure ServiceItem.Admits (item : ServiceItem) (p : Packet) : Prop where
  protocol : p.isOf item.protocol
  port : p.destinationPort = some item.port
  destination : ∀ d ∈ item.destination, p.destination.LiesIn d
  sources : item.sources = [] ∨ ∃ s ∈ item.sources, p.source.LiesIn s
  ephemeral : ∃ n, p.sourcePort = some n ∧ 1024 ≤ n ∧ n ≤ 65535

section Documents

variable {value : Value} {path name s : String} {data : Mapping} {item : ServiceItem} {p : Packet}

namespace Scalar

/-- What is read of a text and then checked is the text without the blanks at its ends. -/
lemma eq_trim_of_bind {check : String → Reading String} (h : (text value path >>= check) = .ok s)
    (hcheck : ∀ t, check t = .ok s → s = t) : ∃ t, value = .text t ∧ s = trim t := by
  obtain ⟨t, ht, hrest⟩ := exists_of_bind_eq_ok h
  obtain ⟨u, rfl, rfl, -⟩ := text_eq_ok_iff.mp ht
  exact ⟨u, rfl, hcheck _ hrest⟩

lemma eq_trim_of_token {limit : Option Int} (h : token limit value path = .ok s) :
    ∃ t, value = .text t ∧ s = trim t := by
  refine eq_trim_of_bind h fun t ht => ?_
  cases limit <;>
    · simp only at ht
      split_ifs at ht <;> cases ht
      rfl

lemma eq_trim_of_network (h : network value path = .ok s) : ∃ t, value = .text t ∧ s = trim t := by
  refine eq_trim_of_bind h fun t ht => ?_
  split_ifs at ht <;> cases ht
  rfl

lemma eq_trim_of_address (h : address value path = .ok s) : ∃ t, value = .text t ∧ s = trim t := by
  refine eq_trim_of_bind h fun t ht => ?_
  split_ifs at ht <;> cases ht
  rfl

lemma eq_trim_of_addressOrNetwork (h : addressOrNetwork value path = .ok s) :
    ∃ t, value = .text t ∧ s = trim t := by
  obtain ⟨t, ht, hrest⟩ := exists_of_bind_eq_ok h
  obtain ⟨u, rfl, rfl, -⟩ := text_eq_ok_iff.mp ht
  -- The text is trimmed once more by the reader that it is handed to.
  have hagain : ∃ v, Value.text (trim u) = .text v ∧ s = trim v := by
    split_ifs at hrest
    · exact eq_trim_of_network hrest
    · exact eq_trim_of_address hrest
  obtain ⟨v, hv, rfl⟩ := hagain
  cases hv
  exact ⟨u, rfl, Text.trim_trim u⟩

/-- A number is read to itself. -/
lemma eq_of_portNumber {n : ℕ} {k : Int} (h : portNumber k path = .ok n) : k = n := by
  unfold portNumber at h
  split_ifs at h with hrange
  · cases h
    exact (Int.toNat_of_nonneg hrange.1).symm
  · unfold portError at h
    split_ifs at h
    cases h

end Scalar

/-- The port that is read is the one that the value tells. -/
lemma tellsPort_iff {n m : ℕ} (h : Scalar.port value path = .ok n) :
    TellsPort value m ↔ m = n := by
  cases value with
  | int k =>
    obtain rfl := Scalar.eq_of_portNumber h
    constructor
    · rintro ⟨⟩
      rfl
    · rintro rfl
      exact .number m
  | text t =>
    simp only [Scalar.port] at h
    split_ifs at h
    · cases hread : readInt (trim t) with
      | error e =>
        rw [hread] at h
        cases h
      | ok k =>
        rw [hread] at h
        obtain rfl := Scalar.eq_of_portNumber h
        constructor
        · rintro (_ | hm)
          rw [hread] at hm
          exact (Int.ofNat.inj (Except.ok.inj hm)).symm
        · rintro rfl
          exact .text hread
    · cases h
  | bool b => cases h
  | _ =>
    simp only [Scalar.port, Scalar.portError] at h
    split_ifs at h
    cases h

/-- Of two lists that correspond, one has an element of a kind where the other has. -/
lemma exists_mem_iff_of_forall₂ {α β : Type} {r : α → β → Prop} {as : List α} {bs : List β}
    {p : α → Prop} {q : β → Prop} (h : List.Forall₂ r as bs) (hpq : ∀ a b, r a b → (p a ↔ q b)) :
    (∃ a ∈ as, p a) ↔ ∃ b ∈ bs, q b := by
  induction h with
  | nil => simp
  | cons hab _ ih => simp [hpq _ _ hab, ih]

/-- A network that may be left out is the trimmed text of the document. -/
lemma Field.forall_mem_optional_iff {q : String → Prop} {key : String} {o : Option String}
    (h : Field.optional Scalar.addressOrNetwork data key path = .ok o) :
    (∀ s ∈ o, q s) ↔
      ∀ value, Field.present? data key = some value → ∃ s, value = .text s ∧ q (trim s) := by
  obtain ⟨habsent, rfl⟩ | ⟨value, d, hpresent, hread, rfl⟩ := Field.present?_of_optional h
  · simp [habsent]
  · obtain ⟨s, rfl, rfl⟩ := Scalar.eq_trim_of_addressOrNetwork hread
    simp [hpresent]

/-- So are the members of a list of networks, which may be empty or left out. -/
lemma Field.exists_mem_elements_iff {q : String → Prop} {key elementPath : String}
    {members : List Value} {networks : List String}
    (hlist : Field.withDefault [] Scalar.list data key path = .ok members)
    (hnetworks : Field.elements Scalar.addressOrNetwork members elementPath = .ok networks) :
    (networks = [] ∨ ∃ s ∈ networks, q s) ↔
      ∀ value, Field.present? data key = some value → value = .list [] ∨
        ∃ members s, value = .list members ∧ .text s ∈ members ∧ q (trim s) := by
  have htexts : List.Forall₂ (fun v s => ∃ t, v = .text t ∧ s = trim t) members networks :=
    (Field.forall₂_of_elementsFrom hnetworks).imp fun v s ⟨_, hread⟩ =>
      Scalar.eq_trim_of_addressOrNetwork hread
  have hnil : networks = [] ↔ members = [] := by
    rw [← List.length_eq_zero_iff, ← List.length_eq_zero_iff, htexts.length_eq]
  have hexists : (∃ v ∈ members, ∃ t, v = .text t ∧ q (trim t)) ↔ ∃ s ∈ networks, q s := by
    refine exists_mem_iff_of_forall₂ htexts ?_
    rintro v s ⟨t, rfl, rfl⟩
    simp
  obtain ⟨habsent, rfl⟩ | ⟨value, hpresent, hread⟩ := Field.present?_of_withDefault hlist
  · simp [habsent, hnil]
  · obtain rfl := Field.eq_list_of_list hread
    simp [hpresent, hnil, ← hexists]

/-- What is read of an item lets in the packets that the item declares. -/
theorem ServiceItem.admits_iff_declares (h : ServiceItem.read data path = .ok item) :
    item.Admits p ↔ Declares data p := by
  obtain ⟨sourceItems, hlist, h⟩ := exists_of_bind_eq_ok h
  obtain ⟨port, hport, h⟩ := exists_of_bind_eq_ok h
  obtain ⟨protocol, hprotocol, h⟩ := exists_of_bind_eq_ok h
  obtain ⟨sources, hsources, h⟩ := exists_of_bind_eq_ok h
  obtain ⟨destination, hdestination, hitem⟩ := exists_of_bind_eq_ok h
  cases hitem
  clear h
  obtain ⟨portValue, hportNumber, hport⟩ := Field.present?_of_required hport
  obtain ⟨protocolValue, hprotocolText, hprotocol⟩ := Field.present?_of_required hprotocol
  obtain ⟨t, rfl, rfl⟩ := Scalar.eq_trim_of_token hprotocol
  have hdeclared := Field.forall_mem_optional_iff (q := p.destination.LiesIn) hdestination
  have hfrom := Field.exists_mem_elements_iff (q := p.source.LiesIn) hlist hsources
  constructor
  · intro hadmits
    exact ⟨⟨t, hprotocolText, hadmits.protocol⟩,
      ⟨portValue, port, hportNumber, (tellsPort_iff hport).mpr rfl, hadmits.port⟩,
      hdeclared.mp hadmits.destination, hfrom.mp hadmits.sources, hadmits.ephemeral⟩
  · intro hdeclares
    obtain ⟨t', hprotocol', hof⟩ := hdeclares.protocol
    obtain ⟨value, n, hvalue, htells, hn⟩ := hdeclares.port
    -- The document has only one value under each name.
    cases hprotocolText.symm.trans hprotocol'
    cases hportNumber.symm.trans hvalue
    obtain rfl := (tellsPort_iff hport).mp htells
    exact ⟨hof, hn, hdeclared.mpr hdeclares.destination, hfrom.mpr hdeclares.sources,
      hdeclares.ephemeral⟩

/-- A service that was read lets in the packets that some item of the document declares. -/
lemma ServiceConfig.exists_admits_iff {raw : Value} {config : ServiceConfig}
    (h : ServiceConfig.read raw = .ok config) :
    (∃ item ∈ config.items, item.Admits p) ↔ ∃ item, IsItemOf item raw ∧ Declares item p := by
  obtain ⟨data, hdata, hitems, -⟩ := fields_of_read h
  obtain ⟨network, hnetwork, hitems⟩ := exists_of_bind_eq_ok hitems
  obtain ⟨values, hvalues, hitems⟩ := exists_of_bind_eq_ok hitems
  obtain ⟨mappings, hmappings, hread⟩ := exists_of_bind_eq_ok hitems
  clear hitems
  obtain rfl := Field.eq_map_of_mapping hdata
  obtain ⟨_, hnetwork, hmap⟩ := Field.present?_of_required hnetwork
  obtain rfl := Field.eq_map_of_mapping hmap
  obtain ⟨_, hvalues, hlist⟩ := Field.present?_of_required hvalues
  obtain rfl := Field.eq_list_of_list hlist
  obtain rfl := eq_map_of_elementsFrom hmappings
  have hitem : ∀ item, IsItemOf item (.map data) ↔ item ∈ mappings := by
    intro item
    constructor
    · rintro ⟨_, _, _, ⟨⟩, hnetwork', hvalues', hmem⟩
      cases hnetwork.symm.trans hnetwork'
      cases hvalues.symm.trans hvalues'
      simpa using hmem
    · intro hmem
      exact ⟨data, network, _, rfl, hnetwork, hvalues, List.mem_map_of_mem hmem⟩
  have hdeclares : (∃ item ∈ mappings, Declares item p) ↔ ∃ item ∈ config.items, item.Admits p :=
    exists_mem_iff_of_forall₂ (Field.forall₂_of_elementsFrom hread) fun data item ⟨_, hread⟩ =>
      (ServiceItem.admits_iff_declares hread).symm
  simp only [hitem, hdeclares]

end Documents

/-! ## Rules -/

/-- An item is about IPv4 addresses and networks only. -/
def ServiceItem.IsIPv4 (item : ServiceItem) : Prop :=
  ∀ text ∈ item.sources ++ item.destination.toList, ∃ n, Denotes text.toList n

/-- What denotes a network is safe. -/
lemma isSafe_of_denotes {text : String} {n : Network} (h : Denotes text.toList n) :
    Shell.IsSafe text := by
  have hread : Network.ofChars? text.toList = some n := Network.ofChars?_eq_some_iff.mpr h
  have hnetwork : (Network.ofChars? text.toList).isSome := by
    rw [hread]
    rfl
  refine ⟨?_, Network.ofChars?_chars hnetwork⟩
  rintro rfl
  exact absurd hnetwork (by decide)

namespace Service

/-- What the rules of an item ask for besides the source. -/
def portConditions (item : ServiceItem) : List Condition :=
  item.destination.toList.map Condition.destination ++ [.protocol item.protocol,
    .sourcePort ephemeralPorts, .destinationPort (toString item.port)]

variable {item : ServiceItem} {p : Packet} {r : Rule}

lemma itemRules_eq (item : ServiceItem) : itemRules item =
    if item.sources.isEmpty then [⟨portConditions item, "ACCEPT"⟩]
    else item.sources.map fun source => ⟨.source source :: portConditions item, "ACCEPT"⟩ := rfl

lemma readable_itemRules (h : item.Valid) (hipv4 : item.IsIPv4) :
    ∀ r ∈ itemRules item, r.Readable := by
  have hsafe : ∀ text ∈ item.sources ++ item.destination.toList, Shell.IsSafe text := by
    intro text htext
    obtain ⟨n, hn⟩ := hipv4 text htext
    exact isSafe_of_denotes hn
  have hdestination : ∀ d ∈ item.destination, Shell.IsSafe d := fun d hd =>
    hsafe d (List.mem_append_right _ (Option.mem_toList.mpr hd))
  intro r hr
  have hrsafe : r.IsSafe :=
    isSafe_itemRules h (fun s hs => hsafe s (List.mem_append_left _ hs)) hdestination r hr
  refine hrsafe.readable fun c hc => ?_
  obtain ⟨-, hconditions⟩ := conditions_of_mem_itemRules hr
  rcases hconditions c hc with ⟨s, -, rfl⟩ | ⟨d, -, rfl⟩ | rfl | rfl | rfl <;> rfl

lemma all_portConditions_iff : (portConditions item).all p.meets ↔
    (∀ d ∈ item.destination, p.destination.LiesIn d) ∧ p.isOf item.protocol ∧
      (∃ n, p.sourcePort = some n ∧ 1024 ≤ n ∧ n ≤ 65535) ∧
      p.destinationPort = some item.port := by
  have hephemeral : p.sourcePort.any (isAmong · ephemeralPorts) ↔
      ∃ n, p.sourcePort = some n ∧ 1024 ≤ n ∧ n ≤ 65535 := by
    simp only [isAmong_ephemeralPorts]
    cases p.sourcePort <;> simp
  rw [← any_isAmong_toString, ← hephemeral]
  simp only [portConditions, List.all_append, List.all_map, List.all_cons, List.all_nil,
    Bool.and_true, Bool.and_eq_true, Packet.meets, List.all_eq_true, Option.mem_toList,
    Option.mem_def, Function.comp_apply, decide_eq_true_eq]

/-- A packet meets one of the rules of an item exactly if the item lets it in. -/
theorem any_itemRules_iff : (itemRules item).any (·.conditions.all p.meets) ↔ item.Admits p := by
  rw [itemRules_eq]
  cases hsources : item.sources with
  | nil =>
    rw [List.isEmpty_nil, if_pos rfl, List.any_cons, List.any_nil, Bool.or_false,
      all_portConditions_iff]
    constructor
    · intro ⟨hdestination, hprotocol, hephemeral, hport⟩
      exact ⟨hprotocol, hport, hdestination, .inl hsources, hephemeral⟩
    · intro h
      exact ⟨h.destination, h.protocol, h.ephemeral, h.port⟩
  | cons first others =>
    rw [List.isEmpty_cons, if_neg Bool.false_ne_true, List.any_map, List.any_eq_true, ← hsources]
    simp only [Function.comp_apply, List.all_cons, Bool.and_eq_true, all_portConditions_iff,
      Packet.meets, decide_eq_true_eq]
    constructor
    · intro ⟨source, hmem, hsource, hdestination, hprotocol, hephemeral, hport⟩
      exact ⟨hprotocol, hport, hdestination, .inr ⟨source, hmem, hsource⟩, hephemeral⟩
    · intro h
      obtain hnil | ⟨source, hmem, hsource⟩ := h.sources
      · rw [hsources] at hnil
        cases hnil
      · exact ⟨source, hmem, hsource, h.destination, h.protocol, h.ephemeral, h.port⟩

/-- The rules of the incoming chain accept just what the items let in. -/
theorem action?_inRules {config : ServiceConfig} (h : config.Valid)
    (hipv4 : ∀ item ∈ config.items, item.IsIPv4) :
    (p.action? ((inRules config).map Rule.text) = some "ACCEPT" ↔
      ∃ item ∈ config.items, item.Admits p) ∧
    ((¬ ∃ item ∈ config.items, item.Admits p) →
      p.action? ((inRules config).map Rule.text) = some "RETURN") := by
  have hread : ∀ r ∈ config.items.flatMap itemRules, r.Readable := by
    intro r hr
    obtain ⟨item, hitem, hr⟩ := List.mem_flatMap.mp hr
    exact readable_itemRules (h.items item hitem) (hipv4 item hitem) r hr
  have haction : ∀ r ∈ config.items.flatMap itemRules, r.action = "ACCEPT" := by
    intro r hr
    obtain ⟨item, -, hr⟩ := List.mem_flatMap.mp hr
    exact (HostService.itemRules_spec hr).1
  have hmeets : (∃ r ∈ config.items.flatMap itemRules, r.conditions.all p.meets) ↔
      ∃ item ∈ config.items, item.Admits p := by
    rw [← List.any_eq_true, List.any_flatMap, List.any_eq_true]
    simp only [any_itemRules_iff]
  rw [inRules, List.map_append, List.map_singleton]
  exact Packet.accepts_iff hread haction hmeets

end Service

/-! ## Transcripts -/

/-- The rules that a transcript puts at the end of a chain, in order. -/
def Transcript.appendedTo (t : Transcript) (c : String) : List String :=
  (t.filterMap Command.operation?).filterMap (Operation.tailTo c)

lemma Transcript.appendedTo_operations {ops : List Operation} (h : ∀ op ∈ ops, op.WellFormed)
    (c : String) :
    appendedTo (ops.map Operation.command) c = ops.filterMap (Operation.tailTo c) := by
  have hread : ops.filterMap (Command.operation? ∘ Operation.command) = ops.filterMap some :=
    List.filterMap_congr fun op hop => Operation.operation?_command (h op hop)
  rw [appendedTo, List.filterMap_map, hread, List.filterMap_some]

namespace HostService

variable {s : HostService} {f : Firewall}

/-- What installing a service puts at the ends of its chains. -/
lemma appendedTo_install (h : s.Valid) :
    (s.transcript .install).appendedTo s.chainIn = s.inRules ∧
      (s.transcript .install).appendedTo s.chainOut = [Rule.leave.text] := by
  have happended : ∀ c, (s.transcript .install).appendedTo c =
      if c = s.chainIn then s.inRules else if c = s.chainOut then [Rule.leave.text] else [] := by
    intro c
    rw [transcript, Transcript.appendedTo_operations fun _ hop => wellFormed_operations h hop,
      operations_install, List.filterMap_append, filterMap_tailTo_fill]
    rfl
  have hne : s.chainOut ≠ s.chainIn := egress_ne_ingress _ _
  rw [happended, happended, if_pos rfl, if_neg hne, if_pos rfl]
  exact ⟨rfl, rfl⟩

/-- Installing a service runs through where its chains are not there yet, and then they hold what
the transcript has put there. -/
theorem run_install (h : s.Valid) (hplain : s.RedirectsPlainly)
    (hin : f.chain? s.chainIn = none) (hout : f.chain? s.chainOut = none)
    (hneeds : ∀ c ∈ s.needs, (f.chain? c).isSome) :
    ∃ g, f.run isManagedName (s.transcript .install) = some g ∧
      g.chain? = s.installedOn f.chain? := by
  obtain ⟨g, hg, hchains, -⟩ := applyAll_install h hplain hin hout hneeds
  refine ⟨g, ?_, hchains⟩
  rw [transcript, Firewall.run_operations fun _ hop => wellFormed_operations h hop, hg]

end HostService

/-- The transcript that installs an accepted service about IPv4 fills the incoming chain with rules
that accept exactly the packets that some item of the document declares, and send all others back;
the outgoing chain sends all packets back.  On every host that has the chains for services and not
yet those of this service, the transcript runs through and leaves the two chains so filled. -/
theorem service_admits_declared {σ : Type} {source : BlacklistSync.Source σ} {raw : Value}
    {globals : List NetworkItem} {config : ServiceConfig} (hread : ServiceConfig.read raw = .ok config)
    (hipv4 : ∀ item ∈ config.items, item.IsIPv4) :
    ∃ transcript : Transcript,
      (∀ world, ((Directory.builtin source).compile "engines/services/generic-service"
        (.text "install") raw globals world).1.result = .ok transcript) ∧
      (∀ p : Packet,
        (p.action? (transcript.appendedTo (ingress config.chainName)) = some "ACCEPT" ↔
          ∃ item, IsItemOf item raw ∧ Declares item p) ∧
        ((¬ ∃ item, IsItemOf item raw ∧ Declares item p) →
          p.action? (transcript.appendedTo (ingress config.chainName)) = some "RETURN") ∧
        p.action? (transcript.appendedTo (egress config.chainName)) = some "RETURN") ∧
      ∀ f : Firewall, (f.chain? (ingress services)).isSome → (f.chain? (egress services)).isSome →
        f.chain? (ingress config.chainName) = none → f.chain? (egress config.chainName) = none →
        ∃ g, f.run isManagedName transcript = some g ∧
          ∀ c ∈ [ingress config.chainName, egress config.chainName],
            g.chain? c = some (transcript.appendedTo c) := by
  let s := HostService.ports config
  have hreadFrom : s.ReadFrom raw := hread
  have hvalid : s.Valid := HostService.valid_of_readFrom hreadFrom
  obtain ⟨hin, hout⟩ := HostService.appendedTo_install hvalid
  have hne : s.chainOut ≠ s.chainIn := egress_ne_ingress _ _
  refine ⟨s.transcript .install, fun world => HostService.compile_eq_transcript hreadFrom .install,
    fun p => ?_, fun f hservicesIn hservicesOut habsentIn habsentOut => ?_⟩
  · obtain ⟨haccept, hreturn⟩ := Service.action?_inRules (p := p) hvalid hipv4
    rw [ServiceConfig.exists_admits_iff hread] at haccept hreturn
    have hleave : p.action? [Rule.leave.text] = some "RETURN" :=
      @Packet.action?_leave p [] (by simp) (by simp)
    refine ⟨?_, ?_, ?_⟩
    · exact hin ▸ haccept
    · exact hin ▸ hreturn
    · exact hout ▸ hleave
  · have hneeds : ∀ c ∈ s.needs, (f.chain? c).isSome := by
      intro c hc
      rcases List.mem_pair.mp hc with rfl | rfl
      · exact hservicesIn
      · exact hservicesOut
    have hplain : s.RedirectsPlainly := fun _ hrule => nomatch hrule
    obtain ⟨g, hg, hchains⟩ := HostService.run_install hvalid hplain habsentIn habsentOut hneeds
    refine ⟨g, hg, fun c hc => ?_⟩
    rw [hchains, HostService.installedOn]
    rcases List.mem_pair.mp hc with rfl | rfl
    · exact (if_pos rfl).trans (congrArg some hin.symm)
    · exact (if_neg hne).trans ((if_pos rfl).trans (congrArg some hout.symm))

/-- A document about a port that a network and a single host may use, under one address. -/
def archiveDocument : Value :=
  .map [(.text "chainName", .text "archive"), (.text "network", .map [(.text "items", .list
    [.map [(.text "portNumber", .int 443), (.text "protocol", .text "tcp"),
      (.text "destinationNetwork", .text "10.1.0.2"),
      (.text "sourceNetworks", .list [.text "192.168.0.7", .text "10.0.0.0/8 "])]])])]

/-- What is read in it. -/
def archiveService : ServiceConfig where
  chainName := "archive"
  items := [{ port := 443, protocol := "tcp", sources := ["192.168.0.7", "10.0.0.0/8"],
              destination := some "10.1.0.2" }]

/-- A packet from that network to the port. -/
def archivePacket : Packet where
  source := ⟨10 * 2 ^ 24 + 77, by decide⟩
  destination := ⟨10 * 2 ^ 24 + 2 ^ 16 + 2, by decide⟩
  sourcePort := some 40000
  destinationPort := some 443
  isOf := (· == "tcp")
  cameBy := (· == "eth0")
  meetsOther _ := false

/-- The chain of the archive lets in that packet, but not without its port. -/
theorem archive_admits_archivePacket :
    ∃ transcript g,
      ((Directory.builtin (BlacklistSync.databaseSource Unit)).compile
        "engines/services/generic-service" (.text "install") archiveDocument [] ()).1.result =
          .ok transcript ∧
      bareHost.run isManagedName transcript = some g ∧
      g.action? "IN_archive" archivePacket = some "ACCEPT" ∧
      g.action? "IN_archive" { archivePacket with destinationPort := none } = some "RETURN" ∧
      g.action? "OUT_archive" archivePacket = some "RETURN" := by
  have hread : ServiceConfig.read archiveDocument = .ok archiveService :=
    Except.eq_ok_of_toOption (by decide +kernel)
  have hipv4 : ∀ item ∈ archiveService.items, item.IsIPv4 := by
    have hnetworks : ∀ item ∈ archiveService.items, ∀ text ∈ item.sources ++
        item.destination.toList, (Network.ofChars? text.toList).isSome := by decide +kernel
    intro item hitem text htext
    obtain ⟨n, hn⟩ := Option.isSome_iff_exists.mp (hnetworks item hitem text htext)
    exact ⟨n, Network.ofChars?_eq_some_iff.mp hn⟩
  obtain ⟨transcript, hcompile, hadmits, hrun⟩ :=
    @service_admits_declared Unit (BlacklistSync.databaseSource Unit) archiveDocument []
      archiveService hread hipv4
  obtain ⟨g, hg, hchains⟩ := hrun bareHost (by rw [bareHost_chain?]; decide)
    (by rw [bareHost_chain?]; decide) (by rw [bareHost_chain?]; decide)
    (by rw [bareHost_chain?]; decide)
  have hin : ∀ p, g.action? "IN_archive" p = p.action? (transcript.appendedTo "IN_archive") :=
    fun p => congrArg (Option.bind · p.action?) (hchains "IN_archive" (by decide))
  have hout : ∀ p, g.action? "OUT_archive" p = p.action? (transcript.appendedTo "OUT_archive") :=
    fun p => congrArg (Option.bind · p.action?) (hchains "OUT_archive" (by decide))
  have hnone : ¬ ∃ item, IsItemOf item archiveDocument ∧
      Declares item { archivePacket with destinationPort := none } := by
    rintro ⟨item, -, hdeclares⟩
    obtain ⟨-, n, -, -, hport⟩ := hdeclares.port
    cases hport
  refine ⟨transcript, g, hcompile (), hg, ?_, ?_, ?_⟩
  · rw [hin]
    refine (hadmits archivePacket).1.mpr ⟨_, ⟨_, _, _, rfl, rfl, rfl, List.mem_singleton_self _⟩,
      ⟨_, rfl, by decide +kernel⟩, ⟨_, _, rfl, .number 443, rfl⟩, ?_, ?_,
      ⟨40000, rfl, by decide, by decide⟩⟩
    · rintro value ⟨⟩
      exact ⟨_, rfl, by decide +kernel⟩
    · rintro value ⟨⟩
      exact .inr ⟨_, "10.0.0.0/8 ", rfl, by simp, by decide +kernel⟩
  · rw [hin]
    exact (hadmits _).2.1 hnone
  · rw [hout]
    exact (hadmits archivePacket).2.2

end FirewallPolicy
