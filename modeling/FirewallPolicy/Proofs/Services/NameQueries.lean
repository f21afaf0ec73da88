import FirewallPolicy.Proofs.Services.Admission
import FirewallPolicy.Proofs.Services.Composition
import FirewallPolicy.Proofs.Services.InSequence

/-!
# The way of a name query

A query that is sent to the host is redirected to a name server, accepted where it is forwarded, and
let in by the chain of the service.  The rules of all items are inserted at the heads of chains that
are in use already, so the rules of a later item stand before those of an earlier one.

* `DnsForward.Matches`: the queries that an item redirects.
* `Packet.redirected?`: what an action makes of a packet.
* `DnsForwarding.action?_redirects`: the last item that matches decides.
* `queries_find_their_server`: a query gets to the server of that item, and on.
-/

namespace FirewallPolicy

open FirewallPolicy.Address
open FirewallPolicy.ChainName

/-! ## Redirected packets -/

/-- What an action makes of a packet: it sends it to an address and a port.  Other actions than this
one leave no packet to look at. -/
def Packet.redirected? (p : Packet) (action : String) : Option Packet :=
  match Text.fieldsOf ' ' action.toList with
  | [['D', 'N', 'A', 'T'], ['-', '-', 't', 'o'], endpoint] =>
    match Text.fieldsOf ':' endpoint with
    | [address, port] => do
      let address ← IPv4.ofChars? address
      let port ← port? port
      return { p with destination := address, destinationPort := some port }
    | _ => none
  | _ => none

/-- The rules of a chain that a packet meets, in order. -/
def Firewall.rulesMet? (f : Firewall) (c : String) (p : Packet) : Option (List String) :=
  (f.chain? c).map (·.filter p.meetsRule)

/-- What becomes of a packet depends on the rules that it meets only. -/
lemma Firewall.action?_eq_of_rulesMet? {f g : Firewall} {c : String} {p : Packet}
    (h : g.rulesMet? c p = f.rulesMet? c p) : g.action? c p = f.action? c p := by
  have hmet : ∀ f : Firewall, f.action? c p = (f.rulesMet? c p).bind fun rules =>
      rules.head?.bind fun rule => (Rule.ofText? rule).map (·.action) := by
    intro f
    rw [action?, rulesMet?, Option.bind_map]
    congr 1
    funext rules
    rw [Function.comp_apply, List.head?_filter, Packet.action?]
  rw [hmet, hmet, h]

/-- An address lies in an address exactly if it is the same. -/
lemma Address.IPv4.liesIn_iff_of_isSome {a : IPv4} {text : String}
    (h : (IPv4.ofChars? text.toList).isSome) :
    a.LiesIn text ↔ IPv4.ofChars? text.toList = some a := by
  obtain ⟨b, hb⟩ := Option.isSome_iff_exists.mp h
  obtain rfl := String.toList_injective (IPv4.ofChars?_eq_some_iff.mp hb)
  rw [IPv4.liesIn_text_iff, hb, Option.some_inj, eq_comm]

/-- What is read as an address is safe. -/
lemma isSafe_of_ofChars? {text : String} (h : (IPv4.ofChars? text.toList).isSome) :
    Shell.IsSafe text := by
  refine ⟨?_, IPv4.ofChars?_chars h⟩
  rintro rfl
  exact absurd h (by decide)

/-! ## Items -/

/-- An item is about IPv4 addresses. -/
structure DnsForward.IsIPv4 (item : DnsForward) : Prop where
  source : (IPv4.ofChars? item.sourceAddress.toList).isSome
  destination : (IPv4.ofChars? item.destinationAddress.toList).isSome

/-- A packet is sent to the address and the port that an item forwards from. -/
structure DnsForward.Addressed (item : DnsForward) (p : Packet) : Prop where
  address : IPv4.ofChars? item.sourceAddress.toList = some p.destination
  port : p.destinationPort = some item.sourcePort

/-- And it comes by the link of the item. -/
structure DnsForward.Matches (item : DnsForward) (p : Packet) : Prop
    extends item.Addressed p where
  link : p.cameBy item.interface

namespace DnsForwarding

variable {item : DnsForward} {protocol : String} {p : Packet}

section Rules

/-- What the rules for queries ask for in any case. -/
lemma all_endpoint_iff {address : String} {port : ℕ} (h : (IPv4.ofChars? address.toList).isSome) :
    ([.protocol protocol, .destination address, .destinationPort (toString port)] :
      List Condition).all p.meets ↔
    p.isOf protocol ∧ IPv4.ofChars? address.toList = some p.destination ∧
      p.destinationPort = some port := by
  rw [← IPv4.liesIn_iff_of_isSome h, ← any_isAmong_toString (n := port)]
  simp [Packet.meets]

lemma all_redirectRule_iff (h : item.IsIPv4) :
    (redirectRule item protocol).conditions.all p.meets ↔
      item.Matches p ∧ p.isOf protocol := by
  have hconditions : (redirectRule item protocol).conditions.all p.meets ↔
      p.cameBy item.interface ∧ ([.protocol protocol, .destination item.sourceAddress,
        .destinationPort (toString item.sourcePort)] : List Condition).all p.meets := by
    simp [redirectRule, Packet.meets]
  rw [hconditions, all_endpoint_iff h.source]
  constructor
  · rintro ⟨hlink, hprotocol, haddress, hport⟩
    exact ⟨⟨⟨haddress, hport⟩, hlink⟩, hprotocol⟩
  · rintro ⟨hmatches, hprotocol⟩
    exact ⟨hmatches.link, hprotocol, hmatches.address, hmatches.port⟩

lemma readable_rules (hvalid : item.Valid) (h : item.IsIPv4) (hprotocol : protocol ∈ protocols) :
    (redirectRule item protocol).Readable ∧ (forwardRule item protocol).Readable ∧
      (acceptRule item protocol).Readable := by
  have hsource := isSafe_of_ofChars? h.source
  have hdestination := isSafe_of_ofChars? h.destination
  refine ⟨(isSafe_redirectRule hvalid hprotocol hsource hdestination).readable ?_,
    (isSafe_acceptingRule hprotocol hdestination).readable ?_,
    (isSafe_acceptingRule hprotocol hsource).readable ?_⟩ <;>
  simp [redirectRule, Condition.isOption]

/-- The action that redirects queries sends them to the server of the item. -/
lemma redirected?_redirectRule {address : IPv4}
    (h : IPv4.ofChars? item.destinationAddress.toList = some address) :
    p.redirected? (redirectRule item protocol).action =
      some { p with destination := address, destinationPort := some item.destinationPort } := by
  have haddress := IPv4.ofChars?_eq_some_iff.mp h
  let endpoint := item.destinationAddress ++ ":" ++ toString item.destinationPort
  have hendpoint : endpoint.toList =
      address.text.toList ++ ':' :: Nat.toDigits 10 item.destinationPort := by
    simp [endpoint, haddress]
  have haction : (redirectRule item protocol).action =
      " ".intercalate ["DNAT", "--to", endpoint] := by
    apply String.toList_injective
    simp [redirectRule, endpoint]
  have hblank : ' ' ∉ endpoint.toList := by
    rw [hendpoint]
    simp [notMem_text (c := ' ') (by decide) rfl, blank_notMem_toDigits]
  have hwords : Text.fieldsOf ' ' (redirectRule item protocol).action.toList =
      [['D', 'N', 'A', 'T'], ['-', '-', 't', 'o'], endpoint.toList] := by
    rw [haction, Shell.fieldsOf_intercalate (by simp)]
    · rfl
    · simp only [List.forall_mem_cons]
      exact ⟨by decide, by decide, hblank, by simp⟩
  have hparts : Text.fieldsOf ':' endpoint.toList =
      [address.text.toList, Nat.toDigits 10 item.destinationPort] := by
    rw [hendpoint, Text.fieldsOf_append (notMem_text (by decide) rfl address),
      Text.fieldsOf_of_notMem (notMem_toDigits rfl _)]
  rw [← haddress] at hparts
  simp [Packet.redirected?, hwords, hparts, h, port?, position?_toDigits]

/-- A rule that redirects queries reads like no jump: the word before its last one is another. -/
lemma ruleTarget?_redirectRule (h : ' ' ∉ item.destinationAddress.toList) :
    ruleTarget? (redirectRule item protocol).text = none := by
  let endpoint := item.destinationAddress ++ ":" ++ toString item.destinationPort
  have hblank : ' ' ∉ endpoint.toList := by
    simp [endpoint, h, blank_notMem_toDigits]
  obtain ⟨front, hfront⟩ := Rule.suffix_text (redirectRule item protocol)
  have htext : (redirectRule item protocol).text.toList =
      (front ++ "-j DNAT --to".toList) ++ ' ' :: endpoint.toList := by
    rw [← hfront]
    simp [redirectRule, endpoint]
  have hj : ¬ "-j ".toList <:+ (front ++ "-j DNAT --to".toList) ++ [' '] := by
    rw [← List.reverse_prefix]
    simp
  rw [ruleTarget?, htext, splitLastWord_blank _ hblank]
  exact if_neg hj

end Rules

/-! ## Many items -/

/-- The rules of one kind, for each item and each protocol. -/
def rulesOf (rule : DnsForward → String → Rule) (items : List DnsForward) : List Rule :=
  items.flatMap fun item => protocols.map (rule item)

section Items

variable {rule : DnsForward → String → Rule} {items before after : List DnsForward} {r : Rule}
  {rest : List String}

lemma mem_rulesOf : r ∈ rulesOf rule items ↔
    ∃ item ∈ items, ∃ protocol ∈ protocols, rule item protocol = r := by
  simp only [rulesOf, List.mem_flatMap, List.mem_map]

lemma map_text_rulesOf : (rulesOf rule items).map Rule.text =
    items.flatMap fun item => protocols.map fun protocol => (rule item protocol).text := by
  simp [rulesOf, List.map_flatMap, Function.comp_def]

lemma rulesOf_split (item : DnsForward) : (rulesOf rule (before ++ item :: after)).reverse =
    (rulesOf rule after).reverse ++ (protocols.map (rule item)).reverse ++
      (rulesOf rule before).reverse := by
  simp [rulesOf]

/-- Queries are of one of these protocols. -/
lemma exists_protocol (h : p.isOf "tcp" ∨ p.isOf "udp") : ∃ q ∈ protocols, p.isOf q := by
  simpa [protocols] using h

/-- A packet that no item matches meets none of the rules that redirect. -/
lemma not_meets_redirects (hvalid : ∀ item ∈ items, item.Valid)
    (hipv4 : ∀ item ∈ items, item.IsIPv4) (h : ∀ item ∈ items, ¬ item.Matches p) :
    ∀ rule ∈ (rulesOf redirectRule items).reverse.map Rule.text, ¬ p.meetsRule rule := by
  intro text htext
  obtain ⟨r, hr, rfl⟩ := List.mem_map.mp htext
  obtain ⟨item, hitem, q, hq, rfl⟩ := mem_rulesOf.mp (List.mem_reverse.mp hr)
  rw [Packet.meetsRule_text (readable_rules (hvalid item hitem) (hipv4 item hitem) hq).1,
    all_redirectRule_iff (hipv4 item hitem)]
  exact fun hmeets => h item hitem hmeets.1

/-- The last item that matches decides where a query goes. -/
theorem action?_redirects (hvalid : ∀ i ∈ before ++ item :: after, i.Valid)
    (hipv4 : ∀ i ∈ before ++ item :: after, i.IsIPv4) (hprotocol : p.isOf "tcp" ∨ p.isOf "udp")
    (hmatches : item.Matches p) (hlater : ∀ later ∈ after, ¬ later.Matches p) :
    p.action? ((rulesOf redirectRule (before ++ item :: after)).reverse.map Rule.text ++ rest) =
      some (redirectRule item "tcp").action := by
  have hitem : item ∈ before ++ item :: after := by simp
  have hafter : ∀ i ∈ after, i ∈ before ++ item :: after := fun i hi => by simp [hi]
  obtain ⟨q, hq, hof⟩ := exists_protocol hprotocol
  rw [rulesOf_split, List.map_append, List.map_append, List.append_assoc, List.append_assoc,
    Packet.action?_append_of_not_meets (not_meets_redirects (fun i hi => hvalid i (hafter i hi))
      (fun i hi => hipv4 i (hafter i hi)) hlater)]
  refine Packet.action?_append_of_meets ?_ ?_ ⟨redirectRule item q, ?_, ?_⟩
  · intro r hr
    obtain ⟨q', hq', rfl⟩ := List.mem_map.mp (List.mem_reverse.mp hr)
    exact (readable_rules (hvalid item hitem) (hipv4 item hitem) hq').1
  · intro r hr
    obtain ⟨q', -, rfl⟩ := List.mem_map.mp (List.mem_reverse.mp hr)
    rfl
  · exact List.mem_reverse.mpr (List.mem_map_of_mem hq)
  · exact (all_redirectRule_iff (hipv4 item hitem)).mpr ⟨hmatches, hof⟩

/-- What is redirected to the server of an item is accepted where it is forwarded, whatever stands
behind the rules that accept it. -/
theorem action?_forwards (hvalid : ∀ i ∈ items, i.Valid)
    (hipv4 : ∀ i ∈ items, i.IsIPv4) (hprotocol : p.isOf "tcp" ∨ p.isOf "udp") (hitem : item ∈ items)
    (haddress : IPv4.ofChars? item.destinationAddress.toList = some p.destination)
    (hport : p.destinationPort = some item.destinationPort) :
    p.action? ((rulesOf forwardRule items).reverse.map Rule.text ++ rest) = some "ACCEPT" := by
  obtain ⟨q, hq, hof⟩ := exists_protocol hprotocol
  refine Packet.action?_append_of_meets ?_ ?_ ⟨forwardRule item q, ?_, ?_⟩
  · intro r hr
    obtain ⟨i, hi, q', hq', rfl⟩ := mem_rulesOf.mp (List.mem_reverse.mp hr)
    exact (readable_rules (hvalid i hi) (hipv4 i hi) hq').2.1
  · intro r hr
    obtain ⟨i, -, q', -, rfl⟩ := mem_rulesOf.mp (List.mem_reverse.mp hr)
    rfl
  · exact List.mem_reverse.mpr (mem_rulesOf.mpr ⟨item, hitem, q, hq, rfl⟩)
  · exact (all_endpoint_iff (hipv4 item hitem).destination).mpr ⟨hof, haddress, hport⟩

/-- The chain of the service lets in the queries that are sent to an item, and no others. -/
theorem action?_accepts (hvalid : ∀ i ∈ items, i.Valid) (hipv4 : ∀ i ∈ items, i.IsIPv4)
    (hprotocol : p.isOf "tcp" ∨ p.isOf "udp") :
    (p.action? ((rulesOf acceptRule items).map Rule.text ++ [Rule.leave.text]) = some "ACCEPT" ↔
      ∃ item ∈ items, item.Addressed p) ∧
    ((¬ ∃ item ∈ items, item.Addressed p) →
      p.action? ((rulesOf acceptRule items).map Rule.text ++ [Rule.leave.text]) =
        some "RETURN") := by
  have hread : ∀ r ∈ rulesOf acceptRule items, r.Readable := by
    intro r hr
    obtain ⟨i, hi, q, hq, rfl⟩ := mem_rulesOf.mp hr
    exact (readable_rules (hvalid i hi) (hipv4 i hi) hq).2.2
  have haction : ∀ r ∈ rulesOf acceptRule items, r.action = "ACCEPT" := by
    intro r hr
    obtain ⟨i, -, q, -, rfl⟩ := mem_rulesOf.mp hr
    rfl
  refine Packet.accepts_iff hread haction ⟨fun ⟨r, hr, hmeets⟩ => ?_, fun ⟨i, hi, haddressed⟩ => ?_⟩
  · obtain ⟨i, hi, q, -, rfl⟩ := mem_rulesOf.mp hr
    obtain ⟨-, haddress, hport⟩ := (all_endpoint_iff (hipv4 i hi).source).mp hmeets
    exact ⟨i, hi, haddress, hport⟩
  · obtain ⟨q, hq, hof⟩ := exists_protocol hprotocol
    exact ⟨_, mem_rulesOf.mpr ⟨i, hi, q, hq, rfl⟩,
      (all_endpoint_iff (hipv4 i hi).source).mpr ⟨hof, haddressed.address, haddressed.port⟩⟩

end Items

end DnsForwarding

/-! ## Hosts -/

/-- No rule for queries reads like a jump where the addresses are IPv4. -/
lemma DnsConfig.redirectsPlainly {config : DnsConfig}
    (h : ∀ item ∈ config.items, item.IsIPv4) : (HostService.names config).RedirectsPlainly := by
  intro rule hrule c hc
  obtain ⟨item, hitem, hrule⟩ := List.mem_flatMap.mp hrule
  obtain ⟨protocol, -, rfl⟩ := List.mem_map.mp hrule
  have hblank := (isSafe_of_ofChars? (h item hitem).destination).blank_notMem
  rw [DnsForwarding.ruleTarget?_redirectRule hblank] at hc
  cases hc

section Installed

variable {config : DnsConfig} {f g : Firewall}

/-- Installing puts the rules that redirect, and those that accept what was redirected, before
those that stood in the chains. -/
lemma DnsConfig.chain?_shared
    (hg : g.chain? = (HostService.names config).installedOn f.chain?) :
    g.chain? "PREROUTING" = (f.chain? "PREROUTING").map
        ((DnsForwarding.rulesOf DnsForwarding.redirectRule config.items).reverse.map Rule.text ++
          ·) ∧
      g.chain? "FORWARD" = (f.chain? "FORWARD").map
        ((DnsForwarding.rulesOf DnsForwarding.forwardRule config.items).reverse.map Rule.text ++
          ·) := by
  have hplain : ∀ c, ¬ isManagedName c → c ∉ (HostService.names config).ownChains :=
    fun c hc hown => hc (HostService.isManagedName_ownChains c hown)
  rw [hg, HostService.installedOn_of_notMem (hplain _ (by decide)),
    HostService.installedOn_of_notMem (hplain _ (by decide)), List.map_reverse, List.map_reverse,
    DnsForwarding.map_text_rulesOf, DnsForwarding.map_text_rulesOf]
  exact ⟨rfl, rfl⟩

lemma DnsConfig.chain?_ingress
    (hg : g.chain? = (HostService.names config).installedOn f.chain?) :
    g.chain? (ingress (dnsMark ++ config.chainName)) = some ((DnsForwarding.rulesOf
      DnsForwarding.acceptRule config.items).map Rule.text ++ [Rule.leave.text]) := by
  rw [hg, DnsForwarding.map_text_rulesOf]
  exact if_pos rfl

end Installed

/-- Of the things of a kind in a list, there is a last one. -/
lemma exists_last {α : Type} {kind : α → Prop} {xs : List α} (h : ∃ x ∈ xs, kind x) :
    ∃ before x after, xs = before ++ x :: after ∧ kind x ∧ ∀ y ∈ after, ¬ kind y := by
  induction xs with
  | nil => simp at h
  | cons x xs ih =>
    by_cases hrest : ∃ y ∈ xs, kind y
    · obtain ⟨before, y, after, rfl, hy, hafter⟩ := ih hrest
      exact ⟨x :: before, y, after, rfl, hy, hafter⟩
    · obtain ⟨y, hy, hkind⟩ := h
      rcases List.mem_cons.mp hy with rfl | hy
      · exact ⟨[], y, xs, rfl, hkind, fun z hz hkind' => hrest ⟨z, hz, hkind'⟩⟩
      · exact absurd ⟨y, hy, hkind⟩ hrest

/-- The transcript that installs an accepted name service about IPv4 runs through on every host
where the shared chains are, with whatever they hold, and not yet the chains of the service.  Then a
query that some item matches is sent to the server of the last such item, and what was so redirected
is accepted where it is forwarded; a query that no item matches meets the same rules as before; and
the incoming chain of the service accepts exactly the queries that are sent to the address and the
port of an item, and sends the others back. -/
theorem queries_find_their_server {σ : Type} {source : BlacklistSync.Source σ} {raw : Value}
    {globals : List NetworkItem} {config : DnsConfig} {f : Firewall}
    (hread : DnsConfig.read raw = .ok config) (hipv4 : ∀ item ∈ config.items, item.IsIPv4)
    (hpresent : ∀ c ∈ sharedChains, (f.chain? c).isSome)
    (habsent : ∀ c ∈ (HostService.names config).ownChains, f.chain? c = none) :
    ∃ transcript g,
      (∀ world, ((Directory.builtin source).compile "services/docker-dns-service"
        (.text "install") raw globals world).1.result = .ok transcript) ∧
      f.run isManagedName transcript = some g ∧
      ∀ p : Packet, p.isOf "tcp" ∨ p.isOf "udp" →
        ((∃ item ∈ config.items, item.Matches p) →
          ∃ before item after address, config.items = before ++ item :: after ∧ item.Matches p ∧
            (∀ later ∈ after, ¬ later.Matches p) ∧
            IPv4.ofChars? item.destinationAddress.toList = some address ∧
            let redirected :=
              { p with destination := address, destinationPort := some item.destinationPort }
            (g.action? "PREROUTING" p).bind p.redirected? = some redirected ∧
              g.action? "FORWARD" redirected = some "ACCEPT") ∧
        ((¬ ∃ item ∈ config.items, item.Matches p) →
          g.rulesMet? "PREROUTING" p = f.rulesMet? "PREROUTING" p ∧
            g.action? "PREROUTING" p = f.action? "PREROUTING" p) ∧
        (g.action? (ingress (dnsMark ++ config.chainName)) p = some "ACCEPT" ↔
          ∃ item ∈ config.items, item.Addressed p) ∧
        ((¬ ∃ item ∈ config.items, item.Addressed p) →
          g.action? (ingress (dnsMark ++ config.chainName)) p = some "RETURN") := by
  have hreadFrom : (HostService.names config).ReadFrom raw := hread
  have hvalid : config.Valid := DnsConfig.read_valid hread
  obtain ⟨g, hg, hchains⟩ := HostService.run_install (s := .names config) hvalid
    (DnsConfig.redirectsPlainly hipv4) (habsent _ (by simp [HostService.ownChains]))
    (habsent _ (by simp [HostService.ownChains])) hpresent
  obtain ⟨hprerouting, hforward⟩ := DnsConfig.chain?_shared hchains
  obtain ⟨old, hold⟩ := Option.isSome_iff_exists.mp (hpresent "PREROUTING" (by simp [sharedChains]))
  obtain ⟨oldForward, holdForward⟩ :=
    Option.isSome_iff_exists.mp (hpresent "FORWARD" (by simp [sharedChains]))
  rw [hold, Option.map_some] at hprerouting
  rw [holdForward, Option.map_some] at hforward
  refine ⟨(HostService.names config).transcript .install, g,
    fun world => HostService.compile_eq_transcript hreadFrom .install, hg, fun p hprotocol => ?_⟩
  have haction : ∀ {c rules}, g.chain? c = some rules → ∀ q, g.action? c q = q.action? rules := by
    intro c rules hc q
    rw [Firewall.action?, hc, Option.bind_some]
  refine ⟨fun hsome => ?_, fun hnone => ?_, ?_⟩
  · obtain ⟨before, item, after, hitems, hmatches, hlater⟩ := exists_last hsome
    have hitem : item ∈ config.items := by simp [hitems]
    obtain ⟨address, haddress⟩ := Option.isSome_iff_exists.mp (hipv4 item hitem).destination
    refine ⟨before, item, after, address, hitems, hmatches, hlater, haddress, ?_, ?_⟩
    · rw [haction hprerouting, hitems, DnsForwarding.action?_redirects (hitems ▸ hvalid.items)
        (hitems ▸ hipv4) hprotocol hmatches hlater, Option.bind_some]
      exact DnsForwarding.redirected?_redirectRule haddress
    · rw [haction hforward]
      exact DnsForwarding.action?_forwards hvalid.items hipv4 hprotocol hitem haddress rfl
  · have hmet : g.rulesMet? "PREROUTING" p = f.rulesMet? "PREROUTING" p := by
      have hnew := DnsForwarding.not_meets_redirects hvalid.items hipv4
        (fun item hitem hmatches => hnone ⟨item, hitem, hmatches⟩)
      rw [Firewall.rulesMet?, hprerouting, Firewall.rulesMet?, hold, Option.map_some,
        Option.map_some, List.filter_append, List.filter_eq_nil_iff.mpr hnew, List.nil_append]
    exact ⟨hmet, Firewall.action?_eq_of_rulesMet? hmet⟩
  · rw [haction (DnsConfig.chain?_ingress hchains)]
    exact DnsForwarding.action?_accepts hvalid.items hipv4 hprotocol

/-- A document with two servers for the same queries. -/
def mirrorDocument : Value :=
  .map [(.text "chainName", .text "mirror"), (.text "network", .map [(.text "items", .list
    [.map [(.text "sourceLinkName", .text "eth0"), (.text "sourceIpAddress", .text "10.0.0.1"),
      (.text "destinationIpAddress", .text "172.17.0.2"), (.text "destinationPortNumber", .int 53)],
    .map [(.text "sourceLinkName", .text "eth0"), (.text "sourceIpAddress", .text "10.0.0.1"),
      (.text "destinationIpAddress", .text "172.17.0.3"),
      (.text "destinationPortNumber", .int 5353)]])])]

/-- What forwards to the first of them. -/
def firstMirror : DnsForward where
  interface := "eth0"
  sourceAddress := "10.0.0.1"
  destinationAddress := "172.17.0.2"
  destinationPort := 53
  sourcePort := 53

/-- What forwards to the second one. -/
def secondMirror : DnsForward :=
  { firstMirror with destinationAddress := "172.17.0.3", destinationPort := 5353 }

/-- A host that redirects everything, and forwards nothing. -/
def divertingHost : Firewall :=
  (bareHost.setChain "PREROUTING" ["-t nat -j DNAT --to 10.9.9.9:53"]).setChain "FORWARD"
    ["-j DROP"]

/-- A query. -/
def query : Packet where
  source := ⟨10 * 2 ^ 24 + 5, by decide⟩
  destination := ⟨10 * 2 ^ 24 + 1, by decide⟩
  sourcePort := some 40000
  destinationPort := some 53
  isOf := (· == "udp")
  cameBy := (· == "eth0")
  meetsOther _ := true

/-- On such a host, the query gets to the second server. -/
theorem query_finds_secondMirror :
    ∃ transcript g,
      ((Directory.builtin (BlacklistSync.databaseSource Unit)).compile
        "services/docker-dns-service" (.text "install") mirrorDocument [] ()).1.result =
          .ok transcript ∧
      divertingHost.run isManagedName transcript = some g ∧
      ∃ redirected, (g.action? "PREROUTING" query).bind query.redirected? = some redirected ∧
        redirected.destination = ⟨172 * 2 ^ 24 + 17 * 2 ^ 16 + 3, by decide⟩ ∧
        redirected.destinationPort = some 5353 ∧
        g.action? "FORWARD" redirected = some "ACCEPT" ∧
        g.action? "IN_dns_mirror" query = some "ACCEPT" := by
  have hread : DnsConfig.read mirrorDocument =
      .ok { chainName := "mirror", items := [firstMirror, secondMirror] } :=
    Except.eq_ok_of_toOption (by decide +kernel)
  have hipv4 : ∀ item ∈ [firstMirror, secondMirror], item.IsIPv4 := by
    simp only [List.forall_mem_cons]
    exact ⟨⟨by decide +kernel, by decide +kernel⟩, ⟨by decide +kernel, by decide +kernel⟩, by simp⟩
  have hchains : ∀ c, divertingHost.chain? c = if c = "FORWARD" then some ["-j DROP"] else
      if c = "PREROUTING" then some ["-t nat -j DNAT --to 10.9.9.9:53"] else
        bareHost.chain? c := by
    intro c
    simp only [divertingHost, Firewall.chain?_setChain, Function.update_apply]
  have hpresent : ∀ c ∈ sharedChains, (divertingHost.chain? c).isSome := by
    intro c hc
    rw [hchains, bareHost_chain?, if_pos hc]
    split_ifs <;> rfl
  have habsent : ∀ c ∈ (HostService.names ⟨"mirror", [firstMirror, secondMirror]⟩).ownChains,
      divertingHost.chain? c = none := by
    simp only [hchains, bareHost_chain?]
    decide +kernel
  obtain ⟨transcript, g, hcompile, hrun, hqueries⟩ :=
    @queries_find_their_server Unit (BlacklistSync.databaseSource Unit) mirrorDocument [] _
      divertingHost hread hipv4 hpresent habsent
  obtain ⟨hredirects, -, haccepts, -⟩ := hqueries query (.inr rfl)
  have hfirst : firstMirror.Addressed query :=
    ⟨IPv4.ofChars?_eq_some_iff.mpr (by decide +kernel), rfl⟩
  have hsecond : secondMirror.Matches query := ⟨⟨hfirst.address, rfl⟩, rfl⟩
  obtain ⟨before, item, after, address, hitems, -, hlater, haddress, hredirected, hforward⟩ :=
    hredirects ⟨secondMirror, by simp, hsecond⟩
  -- The second item is the last one, so it is the last one that matches.
  have hlast : item = secondMirror := by
    rcases before with _ | ⟨first, before⟩
    · cases hitems
      exact absurd hsecond (hlater _ (List.mem_singleton_self _))
    · rcases before with _ | ⟨_, _ | _⟩ <;> cases hitems
      rfl
  subst hlast
  have hserver : IPv4.ofChars? secondMirror.destinationAddress.toList =
      some ⟨172 * 2 ^ 24 + 17 * 2 ^ 16 + 3, by decide⟩ :=
    IPv4.ofChars?_eq_some_iff.mpr (by decide +kernel)
  exact ⟨transcript, g, hcompile (), hrun, _, hredirected,
    Option.some.inj (haddress.symm.trans hserver), rfl, hforward,
    haccepts.mpr ⟨firstMirror, by simp, hfirst⟩⟩

end FirewallPolicy
