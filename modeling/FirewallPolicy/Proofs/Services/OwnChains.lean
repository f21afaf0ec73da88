import FirewallPolicy.Proofs.Prepare.InputVerdict
import FirewallPolicy.Proofs.Prepare.SafeRuns
import FirewallPolicy.Proofs.Services.SafeRuns

/-!
# The chains that are a service's own

A service makes, fills, empties and removes the two chains that are named after it.  Nothing keeps
these names apart from the names of the chains of a prepared host, and a service that opens ports
may bear the name that a name service has with its mark.

* `Transcript.AltersChain`: a transcript makes a chain, fills it at its end, empties it or removes
  it.
* `HostService.altersChain_iff`: a transcript of a service alters its own two chains.
* `services_keep_apart_iff`: the names with which services keep apart from a prepared host and from
  each other.
-/

namespace FirewallPolicy

open FirewallPolicy.ChainName

/-! ## Altered chains -/

/-- The chain that an operation makes, fills at its end, empties or removes. -/
def Operation.alteredChain? : Operation → Option String
  | .newChain c => some c
  | .append c _ => some c
  | .flushChain c => some c
  | .deleteChain c => some c
  | _ => none

/-- A transcript makes a chain, fills it at its end, empties it or removes it. -/
def Transcript.AltersChain (t : Transcript) (c : String) : Prop :=
  ∃ command ∈ t, ∃ op, command.operation? = some op ∧ op.alteredChain? = some c

lemma Transcript.altersChain_iff {ops : List Operation} (hwf : ∀ op ∈ ops, op.WellFormed)
    {c : String} :
    Transcript.AltersChain (ops.map Operation.command) c ↔
      ∃ op ∈ ops, op.alteredChain? = some c := by
  constructor
  · intro ⟨command, hcommand, op, hop, hc⟩
    exact ⟨op, exists_mem_of_operation? hwf hcommand hop, hc⟩
  · intro ⟨op, hop, hc⟩
    exact ⟨op.command, List.mem_map_of_mem hop, op, Operation.operation?_command (hwf op hop), hc⟩

namespace HostService

variable {s : HostService} {c : String}

/-- A service alters no chains but its own. -/
lemma mem_ownChains_of_alteredChain? {d : Direction} {op : Operation} (hop : op ∈ s.operations d)
    (hc : op.alteredChain? = some c) : c ∈ s.ownChains := by
  have hin : s.chainIn ∈ s.ownChains := by simp [ownChains]
  have hout : s.chainOut ∈ s.ownChains := by simp [ownChains]
  cases d with
  | install =>
    rw [operations_install] at hop
    rcases List.mem_append.mp hop with hop | hop
    · rcases List.mem_pair.mp hop with rfl | rfl <;> cases hc <;> assumption
    · rcases mem_fill hop with ⟨r, -, rfl⟩ | rfl | rfl | rfl | ⟨r, -, rfl⟩ | ⟨r, -, rfl⟩ <;>
        cases hc <;> assumption
  | uninstall =>
    rw [operations_uninstall] at hop
    simp only [List.mem_append, or_assoc] at hop
    rcases hop with hop | hop | hop | hop
    · rcases List.mem_pair.mp hop with rfl | rfl <;> cases hc
    · rcases List.mem_pair.mp hop with rfl | rfl <;> cases hc <;> assumption
    · rcases List.mem_pair.mp hop with rfl | rfl <;> cases hc <;> assumption
    · obtain ⟨d, -, -, r, rfl⟩ := exists_delete_of_mem_withdraw hop
      cases hc

/-- A service alters both of its own chains: it makes them, and it removes them. -/
lemma exists_alteredChain?_of_mem_ownChains (d : Direction) (hc : c ∈ s.ownChains) :
    ∃ op ∈ s.operations d, op.alteredChain? = some c := by
  cases d with
  | install => exact ⟨.newChain c, newChain_mem_install hc, rfl⟩
  | uninstall =>
    obtain ⟨first, last, hops, -⟩ := exists_deleteChain "" hc
    exact ⟨.deleteChain c, by simp [hops], rfl⟩

/-- A transcript of a service alters its own two chains, and no others. -/
theorem altersChain_iff (hvalid : s.Valid) (d : Direction) (c : String) :
    (s.transcript d).AltersChain c ↔ c ∈ s.ownChains := by
  unfold transcript
  rw [Transcript.altersChain_iff fun _ hop => wellFormed_operations hvalid hop]
  constructor
  · intro ⟨op, hop, hc⟩
    exact mem_ownChains_of_alteredChain? hop hc
  · exact exists_alteredChain?_of_mem_ownChains d

/-- Services of different names have no chain in common, and those of one name have. -/
lemma ownChains_disjoint_iff {s' : HostService} :
    (∀ c ∈ s.ownChains, c ∉ s'.ownChains) ↔ s.chainName ≠ s'.chainName := by
  simp [ownChains, chainIn, chainOut]

end HostService

/-! ## Reserved names -/

/-- The names of the chains that a host is prepared with. -/
def reservedNames : List String := [vital, block, services, trusted]

/-- The two sides of these chains. -/
def reservedChains : List String := reservedNames.flatMap fun name => [ingress name, egress name]

lemma ingress_mem_reservedChains {name : String} :
    ingress name ∈ reservedChains ↔ name ∈ reservedNames := by
  simp [reservedChains]

lemma egress_mem_reservedChains {name : String} :
    egress name ∈ reservedChains ↔ name ∈ reservedNames := by
  simp [reservedChains]

/-- The chains of a prepared host bear reserved names. -/
lemma Prepare.managedChains_subset_reservedChains : ∀ c ∈ managedChains, c ∈ reservedChains := by
  decide

/-- Preparing a host makes chains of reserved names. -/
lemma Prepare.mem_reservedChains_of_makesChain {config : PrepareConfig} {c : String}
    (h : (transcript config .install).MakesChain c) : c ∈ reservedChains := by
  have hmade : .newChain c ∈ operations config .install :=
    (Transcript.makesChain_iff wellFormed_operations).mp h
  exact managedChains_subset_reservedChains c (mem_managedChains_of_newChain hmade)

/-- The own chains of a service are reserved exactly if its name is. -/
lemma HostService.ownChains_reserved_iff {s : HostService} :
    (∀ c ∈ s.ownChains, c ∉ reservedChains) ↔ s.chainName ∉ reservedNames := by
  simp [ownChains, chainIn, chainOut, ingress_mem_reservedChains, egress_mem_reservedChains]

/-- No reserved name begins with the mark of name services. -/
lemma dnsMark_append_notMem (name : String) : dnsMark ++ name ∉ reservedNames := by
  have hmark : (dnsMark ++ name).toList.head? = some 'd' := by
    rw [String.toList_append]
    rfl
  have hreserved : ∀ r ∈ reservedNames, r.toList.head? ≠ some 'd' := by decide
  exact fun h => hreserved _ h hmark

/-- All that the two jobs accept is compiled, and so is what the job accepts that prepares a host.
The transcripts of a service that opens ports stay away from the chains of a prepared host exactly
if it bears no reserved name, and from those of a name service exactly if it does not bear its
marked name.  The transcripts of a name service always stay away from a prepared host. -/
theorem services_keep_apart_iff {σ : Type} {source : BlacklistSync.Source σ}
    {rawPorts rawNames rawHost : Value} {globals : List NetworkItem} {ports : ServiceConfig}
    {names : DnsConfig} {host : PrepareConfig} (hports : ServiceConfig.read rawPorts = .ok ports)
    (hnames : DnsConfig.read rawNames = .ok names)
    (hhost : PrepareConfig.read rawHost globals = .ok host) (d d' : Direction) (world : σ) :
    ∃ ofPorts ofNames ofHost,
      ((Directory.builtin source).compile "engines/services/generic-service" (.text d.name)
        rawPorts globals world).1.result = .ok ofPorts ∧
      ((Directory.builtin source).compile "services/docker-dns-service" (.text d'.name)
        rawNames globals world).1.result = .ok ofNames ∧
      ((Directory.builtin source).compile "prepare-netfilter" (.text "install")
        rawHost globals world).1.result = .ok ofHost ∧
      (∀ c, ofHost.MakesChain c → c ∈ reservedChains) ∧
      ((∀ c, ofPorts.AltersChain c → c ∉ reservedChains) ↔ ports.chainName ∉ reservedNames) ∧
      (∀ c, ofNames.AltersChain c → c ∉ reservedChains) ∧
      ((∀ c, ofPorts.AltersChain c → ¬ ofNames.AltersChain c) ↔
        ports.chainName ≠ dnsMark ++ names.chainName) := by
  have hreadPorts : (HostService.ports ports).ReadFrom rawPorts := hports
  have hreadNames : (HostService.names names).ReadFrom rawNames := hnames
  have halters := HostService.altersChain_iff (HostService.valid_of_readFrom hreadPorts) d
  have halters' := HostService.altersChain_iff (HostService.valid_of_readFrom hreadNames) d'
  have hofHost := @Prepare.compile_eq_transcript host σ source rawHost globals world hhost .install
  have hofPorts :=
    @HostService.compile_eq_transcript σ source rawPorts globals world _ hreadPorts d
  have hofNames :=
    @HostService.compile_eq_transcript σ source rawNames globals world _ hreadNames d'
  simp only [HostService.jobName] at hofPorts hofNames
  refine ⟨(HostService.ports ports).transcript d, (HostService.names names).transcript d',
    Prepare.transcript host .install, ?_⟩
  refine ⟨hofPorts, hofNames, hofHost, ?_, ?_, ?_, ?_⟩
  · intro c
    exact Prepare.mem_reservedChains_of_makesChain
  · simp only [halters]
    exact HostService.ownChains_reserved_iff
  · simp only [halters']
    exact HostService.ownChains_reserved_iff.mpr (dnsMark_append_notMem names.chainName)
  · simp only [halters, halters']
    exact HostService.ownChains_disjoint_iff

/-- A web service, a name service and a prepared host that keep apart. -/
theorem web_resolver_keep_apart :
    ∃ ofPorts ofNames ofHost,
      ((Directory.builtin (BlacklistSync.databaseSource Unit)).compile
        "engines/services/generic-service" (.text "uninstall") (portDocument "web" 443)
        gatewayTrusted ()).1.result = .ok ofPorts ∧
      ((Directory.builtin (BlacklistSync.databaseSource Unit)).compile
        "services/docker-dns-service" (.text "install") resolverDocument
        gatewayTrusted ()).1.result = .ok ofNames ∧
      ((Directory.builtin (BlacklistSync.databaseSource Unit)).compile "prepare-netfilter"
        (.text "install") gatewayDocument gatewayTrusted ()).1.result = .ok ofHost ∧
      (∀ c, ofHost.MakesChain c → c ∈ reservedChains) ∧
      (∀ c, ofPorts.AltersChain c → c ∉ reservedChains) ∧
      (∀ c, ofNames.AltersChain c → c ∉ reservedChains) ∧
      ∀ c, ofPorts.AltersChain c → ¬ ofNames.AltersChain c := by
  have hports : ServiceConfig.read (portDocument "web" 443) = .ok (portService "web" 443) :=
    Except.eq_ok_of_toOption (by decide +kernel)
  have hnames : (webAndResolver false).ReadFrom resolverDocument :=
    Except.eq_ok_of_toOption (by decide +kernel)
  have hhost : PrepareConfig.read gatewayDocument gatewayTrusted = .ok gatewayConfig :=
    Except.eq_ok_of_toOption (by decide +kernel)
  obtain ⟨ofPorts, ofNames, ofHost, hofPorts, hofNames, hofHost, hmade, hreserved, hnames',
    hdisjoint⟩ := @services_keep_apart_iff Unit (BlacklistSync.databaseSource Unit) _ _ _ _ _ _ _
      hports hnames hhost .uninstall .install ()
  exact ⟨ofPorts, ofNames, ofHost, hofPorts, hofNames, hofHost, hmade,
    hreserved.mpr (by decide), hnames', hdisjoint.mpr (by decide)⟩

/-- A service that opens ports is accepted with a reserved name, and then its removal empties and
removes a chain of the prepared host; and with the marked name of a name service, and then its
removal removes the chains of that service. -/
theorem reserved_and_marked_names_collide :
    (∃ ofPorts ofHost,
      ((Directory.builtin (BlacklistSync.databaseSource Unit)).compile
        "engines/services/generic-service" (.text "uninstall")
        (portDocument "services_access_0" 443) [] ()).1.result = .ok ofPorts ∧
      ((Directory.builtin (BlacklistSync.databaseSource Unit)).compile "prepare-netfilter"
        (.text "install") gatewayDocument [] ()).1.result = .ok ofHost ∧
      ⟨.iptables4, "-F IN_services_access_0"⟩ ∈ ofPorts ∧
      ⟨.iptables4, "-X IN_services_access_0"⟩ ∈ ofPorts ∧
      ofPorts.AltersChain "IN_services_access_0" ∧ ofHost.MakesChain "IN_services_access_0") ∧
    ∃ ofPorts ofNames,
      ((Directory.builtin (BlacklistSync.databaseSource Unit)).compile
        "engines/services/generic-service" (.text "uninstall")
        (portDocument "dns_resolver" 443) [] ()).1.result = .ok ofPorts ∧
      ((Directory.builtin (BlacklistSync.databaseSource Unit)).compile
        "services/docker-dns-service" (.text "install") resolverDocument [] ()).1.result =
          .ok ofNames ∧
      ofPorts.AltersChain "IN_dns_resolver" ∧ ofNames.AltersChain "IN_dns_resolver" := by
  have hbase : (HostService.ports (portService "services_access_0" 443)).ReadFrom
      (portDocument "services_access_0" 443) := Except.eq_ok_of_toOption (by decide +kernel)
  have hmarked : (HostService.ports (portService "dns_resolver" 443)).ReadFrom
      (portDocument "dns_resolver" 443) := Except.eq_ok_of_toOption (by decide +kernel)
  have hnames : (webAndResolver false).ReadFrom resolverDocument :=
    Except.eq_ok_of_toOption (by decide +kernel)
  have hhost : PrepareConfig.read gatewayDocument [] =
      .ok { gatewayConfig with globalTrusted := [] } :=
    Except.eq_ok_of_toOption (by decide +kernel)
  have hbaseAlters :=
    HostService.altersChain_iff (HostService.valid_of_readFrom hbase) .uninstall
  have hmarkedAlters :=
    HostService.altersChain_iff (HostService.valid_of_readFrom hmarked) .uninstall
  have hnamesAlters :=
    HostService.altersChain_iff (HostService.valid_of_readFrom hnames) .install
  refine ⟨⟨_, _, HostService.compile_eq_transcript hbase .uninstall,
    Prepare.compile_eq_transcript hhost .install, ?_, ?_, ?_, ?_⟩,
    _, _, HostService.compile_eq_transcript hmarked .uninstall,
    HostService.compile_eq_transcript hnames .install, ?_, ?_⟩
  · decide +kernel
  · decide +kernel
  · exact (hbaseAlters _).mpr (by decide +kernel)
  · exact (Transcript.makesChain_iff Prepare.wellFormed_operations).mpr
      (Prepare.newChain_mem_install (by decide +kernel))
  · exact (hmarkedAlters _).mpr (by decide +kernel)
  · exact (hnamesAlters _).mpr (by decide +kernel)

end FirewallPolicy
