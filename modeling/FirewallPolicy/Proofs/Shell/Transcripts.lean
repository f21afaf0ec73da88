import FirewallPolicy.Proofs.Jobs.NameLengths

/-!
# Transcripts in a shell script

The commands of a transcript stand in a script as they are.  They are plain exactly if no address or
network that they take over from the document has a percent sign, which stands in front of the scope
of an address and allows any text behind it.

* `Policy.isSafe_operations`: without percent signs all operations join safe words.
* `Policy.exists_joins_of_mem_pasted`: all texts that are taken over do get into a command.
* `transcript_isPlain_iff`: the exact condition, for everything that a built-in job compiles, and
  what a shell makes of the lines.
* `smugglingDocument_not_plain`: an accepted document with which a shell does more.
-/

namespace FirewallPolicy

open Shell (IsSafe IsPlain)

namespace Policy

variable {policy : Policy} {job : String} {raw : Value} {globals : List Value} {d : Direction}

/-- All operations join safe words if no text that is taken over has a percent sign. -/
theorem isSafe_operations (h : policy.ReadFrom job raw globals)
    (hscope : ∀ text ∈ policy.pasted d, '%' ∉ text.toList) :
    ∀ op ∈ policy.operations d, op.IsSafe :=
  fun op hop => (fits_operations h hscope op hop).isSafe

/-! ## With percent signs -/

/-- What a condition of a rule is about is a word of the rule. -/
lemma mem_words_of_mem_values {r : Rule} {c : Condition} {v : String} (hc : c ∈ r.conditions)
    (hv : v ∈ c.values) : v ∈ r.words :=
  List.mem_append_left _ (List.mem_flatMap.mpr ⟨c, hc, List.mem_append_right _ hv⟩)

/-- A rule asks for a text with one of its conditions. -/
def AsksFor (r : Rule) (text : String) : Prop := ∃ c ∈ r.conditions, text ∈ c.values

section Asking

variable {r : Rule} {text : String}

lemma AsksFor.append (h : AsksFor r text) (c : String) :
    ∃ words, (Operation.appendRule c r).Joins words ∧ text ∈ words := by
  obtain ⟨k, hk, htext⟩ := h
  exact ⟨_, .append c r, by simp [mem_words_of_mem_values hk htext]⟩

lemma AsksFor.insert (h : AsksFor r text) (c : String) (position : Nat) :
    ∃ words, (Operation.insertRule c position r).Joins words ∧ text ∈ words := by
  obtain ⟨k, hk, htext⟩ := h
  exact ⟨_, .insert c position r, by simp [mem_words_of_mem_values hk htext]⟩

lemma AsksFor.delete (h : AsksFor r text) (c : String) :
    ∃ words, (Operation.deleteRule c r).Joins words ∧ text ∈ words := by
  obtain ⟨k, hk, htext⟩ := h
  exact ⟨_, .delete c r, by simp [mem_words_of_mem_values hk htext]⟩

end Asking

/-- Traffic of a network that stays on the host is told by that network. -/
lemma exists_vital_of_network {config : PrepareConfig} {i : PrimaryInterface} {n : NetworkEntry}
    (hi : i ∈ config.interfaces) (hn : n ∈ i.networks) :
    ∃ r, AsksFor r n.value ∧
      Operation.appendRule Prepare.vitalIn r ∈ Prepare.operations config .install := by
  let r := Prepare.accept [.inInterface "lo", .source n.value, .destination n.value]
  have hlocal : Operation.appendRule Prepare.vitalIn r ∈ Prepare.localTraffic n.value :=
    List.mem_cons_self
  have htraffic : Operation.appendRule Prepare.vitalIn r ∈ Prepare.vitalTraffic i :=
    List.mem_append_right _ (List.mem_flatMap.mpr ⟨n, hn, hlocal⟩)
  have hvital : Operation.appendRule Prepare.vitalIn r ∈ Prepare.vitalInstall config :=
    List.mem_append_left _ (List.mem_append_right _ (List.mem_flatMap.mpr ⟨i, hi, htraffic⟩))
  refine ⟨r, ⟨.source n.value, by simp [r, Prepare.accept], by simp [Condition.values]⟩, ?_⟩
  simp only [Prepare.operations, List.mem_append]
  exact .inl (.inl (.inl (.inl hvital)))

/-- Every network of an item gets into a rule for it. -/
lemma exists_itemRule_of_network {item : ServiceItem} {text : String}
    (h : text ∈ item.sources ++ item.destination.toList) :
    ∃ r ∈ Service.itemRules item, AsksFor r text := by
  simp only [Service.itemRules]
  -- A source has a rule of its own; the destination is in all rules, and there is at least one.
  rcases List.mem_append.mp h with h | h
  · have hsources : ¬ item.sources.isEmpty := by
      rw [List.isEmpty_iff]
      rintro hnil
      rw [hnil] at h
      cases h
    rw [if_neg hsources]
    exact ⟨_, List.mem_map_of_mem h, .source text, List.mem_cons_self, by simp [Condition.values]⟩
  · have hcondition : Condition.destination text ∈
        item.destination.toList.map Condition.destination := List.mem_map_of_mem h
    split
    · exact ⟨_, List.mem_singleton_self _, .destination text,
        List.mem_append_left _ hcondition, by simp [Condition.values]⟩
    · rename_i hsources
      obtain ⟨source, rest, hsource⟩ := List.exists_cons_of_ne_nil
        (fun hnil => hsources (List.isEmpty_iff.mpr hnil))
      refine ⟨_, List.mem_map_of_mem (a := source) (by simp [hsource]), .destination text, ?_,
        by simp [Condition.values]⟩
      exact List.mem_cons_of_mem _ (List.mem_append_left _ hcondition)

/-- The addresses of a forwarded name get into the rules for it, which are inserted and deleted. -/
lemma exists_joins_of_forward {config : DnsConfig} {item : DnsForward} {text : String}
    (hitem : item ∈ config.items) (h : text ∈ [item.sourceAddress, item.destinationAddress])
    (d : Direction) :
    ∃ op ∈ DnsForwarding.operations config d, ∃ words, op.Joins words ∧ text ∈ words := by
  have hprotocol : "tcp" ∈ DnsForwarding.protocols := by decide
  have hredirect : AsksFor (DnsForwarding.redirectRule item "tcp") item.sourceAddress :=
    ⟨.destination item.sourceAddress, by simp [DnsForwarding.redirectRule],
      by simp [Condition.values]⟩
  have hforward : AsksFor (DnsForwarding.forwardRule item "tcp") item.destinationAddress :=
    ⟨.destination item.destinationAddress, by simp [DnsForwarding.forwardRule],
      by simp [Condition.values]⟩
  cases d with
  | install =>
    have hitems : ∀ op ∈ DnsForwarding.itemInstall (DnsForwarding.chainIn config) item,
        op ∈ DnsForwarding.operations config .install := fun op hop =>
      List.mem_append_left _ (List.mem_append_right _ (List.mem_flatMap.mpr ⟨item, hitem, hop⟩))
    rcases List.mem_pair.mp h with rfl | rfl
    · exact ⟨_, hitems _ (List.mem_append_left _ (List.mem_append_left _
        (List.mem_map_of_mem hprotocol))), hredirect.insert "PREROUTING" 1⟩
    · exact ⟨_, hitems _ (List.mem_append_left _ (List.mem_append_right _
        (List.mem_map_of_mem hprotocol))), hforward.insert "FORWARD" 1⟩
  | uninstall =>
    have hitems : ∀ op ∈ DnsForwarding.itemUninstall item,
        op ∈ DnsForwarding.operations config .uninstall := fun op hop =>
      List.mem_append_right _ (List.mem_flatMap.mpr ⟨item, hitem, hop⟩)
    rcases List.mem_pair.mp h with rfl | rfl
    · exact ⟨_, hitems _ (List.mem_append_left _ (List.mem_map_of_mem hprotocol)),
        hredirect.delete "PREROUTING"⟩
    · exact ⟨_, hitems _ (List.mem_append_right _ (List.mem_map_of_mem hprotocol)),
        hforward.delete "FORWARD"⟩

/-- Every text that is taken over is a word of some operation. -/
theorem exists_joins_of_mem_pasted {text : String} (h : text ∈ policy.pasted d) :
    ∃ op ∈ policy.operations d, ∃ words, op.Joins words ∧ text ∈ words := by
  cases policy with
  | host config =>
    cases d with
    | uninstall => cases h
    | install =>
      rcases List.mem_append.mp h with h | h
      · refine ⟨.addToSet ChainName.trustedSet text, ?_, _, .addToSet .., by simp⟩
        simp [operations, Prepare.operations, Prepare.trustedInstall, h]
      · obtain ⟨i, hi, h⟩ := List.mem_flatMap.mp h
        obtain ⟨n, hn, rfl⟩ := List.mem_map.mp h
        obtain ⟨r, hr, hop⟩ := exists_vital_of_network hi hn
        exact ⟨_, hop, hr.append _⟩
  | service s =>
    cases s with
    | ports config =>
      cases d with
      | uninstall => cases h
      | install =>
        obtain ⟨item, hitem, h⟩ := List.mem_flatMap.mp h
        obtain ⟨r, hr, hasks⟩ := exists_itemRule_of_network h
        have hmem : r ∈ Service.inRules config :=
          List.mem_append_left _ (List.mem_flatMap.mpr ⟨item, hitem, hr⟩)
        refine ⟨_, ?_, hasks.append (ChainName.ingress config.chainName)⟩
        exact List.mem_append_left _ (List.mem_append_right _ (List.mem_map_of_mem hmem))
    | names config =>
      have hpasted : text ∈ config.items.flatMap
          fun item => [item.sourceAddress, item.destinationAddress] := by
        cases d <;> exact h
      obtain ⟨item, hitem, haddress⟩ := List.mem_flatMap.mp hpasted
      exact exists_joins_of_forward hitem haddress d
  | blacklist networks => cases d <;> cases h

end Policy

/-! ## The exact condition -/

/-- Joined words stand in the text. -/
lemma Shell.subset_intercalate {words : List String} {w : String} (h : w ∈ words) :
    w.toList ⊆ (" ".intercalate words).toList := by
  induction words with
  | nil => cases h
  | cons first words ih =>
    cases words with
    | nil =>
      rw [List.mem_singleton.mp h, String.intercalate_singleton]
      exact List.Subset.refl _
    | cons second words =>
      rw [String.intercalate_cons_cons, String.toList_append, String.toList_append]
      rcases List.mem_cons.mp h with rfl | h
      · exact List.subset_append_of_subset_left _ (List.subset_append_left _ _)
      · exact List.subset_append_of_subset_right _ (ih h)

/-- A safe operation makes plain arguments. -/
lemma Operation.IsSafe.isPlain {op : Operation} (h : op.IsSafe) : IsPlain op.arguments := by
  obtain ⟨words, hjoins, hsafe⟩ := h
  have hne : words ≠ [] := by
    rintro rfl
    cases hjoins
  rw [hjoins.arguments_eq]
  exact Shell.isPlain_intercalate hne hsafe

/-- A shell makes the tool and the words that were joined of the line of a safe operation. -/
lemma Operation.IsSafe.words?_line {op : Operation} (h : op.IsSafe) {tools : ToolPaths}
    (htool : Shell.IsSafe (tools.tool op.kind)) :
    ∃ words, op.Joins words ∧
      Shell.words? (op.command.line tools) = some (tools.tool op.kind :: words) := by
  obtain ⟨words, hjoins, hsafe⟩ := h
  have hne : words ≠ [] := by
    rintro rfl
    cases hjoins
  have hline : op.command.line tools = " ".intercalate (tools.tool op.kind :: words) := by
    rw [String.intercalate_cons_of_ne_nil hne, ← hjoins.arguments_eq]
    rfl
  refine ⟨words, hjoins, ?_⟩
  rw [hline]
  refine Shell.words?_intercalate ?_
  rw [List.forall_mem_cons]
  exact ⟨htool, hsafe⟩

/-- The commands of a compiled transcript are plain exactly if no address or network that they take
over from the document has a percent sign; and then a shell makes of each line the tool and the
words that the command was joined from. -/
theorem transcript_isPlain_iff {σ : Type} {source : BlacklistSync.Source σ} {job : String}
    {token raw : Value} {globals : List Value} {world : σ} {transcript : Transcript}
    (h : ((Directory.builtin source).compile job token raw globals world).1.result =
      .ok transcript) :
    ∃ (policy : Policy) (d : Direction), Direction.ofToken? token = some d ∧
      policy.ReadFrom job raw globals ∧
      transcript = (policy.operations d).map Operation.command ∧
      ((∀ command ∈ transcript, IsPlain command.arguments) ↔
        ∀ text ∈ policy.pasted d, '%' ∉ text.toList) ∧
      ((∀ text ∈ policy.pasted d, '%' ∉ text.toList) →
        ∀ tools : ToolPaths, (∀ kind, IsSafe (tools.tool kind)) → ∀ op ∈ policy.operations d,
          ∃ words, op.Joins words ∧
            Shell.words? (op.command.line tools) = some (tools.tool op.kind :: words)) := by
  obtain ⟨policy, d, htoken, hread, rfl⟩ := Directory.compile_ok h
  refine ⟨policy, d, htoken, hread, rfl, ?_, fun hscope tools htools op hop => ?_⟩
  · rw [List.forall_mem_map]
    constructor
    · intro hplain text htext hscope
      obtain ⟨op, hop, words, hjoins, hmem⟩ := Policy.exists_joins_of_mem_pasted htext
      -- The text is a word of the arguments, so its percent sign stands there too.
      have hpercent : '%' ∈ op.arguments.toList := by
        rw [hjoins.arguments_eq]
        exact Shell.subset_intercalate hmem hscope
      exact (hplain op hop).notMem_of_not_isSafeChar (by decide) (by decide) hpercent
    · exact fun hscope op hop => (Policy.isSafe_operations hread hscope op hop).isPlain
  · exact (Policy.isSafe_operations hread hscope op hop).words?_line (htools op.kind)

/-! ## A document that is plain -/

/-- A document that opens a port to a network and to a single address. -/
def officeDocument : Value :=
  .map [(.text "chainName", .text "web"), (.text "network", .map [(.text "items", .list
    [.map [(.text "portNumber", .int 443), (.text "protocol", .text "tcp"),
      (.text "sourceNetworks", .list [.text "10.0.0.0/255.0.0.0", .text "fe80::1"])]])])]

/-- The service in it. -/
def office : HostService :=
  .ports
    { chainName := "web"
      items := [{ port := 443, protocol := "tcp", sources := ["10.0.0.0/255.0.0.0", "fe80::1"],
                  destination := none }] }

/-- The transcript of that service is plain, because none of its networks has a percent sign, and a
shell makes of its lines what was joined in them. -/
theorem office_isPlain :
    ((Directory.builtin (BlacklistSync.databaseSource Unit)).compile office.jobName
      (.text Direction.install.name) officeDocument [] ()).1.result =
        .ok (office.transcript .install) ∧
    (∀ command ∈ office.transcript .install, IsPlain command.arguments) ∧
    ∀ op ∈ office.operations .install, ∃ words, op.Joins words ∧
      Shell.words? op.command.line = some (ToolPaths.tool {} op.kind :: words) := by
  have hread : office.ReadFrom officeDocument := Except.eq_ok_of_toOption (by decide +kernel)
  have hcompile : ((Directory.builtin (BlacklistSync.databaseSource Unit)).compile office.jobName
      (.text Direction.install.name) officeDocument [] ()).1.result =
        .ok (office.transcript .install) := HostService.compile_eq_transcript hread .install
  obtain ⟨policy, d, htoken, hpolicy, -, hplain, hwords⟩ :=
    @transcript_isPlain_iff _ _ _ _ _ ([] : List Value) _ _ hcompile
  obtain rfl : policy = .service office := hpolicy.unique ⟨rfl, hread⟩ (by decide)
  have hd : some Direction.install = some d := by
    rw [← htoken]
    decide +kernel
  cases hd
  have hscope : ∀ text ∈ (Policy.service office).pasted .install, '%' ∉ text.toList := by
    decide +kernel
  have htools : ∀ kind, IsSafe (ToolPaths.tool {} kind) := by
    intro kind
    cases kind <;> decide
  exact ⟨hcompile, hplain.mpr hscope, hwords hscope {} htools⟩

/-! ## A document that is not -/

/-- A document that opens a port to an address whose scope ends a command and begins another. -/
def smugglingDocument : Value :=
  .map [(.text "network", .map [(.text "items", .list
    [.map [(.text "portNumber", .int 443), (.text "protocol", .text "tcp"),
      (.text "sourceNetworks", .list [.text "fe80::1%eth0;reboot"])]])])]

/-- The service in it. -/
def smuggling : HostService :=
  .ports
    { chainName := "genericServiceName"
      items := [{ port := 443, protocol := "tcp", sources := ["fe80::1%eth0;reboot"],
                  destination := none }] }

/-- That document is accepted, and a line of its transcript is no list of words to a shell. -/
theorem smugglingDocument_not_plain :
    smuggling.ReadFrom smugglingDocument ∧
    ((Directory.builtin (BlacklistSync.databaseSource Unit)).compile smuggling.jobName
      (.text Direction.install.name) smugglingDocument [] ()).1.result =
        .ok (smuggling.transcript .install) ∧
    ∃ command ∈ smuggling.transcript .install,
      ¬ IsPlain command.arguments ∧ Shell.words? command.line = none := by
  have hread : smuggling.ReadFrom smugglingDocument :=
    Except.eq_ok_of_toOption (by decide +kernel)
  have hlines : ∃ command ∈ smuggling.transcript .install,
      ¬ IsPlain command.arguments ∧ Shell.words? command.line = none := by decide +kernel
  exact ⟨hread, HostService.compile_eq_transcript hread .install, hlines⟩

end FirewallPolicy
