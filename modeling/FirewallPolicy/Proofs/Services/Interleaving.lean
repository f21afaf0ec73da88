import FirewallPolicy.Proofs.Services.Session
import Mathlib.Algebra.BigOperators.Group.Finset.Piecewise

/-!
# Services in any order

Several services are installed and uninstalled on one host, and their commands come in any order in
which those of each service stay in theirs.

* `Interleaves` and `AtRest` say which orders of commands are meant.
* `Composition` is what the host looks like when no transcript is under way.
* `composition_of_interleaves`: if no rule for queries reads like a jump to a managed chain, no
  command fails, and the host looks like that.
-/

namespace FirewallPolicy

open FirewallPolicy.ChainName

/-! ## Orders of commands -/

/-- Two lists after each other, as often as said. -/
def rounds {α : Type} (install uninstall : List α) (n : ℕ) : List α :=
  (List.replicate n (install ++ uninstall)).flatten

lemma rounds_succ {α : Type} (install uninstall : List α) (n : ℕ) :
    rounds install uninstall (n + 1) = install ++ uninstall ++ rounds install uninstall n := by
  rw [rounds, List.replicate_succ, List.flatten_cons]
  rfl

lemma map_rounds {α β : Type} (f : α → β) (install uninstall : List α) (n : ℕ) :
    (rounds install uninstall n).map f = rounds (install.map f) (uninstall.map f) n := by
  rw [rounds, List.map_flatten, List.map_replicate, List.map_append]
  rfl

lemma mem_rounds {α : Type} {install uninstall : List α} {n : ℕ} {x : α}
    (h : x ∈ rounds install uninstall n) : x ∈ install ∨ x ∈ uninstall := by
  obtain ⟨round, hround, hx⟩ := List.mem_flatten.mp h
  rw [List.eq_of_mem_replicate hround] at hx
  exact List.mem_append.mp hx

section Orders

variable {ι : Type} [DecidableEq ι]

/-- The commands of one service among those of all. -/
def commandsOf (i : ι) (trace : List (ι × Command)) : Transcript :=
  (trace.filter fun e => e.1 = i).map (·.2)

/-- The commands of each service are those of its two transcripts in turn, beginning with the one
that installs it; the last transcript may be under way. -/
def Interleaves (transcript : ι → Direction → Transcript) (trace : List (ι × Command)) : Prop :=
  ∀ i, ∃ n, commandsOf i trace <+: rounds (transcript i .install) (transcript i .uninstall) n

/-- No transcript is under way, and these services are installed. -/
def AtRest (transcript : ι → Direction → Transcript) (installed : Finset ι)
    (trace : List (ι × Command)) : Prop :=
  ∀ i, ∃ n, commandsOf i trace = rounds (transcript i .install) (transcript i .uninstall) n ++
    if i ∈ installed then transcript i .install else []

/-- What a command makes of the list of linked services. -/
def linkStep (link unlink : ι → Command) (order : List ι) (e : ι × Command) : List ι :=
  if e.2 = link e.1 then e.1 :: order
  else if e.2 = unlink e.1 then order.erase e.1
  else order

/-- The services that have been linked and not been unlinked since, the newest link first. -/
def linkOrder (link unlink : ι → Command) (trace : List (ι × Command)) : List ι :=
  trace.foldl (linkStep link unlink) []

end Orders

/-! ## What the host looks like -/

/-- The command that links a service into a chain. -/
def linkCommand (c link : String) : Command := (Operation.insert c 1 link).command

/-- The command that takes the link of a service out of a chain. -/
def unlinkCommand (c link : String) : Command := (Operation.delete c link).command

section Composition

variable {ι : Type} [DecidableEq ι] (service : ι → HostService)

/-- The services that the incoming chain for services jumps to, the one linked last first. -/
def orderIn (trace : List (ι × Command)) : List ι :=
  linkOrder (fun i => linkCommand (ingress services) (service i).linkIn)
    (fun i => unlinkCommand (ingress services) (service i).linkIn) trace

/-- The services that the outgoing chain for services jumps to, the one linked last first. -/
def orderOut (trace : List (ι × Command)) : List ι :=
  linkOrder (fun i => linkCommand (egress services) (service i).linkOut)
    (fun i => unlinkCommand (egress services) (service i).linkOut) trace

/-- What is asked of the state of a host before any of the services is installed. -/
structure HostFor (base : Firewall) : Prop where
  present : ∀ c ∈ sharedChains, (base.chain? c).isSome
  absent : ∀ i, ∀ c ∈ (service i).ownChains, base.chain? c = none
  unreferred : ∀ i, ∀ c ∈ (service i).ownChains, ¬ base.Refers c

/-- The state `f` of a host that was in the state `base`, on which some of the services are
installed. -/
structure Composition (base : Firewall) (installed : Finset ι) (trace : List (ι × Command))
    (f : Firewall) : Prop where
  /-- The chains for services jump to the installed ones, the one linked last first. -/
  linksIn : f.chain? (ingress services) = (base.chain? (ingress services)).map
    ((orderIn service trace).map (fun i => (service i).linkIn) ++ ·)
  linkedIn : (orderIn service trace : Multiset ι) = installed.val
  linksOut : f.chain? (egress services) = (base.chain? (egress services)).map
    ((orderOut service trace).map (fun i => (service i).linkOut) ++ ·)
  linkedOut : (orderOut service trace : Multiset ι) = installed.val
  /-- The rules for queries stand in front of what was there, each as often as the installed
  services have it. -/
  forwards : ∃ heads : List String,
    f.chain? "FORWARD" = (base.chain? "FORWARD").map (heads ++ ·) ∧
    (heads : Multiset String) = ∑ i ∈ installed, ((service i).forwards : Multiset String)
  redirects : ∃ heads : List String,
    f.chain? "PREROUTING" = (base.chain? "PREROUTING").map (heads ++ ·) ∧
    (heads : Multiset String) = ∑ i ∈ installed, ((service i).redirects : Multiset String)
  /-- The chains of an installed service hold its rules, and those of another are not there. -/
  own : ∀ i ∈ installed, f.chain? (service i).chainIn = some (service i).inRules ∧
    f.chain? (service i).chainOut = some [Rule.leave.text]
  absent : ∀ i ∉ installed, f.chain? (service i).chainIn = none ∧
    f.chain? (service i).chainOut = none
  /-- Everything else is as it was, and where no service is left everything is. -/
  others : ∀ c ∉ sharedChains, (∀ i, c ∉ (service i).ownChains) → f.chain? c = base.chain? c
  sets : f.set? = base.set?
  restored : installed = ∅ → f = base

/-- The services compose on every host, in whatever order their commands come: none fails, and
whenever no transcript is under way the host looks as it should. -/
def Composable (transcript : ι → Direction → Transcript) : Prop :=
  ∀ base, HostFor service base → ∀ trace, Interleaves transcript trace →
    ∃ f, base.run isManagedName (trace.map (·.2)) = some f ∧
      ∀ installed, AtRest transcript installed trace → Composition service base installed trace f

end Composition

/-! ## From commands to operations -/

section Lifting

variable {ι : Type} {service : ι → HostService}

/-- Commands that belong to services are the commands of operations of these services. -/
lemma exists_operations {trace : List (ι × Command)}
    (h : ∀ e ∈ trace, ∃ d, e.2 ∈ (service e.1).transcript d) :
    ∃ ops : List (ι × Operation), trace = ops.map (fun e => (e.1, e.2.command)) ∧
      ∀ e ∈ ops, ∃ d, e.2 ∈ (service e.1).operations d := by
  induction trace with
  | nil => exact ⟨[], rfl, by simp⟩
  | cons e trace ih =>
    obtain ⟨d, hd⟩ := h e List.mem_cons_self
    obtain ⟨op, hop, hcommand⟩ := List.mem_map.mp hd
    obtain ⟨ops, rfl, hops⟩ := ih fun e' he' => h e' (List.mem_cons_of_mem _ he')
    refine ⟨(e.1, op) :: ops, ?_, ?_⟩
    · rw [List.map_cons, hcommand]
    · intro e' he'
      rcases List.mem_cons.mp he' with rfl | he'
      · exact ⟨d, hop⟩
      · exact hops e' he'

/-- The commands of a service are those of its operations. -/
lemma commandsOf_map [DecidableEq ι] (i : ι) (ops : List (ι × Operation)) :
    commandsOf i (ops.map fun e => (e.1, e.2.command)) =
      (operationsOf i ops).map Operation.command := by
  rw [commandsOf, operationsOf, List.filter_map, List.map_map, List.map_map]
  rfl

/-- Well-formed operations are read off their commands. -/
lemma filterMap_operation? {ops : List Operation} (h : ∀ op ∈ ops, op.WellFormed) :
    (ops.map Operation.command).filterMap Command.operation? = ops := by
  rw [List.filterMap_map]
  have hsome : ∀ op ∈ ops, (Command.operation? ∘ Operation.command) op = some op := fun op hop =>
    Operation.operation?_command (h op hop)
  rw [List.filterMap_congr hsome]
  exact List.filterMap_some

/-- Well-formed operations are the same if their commands are. -/
lemma command_inj {a b : Operation} (ha : a.WellFormed) (hb : b.WellFormed) :
    a.command = b.command ↔ a = b := by
  constructor
  · intro h
    have hread := Operation.operation?_command ha
    rw [h, Operation.operation?_command hb] at hread
    exact (Option.some.inj hread).symm
  · rintro rfl
    rfl

/-- The operations of one service are read off its commands. -/
lemma filterMap_operation?_commandsOf [DecidableEq ι] {ops : List (ι × Operation)}
    (h : ∀ e ∈ ops, e.2.WellFormed) (i : ι) :
    (commandsOf i (ops.map fun e => (e.1, e.2.command))).filterMap Command.operation? =
      operationsOf i ops := by
  rw [commandsOf_map, filterMap_operation?]
  intro op hop
  obtain ⟨e, he, rfl⟩ := List.mem_map.mp hop
  exact h e (List.mem_of_mem_filter he)

namespace HostService

/-- Operations that belong to valid services are well-formed. -/
lemma wellFormed_of_mem_operations (hvalid : ∀ i, (service i).Valid) {ops : List (ι × Operation)}
    (hops : ∀ e ∈ ops, ∃ d, e.2 ∈ (service e.1).operations d) : ∀ e ∈ ops, e.2.WellFormed := by
  intro e he
  obtain ⟨d, hd⟩ := hops e he
  exact wellFormed_operations (hvalid e.1) hd

variable {s : HostService}

/-- The operations of a service are read off its transcripts. -/
lemma filterMap_operation?_transcript (h : s.Valid) (d : Direction) :
    (s.transcript d).filterMap Command.operation? = s.operations d :=
  filterMap_operation? fun _ hop => wellFormed_operations h hop

lemma filterMap_operation?_rounds (h : s.Valid) (n : ℕ) :
    (rounds (s.transcript .install) (s.transcript .uninstall) n).filterMap Command.operation? =
      rounds (s.operations .install) (s.operations .uninstall) n := by
  rw [transcript, transcript, ← map_rounds, filterMap_operation?]
  intro op hop
  rcases mem_rounds hop with hop | hop
  · exact wellFormed_operations h hop
  · exact wellFormed_operations h hop

end HostService

/-- Every command of an order that is meant belongs to a transcript of its service. -/
lemma Interleaves.mem_transcript [DecidableEq ι] {transcript : ι → Direction → Transcript}
    {trace : List (ι × Command)} (h : Interleaves transcript trace) :
    ∀ e ∈ trace, ∃ d, e.2 ∈ transcript e.1 d := by
  rintro ⟨i, c⟩ he
  obtain ⟨n, hn⟩ := h i
  have hc : c ∈ commandsOf i trace :=
    List.mem_map.mpr ⟨(i, c), List.mem_filter.mpr ⟨he, by simp⟩, rfl⟩
  rcases mem_rounds (hn.subset hc) with hmem | hmem
  · exact ⟨.install, hmem⟩
  · exact ⟨.uninstall, hmem⟩

end Lifting

/-! ## The order of the links -/

section Links

variable {ι : Type} {service : ι → HostService}

/-- Services with different names have different links. -/
lemma linkIn_injective (hdistinct : Function.Injective fun i => (service i).chainName) :
    Function.Injective fun i => (service i).linkIn := by
  intro i j h
  exact hdistinct (ingress_inj.mp (Rule.jump_text_inj.mp h))

lemma linkOut_injective (hdistinct : Function.Injective fun i => (service i).chainName) :
    Function.Injective fun i => (service i).linkOut := by
  intro i j h
  exact hdistinct (egress_inj.mp (Rule.jump_text_inj.mp h))

variable [DecidableEq ι]

/-- An operation that inserts into a chain or deletes from it at most the link of its service makes
of the links at the head of the chain what its command makes of their order. -/
lemma onHead_eq_map_linkStep {c : String} {link : ι → String} (hinj : Function.Injective link)
    (hlink : ∀ i, (Operation.insert c 1 (link i)).WellFormed ∧
      (Operation.delete c (link i)).WellFormed) {i : ι} {op : Operation} (hop : op.WellFormed)
    (hinsert : ∀ p rule, op = .insert c p rule → p = 1 ∧ rule = link i)
    (hdelete : ∀ rule, op = .delete c rule → rule = link i) (order : List ι) :
    op.onHead c (order.map link) =
      (linkStep (fun i => linkCommand c (link i)) (fun i => unlinkCommand c (link i)) order
        (i, op.command)).map link := by
  rw [linkStep]
  -- The operation links its service, or unlinks it, or leaves the chain alone.
  by_cases hins : op = .insert c 1 (link i)
  · rw [if_pos (by rw [hins]; rfl), hins]
    simp [Operation.onHead]
  have hne : op.command ≠ linkCommand c (link i) := fun h =>
    hins ((command_inj hop (hlink i).1).mp h)
  rw [if_neg hne]
  by_cases hdel : op = .delete c (link i)
  · rw [if_pos (by rw [hdel]; rfl), hdel, List.map_erase hinj]
    simp [Operation.onHead]
  have hne' : op.command ≠ unlinkCommand c (link i) := fun h =>
    hdel ((command_inj hop (hlink i).2).mp h)
  rw [if_neg hne']
  cases op with
  | insert d p rule =>
    have hd : d ≠ c := by
      rintro rfl
      obtain ⟨hp, hrule⟩ := hinsert p rule rfl
      exact hins (by rw [hp, hrule])
    simp [Operation.onHead, hd]
  | delete d rule =>
    have hd : d ≠ c := by
      rintro rfl
      exact hdel (by rw [hdelete rule rfl])
    simp [Operation.onHead, hd]
  | _ => rfl

/-- If all that is inserted into a chain or deleted from it are links, each service having one, then
the chain begins with the links in their order. -/
lemma headsAfter_eq_map_linkStep {c : String} {link : ι → String} (hinj : Function.Injective link)
    (hlink : ∀ i, (Operation.insert c 1 (link i)).WellFormed ∧
      (Operation.delete c (link i)).WellFormed)
    {ops : List (ι × Operation)} (hwf : ∀ e ∈ ops, e.2.WellFormed)
    (hinsert : ∀ e ∈ ops, ∀ p rule, e.2 = .insert c p rule → p = 1 ∧ rule = link e.1)
    (hdelete : ∀ e ∈ ops, ∀ rule, e.2 = .delete c rule → rule = link e.1) (order : List ι) :
    headsAfter c ops (order.map link) =
      ((ops.map fun e => (e.1, e.2.command)).foldl
        (linkStep (fun i => linkCommand c (link i)) fun i => unlinkCommand c (link i)) order).map
          link := by
  induction ops generalizing order with
  | nil => rfl
  | cons e ops ih =>
    have hstep := onHead_eq_map_linkStep hinj hlink (hwf e List.mem_cons_self)
      (hinsert e List.mem_cons_self) (hdelete e List.mem_cons_self) order
    have hrest := ih (fun e' he' => hwf e' (List.mem_cons_of_mem _ he'))
      (fun e' he' => hinsert e' (List.mem_cons_of_mem _ he'))
      (fun e' he' => hdelete e' (List.mem_cons_of_mem _ he'))
    show headsAfter c ops (e.2.onHead c (order.map link)) = _
    rw [hstep, hrest]
    rfl

/-- In the incoming chain for services only links come and go, so its rules are the links in their
order. -/
lemma headsAfter_ingress (hvalid : ∀ i, (service i).Valid)
    (hdistinct : Function.Injective fun i => (service i).chainName) {ops : List (ι × Operation)}
    (hops : ∀ e ∈ ops, ∃ d, e.2 ∈ (service e.1).operations d) :
    headsAfter (ingress services) ops [] =
      (orderIn service (ops.map fun e => (e.1, e.2.command))).map fun i => (service i).linkIn := by
  refine headsAfter_eq_map_linkStep (linkIn_injective hdistinct) (fun i => ?_)
    (HostService.wellFormed_of_mem_operations hvalid hops) (fun e he => ?_) (fun e he => ?_) []
  · exact ⟨⟨by decide, by decide, Rule.text_ne_empty _⟩, by decide, Rule.text_ne_empty _⟩
  · obtain ⟨d, hd⟩ := hops e he
    exact (HostService.links_of_mem_operations hd).1
  · obtain ⟨d, hd⟩ := hops e he
    exact (HostService.links_of_mem_operations hd).2.1

/-- So it is in the outgoing one. -/
lemma headsAfter_egress (hvalid : ∀ i, (service i).Valid)
    (hdistinct : Function.Injective fun i => (service i).chainName) {ops : List (ι × Operation)}
    (hops : ∀ e ∈ ops, ∃ d, e.2 ∈ (service e.1).operations d) :
    headsAfter (egress services) ops [] =
      (orderOut service (ops.map fun e => (e.1, e.2.command))).map
        fun i => (service i).linkOut := by
  refine headsAfter_eq_map_linkStep (linkOut_injective hdistinct) (fun i => ?_)
    (HostService.wellFormed_of_mem_operations hvalid hops) (fun e he => ?_) (fun e he => ?_) []
  · exact ⟨⟨by decide, by decide, Rule.text_ne_empty _⟩, by decide, Rule.text_ne_empty _⟩
  · obtain ⟨d, hd⟩ := hops e he
    exact (HostService.links_of_mem_operations hd).2.2.1
  · obtain ⟨d, hd⟩ := hops e he
    exact (HostService.links_of_mem_operations hd).2.2.2

end Links

/-! ## One service alone -/

lemma bareHost_not_refers (c : String) : ¬ bareHost.Refers c := by
  rintro ⟨d, rules, hd, rule, hrule, -⟩
  rw [bareHost_chain?] at hd
  split at hd
  · cases hd
    cases hrule
  · cases hd

namespace HostService

variable {s : HostService}

/-- On an empty host a service can be installed, and then be uninstalled without a trace. -/
lemma applyAll_round (h : s.Valid) (hplain : s.RedirectsPlainly)
    (hown : ∀ c ∈ s.ownChains, c ∉ sharedChains) :
    ∃ g, bareHost.applyAll isManagedName (s.operations .install) = some g ∧
      g.chain? = s.installedOn bareHost.chain? ∧
      g.applyAll isManagedName (s.operations .uninstall) = some bareHost := by
  have habsent : ∀ c ∈ s.ownChains, bareHost.chain? c = none := by
    intro c hc
    rw [bareHost_chain?, if_neg (hown c hc)]
  have hin := habsent s.chainIn (by simp [ownChains])
  have hout := habsent s.chainOut (by simp [ownChains])
  have hneeds : ∀ c ∈ s.needs, (bareHost.chain? c).isSome := by
    intro c hc
    rw [bareHost_chain?, if_pos (needs_subset_sharedChains c hc)]
    rfl
  obtain ⟨g, hg, hchain, hset⟩ := applyAll_install h hplain hin hout hneeds
  exact ⟨g, hg, hchain, applyAll_uninstall hplain.elsewhere hin hout hneeds
    (fun c _ => bareHost_not_refers c) hchain hset⟩

/-- Any number of rounds leaves an empty host empty. -/
lemma applyAll_rounds (h : s.Valid) (hplain : s.RedirectsPlainly)
    (hown : ∀ c ∈ s.ownChains, c ∉ sharedChains) (n : ℕ) :
    bareHost.applyAll isManagedName
      (rounds (s.operations .install) (s.operations .uninstall) n) = some bareHost := by
  induction n with
  | zero => rfl
  | succ n ih =>
    obtain ⟨g, hinstall, -, huninstall⟩ := applyAll_round h hplain hown
    rw [rounds_succ, Firewall.applyAll_append, Firewall.applyAll_append, hinstall,
      Option.bind_some, huninstall, Option.bind_some, ih]

end HostService

/-! ## All services -/

section All

variable {ι : Type} {service : ι → HostService}

/-- Hosts on which services with different names can be installed are suitable for the parties that
these services are. -/
lemma HostFor.suitable {base : Firewall} (hbase : HostFor service base)
    (hdistinct : Function.Injective fun i => (service i).chainName) :
    Suitable (fun i => (service i).ownChains) base where
  present := hbase.present
  absent := hbase.absent
  unreferred := hbase.unreferred
  managed _ := HostService.isManagedName_ownChains
  disjoint i j c hi hj := by
    apply hdistinct
    simp only [HostService.ownChains, HostService.chainIn, HostService.chainOut, List.mem_cons,
      List.not_mem_nil, or_false] at hi hj
    rcases hi with rfl | rfl
    · simpa using hj
    · simpa using hj

/-- Links that are counted as the installed services have them belong to these services. -/
lemma order_eq_installed {link : ι → String} (hinj : Function.Injective link) {order : List ι}
    {installed : Finset ι}
    (h : ((order.map link : List String) : Multiset String) =
      ∑ i ∈ installed, (([link i] : List String) : Multiset String)) :
    (order : Multiset ι) = installed.val := by
  -- A sum of singletons is the multiset of their elements.
  have hsum : ∑ i ∈ installed, (([link i] : List String) : Multiset String) =
      installed.val.map link := by
    have hsingle : ∑ i ∈ installed, (([link i] : List String) : Multiset String) =
        ((installed.val.map link).map fun rule => ({rule} : Multiset String)).sum := by
      rw [Multiset.map_map]
      rfl
    rw [hsingle, Multiset.sum_map_singleton]
  apply Multiset.map_injective hinj
  rw [Multiset.map_coe, h, hsum]

/-- Alone, each of these services is installed, and each other one is gone. -/
structure Settled (service : ι → HostService) (installed : Finset ι) (solo : ι → Firewall) :
    Prop where
  present : ∀ i ∈ installed, (solo i).chain? = (service i).installedOn bareHost.chain?
  gone : ∀ i ∉ installed, solo i = bareHost

variable [DecidableEq ι] {installed : Finset ι} {solo : ι → Firewall}

/-- The rules of a service that is installed alone, or gone, in a shared chain. -/
lemma Settled.part_eq (h : Settled service installed solo) {c : String} (hc : c ∈ sharedChains)
    (hown : ∀ i, ∀ d ∈ (service i).ownChains, d ∉ sharedChains) (i : ι) :
    part solo c i =
      if i ∈ installed then ((service i).headRules c : Multiset String) else 0 := by
  have hne : ∀ d ∈ (service i).ownChains, c ≠ d := by
    rintro d hd rfl
    exact hown i c hd hc
  by_cases hi : i ∈ installed
  · rw [if_pos hi, part, h.present i hi, HostService.installedOn,
      if_neg (hne _ (by simp [HostService.ownChains])),
      if_neg (hne _ (by simp [HostService.ownChains])), bareHost_chain?, if_pos hc]
    simp
  · rw [if_neg hi, part, h.gone i hi, bareHost_chain?, if_pos hc]
    rfl

/-- In an order that is meant each service alone goes through a part of its rounds, and fails
nowhere in them. -/
lemma exists_solo (hvalid : ∀ i, (service i).Valid) (hplain : ∀ i, (service i).RedirectsPlainly)
    (hown : ∀ i, ∀ c ∈ (service i).ownChains, c ∉ sharedChains) {ops : List (ι × Operation)}
    (hwf : ∀ e ∈ ops, e.2.WellFormed)
    (hint : Interleaves (fun i => (service i).transcript) (ops.map fun e => (e.1, e.2.command)))
    (i : ι) : ∃ g, bareHost.applyAll isManagedName (operationsOf i ops) = some g := by
  obtain ⟨n, hn⟩ := hint i
  have hprefix := hn.filterMap Command.operation?
  rw [filterMap_operation?_commandsOf hwf,
    HostService.filterMap_operation?_rounds (hvalid i)] at hprefix
  exact Firewall.applyAll_prefix hprefix
    (HostService.applyAll_rounds (hvalid i) (hplain i) (hown i) n)

/-- Where no transcript is under way, every service alone is either installed or gone. -/
lemma settled_of_atRest (hvalid : ∀ i, (service i).Valid)
    (hplain : ∀ i, (service i).RedirectsPlainly)
    (hown : ∀ i, ∀ c ∈ (service i).ownChains, c ∉ sharedChains) {ops : List (ι × Operation)}
    (hwf : ∀ e ∈ ops, e.2.WellFormed)
    (hsolo : ∀ i, bareHost.applyAll isManagedName (operationsOf i ops) = some (solo i))
    (hrest : AtRest (fun i => (service i).transcript) installed
      (ops.map fun e => (e.1, e.2.command))) :
    Settled service installed solo := by
  -- What a service has done after its whole rounds is all that it has done.
  have hlast : ∀ i, bareHost.applyAll isManagedName
      (if i ∈ installed then (service i).operations .install else []) = some (solo i) := by
    intro i
    obtain ⟨n, hn⟩ := hrest i
    have hread := congrArg (List.filterMap Command.operation?) hn
    rw [filterMap_operation?_commandsOf hwf, List.filterMap_append,
      HostService.filterMap_operation?_rounds (hvalid i), apply_ite (List.filterMap _),
      HostService.filterMap_operation?_transcript (hvalid i), List.filterMap_nil] at hread
    have hdone := hsolo i
    rw [hread, Firewall.applyAll_append,
      HostService.applyAll_rounds (hvalid i) (hplain i) (hown i), Option.bind_some] at hdone
    exact hdone
  constructor
  case present =>
    intro i hi
    obtain ⟨g, hg, hchain, -⟩ := HostService.applyAll_round (hvalid i) (hplain i) (hown i)
    have hdone := hlast i
    rw [if_pos hi, hg] at hdone
    rw [← Option.some.inj hdone, hchain]
  case gone =>
    intro i hi
    have hdone := hlast i
    rw [if_neg hi] at hdone
    exact (Option.some.inj hdone).symm

variable [Fintype ι] {base f : Firewall} {heads : String → List String}

/-- The rules at the head of a shared chain are those of the installed services. -/
lemma Settled.counted (h : Settled service installed solo)
    (hown : ∀ i, ∀ d ∈ (service i).ownChains, d ∉ sharedChains)
    (hshared : Shared (fun i => (service i).ownChains) base solo heads f) {c : String}
    (hc : c ∈ sharedChains) :
    (heads c : Multiset String) = ∑ i ∈ installed, ((service i).headRules c : Multiset String) := by
  rw [hshared.counted c hc]
  simp only [h.part_eq hc hown, Finset.sum_ite_mem, Finset.univ_inter]

/-- Where every service is gone, the host is what it was. -/
lemma Settled.restored (h : Settled service ∅ solo)
    (hs : Suitable (fun i => (service i).ownChains) base)
    (hshared : Shared (fun i => (service i).ownChains) base solo heads f) : f = base := by
  refine Firewall.ext_chain?_set? (funext fun c => ?_) hshared.sets
  -- Shared chains have nothing in front any more, own ones are gone, the rest was not touched.
  by_cases hc : c ∈ sharedChains
  · have hempty : heads c = [] := by
      rw [← Multiset.coe_eq_zero, h.counted (fun i d hd => hs.not_shared hd) hshared hc,
        Finset.sum_empty]
    rw [hshared.shared c hc, hempty]
    cases base.chain? c <;> rfl
  by_cases hi : ∃ i, c ∈ (service i).ownChains
  · obtain ⟨i, hi⟩ := hi
    rw [hshared.owned i c hi, h.gone i (Finset.notMem_empty i), bareHost_chain?, if_neg hc,
      hs.absent i c hi]
  · exact hshared.others c hc fun i hi' => hi ⟨i, hi'⟩

/-- What the host looks like where every service alone is either installed or gone. -/
lemma composition_of_shared {ops : List (ι × Operation)} (hvalid : ∀ i, (service i).Valid)
    (hdistinct : Function.Injective fun i => (service i).chainName)
    (hs : Suitable (fun i => (service i).ownChains) base)
    (hops : ∀ e ∈ ops, ∃ d, e.2 ∈ (service e.1).operations d)
    (hshared : Shared (fun i => (service i).ownChains) base solo (fun c => headsAfter c ops []) f)
    (hsettled : Settled service installed solo) :
    Composition service base installed (ops.map fun e => (e.1, e.2.command)) f := by
  have hin := headsAfter_ingress hvalid hdistinct hops
  have hout := headsAfter_egress hvalid hdistinct hops
  have hown : ∀ i, ∀ c ∈ (service i).ownChains, c ∉ sharedChains := fun i c hc => hs.not_shared hc
  have hcount : ∀ c ∈ sharedChains, (headsAfter c ops [] : Multiset String) =
      ∑ i ∈ installed, ((service i).headRules c : Multiset String) := fun c hc =>
    hsettled.counted hown hshared hc
  have hmemIn : ingress services ∈ sharedChains := by simp [sharedChains]
  have hmemOut : egress services ∈ sharedChains := by simp [sharedChains]
  have hmemForward : "FORWARD" ∈ sharedChains := by simp [sharedChains]
  have hmemPrerouting : "PREROUTING" ∈ sharedChains := by simp [sharedChains]
  have hchainIn : ∀ i, (service i).chainIn ∈ (service i).ownChains := fun i => by
    simp [HostService.ownChains]
  have hchainOut : ∀ i, (service i).chainOut ∈ (service i).ownChains := fun i => by
    simp [HostService.ownChains]
  constructor
  case linksIn => rw [hshared.shared _ hmemIn, hin]
  case linkedIn =>
    apply order_eq_installed (linkIn_injective hdistinct)
    rw [← hin, hcount _ hmemIn]
    rfl
  case linksOut => rw [hshared.shared _ hmemOut, hout]
  case linkedOut =>
    apply order_eq_installed (linkOut_injective hdistinct)
    rw [← hout, hcount _ hmemOut]
    rfl
  case forwards =>
    refine ⟨_, hshared.shared _ hmemForward, ?_⟩
    rw [hcount _ hmemForward]
    refine Finset.sum_congr rfl fun i _ => ?_
    have hheads : (service i).headRules "FORWARD" = (service i).forwards.reverse := rfl
    rw [hheads, Multiset.coe_reverse]
  case redirects =>
    refine ⟨_, hshared.shared _ hmemPrerouting, ?_⟩
    rw [hcount _ hmemPrerouting]
    refine Finset.sum_congr rfl fun i _ => ?_
    have hheads : (service i).headRules "PREROUTING" = (service i).redirects.reverse := rfl
    rw [hheads, Multiset.coe_reverse]
  case own =>
    intro i hi
    have hne : (service i).chainOut ≠ (service i).chainIn := egress_ne_ingress _ _
    rw [hshared.owned i _ (hchainIn i), hshared.owned i _ (hchainOut i), hsettled.present i hi]
    simp [HostService.installedOn, hne]
  case absent =>
    intro i hi
    rw [hshared.owned i _ (hchainIn i), hshared.owned i _ (hchainOut i), hsettled.gone i hi,
      bareHost_chain?, bareHost_chain?, if_neg (hown i _ (hchainIn i)),
      if_neg (hown i _ (hchainOut i))]
    exact ⟨rfl, rfl⟩
  case others => exact hshared.others
  case sets => exact hshared.sets
  case restored =>
    rintro rfl
    exact hsettled.restored hs hshared

/-- Services that redirect plainly, under different names, compose in whatever order their commands
come. -/
theorem composable_of_redirectsPlainly (hvalid : ∀ i, (service i).Valid)
    (hplain : ∀ i, (service i).RedirectsPlainly)
    (hdistinct : Function.Injective fun i => (service i).chainName) :
    Composable service fun i => (service i).transcript := by
  intro base hbase trace hint
  have hs := hbase.suitable hdistinct
  have hown : ∀ i, ∀ c ∈ (service i).ownChains, c ∉ sharedChains := fun i c hc => hs.not_shared hc
  obtain ⟨ops, rfl, hops⟩ := exists_operations hint.mem_transcript
  have hwf := HostService.wellFormed_of_mem_operations hvalid hops
  have hconf : ∀ e ∈ ops, Confined (service e.1).ownChains e.2 := by
    intro e he
    obtain ⟨d, hd⟩ := hops e he
    exact HostService.confined_operations (hvalid e.1) (hplain e.1) hd
  -- What each service can do alone, all of them can do in turn.
  choose solo hsolo using exists_solo hvalid hplain hown hwf hint
  obtain ⟨f, hf, hshared⟩ := Shared.applyAll hs hconf (Shared.start hs) hsolo
  refine ⟨f, ?_, fun installed hrest => ?_⟩
  · have hcommands : (ops.map fun e => (e.1, e.2.command)).map (·.2) =
        (ops.map (·.2)).map Operation.command := by
      rw [List.map_map, List.map_map]
      rfl
    rw [hcommands, Firewall.run_operations, hf]
    intro op hop
    obtain ⟨e, he, rfl⟩ := List.mem_map.mp hop
    exact hwf e he
  · exact composition_of_shared hvalid hdistinct hs hops hshared
      (settled_of_atRest hvalid hplain hown hwf hsolo hrest)

end All

end FirewallPolicy
