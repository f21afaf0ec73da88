import FirewallPolicy.Proofs.Services.Session

/-!
# Installing services one after the other

Services that are installed in a row, each on the host that the ones before it have left.

* `Serving`: how a host looks that serves them, next to the state in which it was before.
* `Serving.cons`: a service more in front of the row.
* `applyAll_installs`: installing all of them, by induction on the row.
-/

namespace FirewallPolicy.HostService

open FirewallPolicy.ChainName

/-- The rules at the head of a shared chain, where the services were installed in this order. -/
def headsOf (services : List HostService) (c : String) : List String :=
  services.reverse.flatMap (·.headRules c)

/-- How a host looks that was in the state `f` when the services were installed. -/
structure Serving (services : List HostService) (f g : Firewall) : Prop where
  inChains : ∀ s ∈ services, g.chain? s.chainIn = some s.inRules
  outChains : ∀ s ∈ services, g.chain? s.chainOut = some [Rule.leave.text]
  otherChains : ∀ c, (∀ s ∈ services, c ∉ s.ownChains) →
    g.chain? c = (f.chain? c).map (headsOf services c ++ ·)
  sets : g.set? = f.set?

/-- A host on which services can be installed in a row: the chains that they need are there, their
own ones are not, and no two services would make the same chain. -/
structure Awaiting (services : List HostService) (f : Firewall) : Prop where
  needs : ∀ s ∈ services, ∀ c ∈ s.needs, (f.chain? c).isSome
  absent : ∀ s ∈ services, ∀ c ∈ s.ownChains, f.chain? c = none
  distinct : (services.map chainName).Nodup

variable {s : HostService} {services : List HostService} {f f' g : Firewall}

lemma headsOf_cons (c : String) :
    headsOf (s :: services) c = headsOf services c ++ s.headRules c := by
  rw [headsOf, headsOf, List.reverse_cons, List.flatMap_append, List.flatMap_singleton]

/-- Services put nothing at the head of the chains that are not shared. -/
lemma headsOf_of_notMem {c : String} (hc : c ∉ sharedChains) : headsOf services c = [] := by
  rw [headsOf, List.flatMap_eq_nil_iff]
  exact fun s _ => headRules_of_notMem hc

/-- Services link themselves into the incoming chain for services, the newest one first. -/
lemma headsOf_ingress :
    headsOf services (ingress ChainName.services) = (services.map linkIn).reverse := by
  have hhead : ∀ s : HostService, s.headRules (ingress ChainName.services) = [s.linkIn] :=
    fun s => if_pos rfl
  rw [headsOf, ← List.map_reverse]
  simp only [hhead]
  exact List.flatMap_pure_eq_map linkIn _

/-- Two services of different names have no chain in common. -/
lemma notMem_ownChains {s' : HostService} (h : s.chainName ≠ s'.chainName) :
    ∀ c ∈ s.ownChains, c ∉ s'.ownChains := by
  intro c hc
  simp only [ownChains, List.mem_cons, List.not_mem_nil, or_false] at hc ⊢
  rcases hc with rfl | rfl
  · simp [chainIn, chainOut, h]
  · simp [chainIn, chainOut, h]

/-- What a service leaves of a chain that is none of its own. -/
lemma installedOn_of_notMem {before : String → Option (List String)} {c : String}
    (hc : c ∉ s.ownChains) : s.installedOn before c = (before c).map (s.headRules c ++ ·) := by
  simp only [ownChains, List.mem_cons, List.not_mem_nil, or_false, not_or] at hc
  rw [installedOn, if_neg hc.1, if_neg hc.2]

/-- The first service of a row has another name than those after it. -/
lemma Awaiting.chainName_ne (h : Awaiting (s :: services) f) :
    ∀ s' ∈ services, s.chainName ≠ s'.chainName := by
  intro s' hs' heq
  have hnodup := h.distinct
  rw [List.map_cons, List.nodup_cons] at hnodup
  exact hnodup.1 (heq ▸ List.mem_map_of_mem hs')

/-- Once the first service of a row is installed, the others can be. -/
lemma Awaiting.tail (h : Awaiting (s :: services) f)
    (hf' : f'.chain? = s.installedOn f.chain?) : Awaiting services f' where
  needs := by
    intro s' hs' c hc
    have hsome := h.needs s' (List.mem_cons_of_mem _ hs') c hc
    rw [hf', installedOn]
    split
    · rfl
    · split
      · rfl
      · rwa [Option.isSome_map]
  absent := by
    intro s' hs' c hc
    -- The chains of another service are none of the first one, which adds to chains that are there.
    have hne : s'.chainName ≠ s.chainName := (h.chainName_ne s' hs').symm
    rw [hf', installedOn_of_notMem (notMem_ownChains hne c hc),
      h.absent s' (List.mem_cons_of_mem _ hs') c hc, Option.map_none]
  distinct := by
    have hnodup := h.distinct
    rw [List.map_cons, List.nodup_cons] at hnodup
    exact hnodup.2

/-- A host that serves the rest of a row serves the whole of it. -/
lemma Serving.cons (h : Awaiting (s :: services) f) (hf' : f'.chain? = s.installedOn f.chain?)
    (hsets : f'.set? = f.set?) (hg : Serving services f' g) : Serving (s :: services) f g := by
  -- The chains of the first service are none of the others', and nothing is put at their heads.
  have hfirst : ∀ c ∈ s.ownChains, g.chain? c = f'.chain? c := by
    intro c hc
    have habsent : f.chain? c = none := h.absent s List.mem_cons_self c hc
    have hshared : ∀ d ∈ s.needs, c ≠ d := fun d hd =>
      (Firewall.ne_of_chain?_eq_none habsent (h.needs s List.mem_cons_self d hd)).symm
    have hother : ∀ s' ∈ services, c ∉ s'.ownChains :=
      fun s' hs' => notMem_ownChains (h.chainName_ne s' hs') c hc
    have hunshared : c ∉ sharedChains := notMem_sharedChains (isManagedName_ownChains c hc)
      (hshared _ ingress_mem_needs) (hshared _ egress_mem_needs)
    rw [hg.otherChains c hother, headsOf_of_notMem hunshared]
    cases f'.chain? c <;> rfl
  constructor
  case inChains =>
    refine List.forall_mem_cons.mpr ⟨?_, hg.inChains⟩
    rw [hfirst _ (by simp [ownChains]), hf', installedOn, if_pos rfl]
  case outChains =>
    refine List.forall_mem_cons.mpr ⟨?_, hg.outChains⟩
    have hne : s.chainOut ≠ s.chainIn := egress_ne_ingress _ _
    rw [hfirst _ (by simp [ownChains]), hf', installedOn, if_neg hne, if_pos rfl]
  case otherChains =>
    intro c hc
    rw [List.forall_mem_cons] at hc
    rw [hg.otherChains c hc.2, hf', installedOn_of_notMem hc.1, Option.map_map, headsOf_cons]
    refine congrArg (fun k => (f.chain? c).map k) (funext fun rules => ?_)
    rw [Function.comp_apply, List.append_assoc]
  case sets => rw [hg.sets, hsets]

/-- Installing services in a row fails nowhere. -/
theorem applyAll_installs (hvalid : ∀ s ∈ services, s.Valid)
    (hplain : ∀ s ∈ services, s.RedirectsPlainly) (h : Awaiting services f) :
    ∃ g, f.applyAll isManagedName (services.flatMap (·.operations .install)) = some g ∧
      Serving services f g := by
  induction services generalizing f with
  | nil =>
    refine ⟨f, rfl, by simp, by simp, fun c _ => ?_, rfl⟩
    cases f.chain? c <;> rfl
  | cons s services ih =>
    rw [List.forall_mem_cons] at hvalid hplain
    -- The first service is installed, and `ih` is about the state that it leaves.
    have habsent := h.absent s List.mem_cons_self
    obtain ⟨f', hinstall, hchains, hsets⟩ := applyAll_install hvalid.1 hplain.1
      (habsent _ (by simp [ownChains])) (habsent _ (by simp [ownChains]))
      (h.needs s List.mem_cons_self)
    obtain ⟨g, hrest, hserving⟩ := ih hvalid.2 hplain.2 (h.tail hchains)
    refine ⟨g, ?_, hserving.cons h hchains hsets⟩
    rw [List.flatMap_cons, Firewall.applyAll_append, hinstall, Option.bind_some, hrest]

end FirewallPolicy.HostService
