import FirewallPolicy.Proofs.Policy.Lapses
import FirewallPolicy.Proofs.Policy.SharedNetworks

/-!
# Looking jobs up

A document is accepted whatever ids its hosts have and whatever names their jobs have.  A job is
looked up in the first host with the id, by the first job with the name; a job behind another with
the same id or name is never found.

* `Value.jobAt?`: the jobs of a document by their positions.
* `Configuration.hosts_eq`: the hosts of an accepted document are read as they stand there.
* `Configuration.IsShadowed`: jobs that stand behind others.
* `Configuration.find_first`: what is found, and when nothing is.
-/

namespace FirewallPolicy

/-! ## Jobs in a document -/

/-- The elements of a list under a key; none if there is no list. -/
def Value.elementsAt (value : Value) (key : String) : List Value :=
  match value.field? key with
  | some (.list items) => items
  | _ => []

/-- The text under a key without the blanks at its ends. -/
def Value.textAt (value : Value) (key : String) : String :=
  match value.field? key with
  | some (.text s) => Text.trim s
  | _ => ""

/-- The mapping under a key; empty if there is none. -/
def Value.mappingAt (value : Value) (key : String) : Scalar.Mapping :=
  match value.field? key with
  | some (.map entries) => entries
  | _ => []

/-- A job as it stands in a document. -/
def Value.jobEntry (value : Value) : JobEntry :=
  ⟨value.textAt "name", value.mappingAt "configuration"⟩

/-- The job at a position of the host at a position, with the id of the host. -/
def Value.jobAt? (document : Value) (i j : ℕ) : Option (String × JobEntry) :=
  (document.elementsAt "configurations")[i]?.bind fun host =>
    (host.elementsAt "jobs")[j]?.map fun job => (host.textAt "id", job.jobEntry)

section

variable {data entries : Scalar.Mapping} {items : List Value} {value : Value} {key path s : String}

lemma Field.required_list_ok (h : Field.required Scalar.list data key path = .ok items) :
    items = (Value.map data).elementsAt key := by
  obtain ⟨value, hvalue, hread⟩ := Field.present?_of_required h
  rw [Field.eq_list_of_list hread] at hvalue
  simp only [Value.elementsAt, Value.field?, hvalue]

lemma Field.required_text_ok (h : Field.required Scalar.text data key path = .ok s) :
    s = (Value.map data).textAt key := by
  obtain ⟨value, hvalue, hread⟩ := Field.present?_of_required h
  obtain ⟨t, rfl, rfl, -⟩ := Scalar.text_eq_ok_iff.mp hread
  simp only [Value.textAt, Value.field?, hvalue]

lemma Field.required_mapping_ok (h : Field.required Scalar.mapping data key path = .ok entries) :
    entries = (Value.map data).mappingAt key := by
  obtain ⟨value, hvalue, hread⟩ := Field.present?_of_required h
  rw [Field.eq_map_of_mapping hread] at hvalue
  simp only [Value.mappingAt, Value.field?, hvalue]

/-- What is read of a list is what its elements stand for. -/
lemma Field.elements_eq_map {α β : Type} {read : β → String → Reading α} {f : β → α}
    {items : List β} {xs : List α} (h : Field.elements read items path = .ok xs)
    (hread : ∀ value path x, read value path = .ok x → x = f value) : xs = items.map f := by
  have hmap : List.Forall₂ (fun value x => f value = x) items xs :=
    (Field.forall₂_of_elementsFrom h).imp fun _ _ ⟨_, hx⟩ => (hread _ _ _ hx).symm
  rw [← List.forall₂_map_left_iff, List.forall₂_eq_eq_eq] at hmap
  exact hmap.symm

/-- A job is read as it stands. -/
lemma JobEntry.eq_of_read {job : JobEntry} (h : JobEntry.read value path = .ok job) :
    job = value.jobEntry := by
  obtain ⟨data, hdata, h⟩ := exists_of_bind_eq_ok h
  obtain ⟨name, hname, h⟩ := exists_of_bind_eq_ok h
  obtain ⟨configuration, hconfiguration, h⟩ := exists_of_bind_eq_ok h
  cases h
  rw [Field.eq_map_of_mapping hdata, Value.jobEntry, ← Field.required_text_ok hname,
    ← Field.required_mapping_ok hconfiguration]

/-- A host is read as it stands. -/
lemma Host.eq_of_read {host : Host} (h : Host.read value path = .ok host) :
    host = ⟨value.textAt "id", (value.elementsAt "jobs").map Value.jobEntry⟩ := by
  obtain ⟨data, hdata, h⟩ := exists_of_bind_eq_ok h
  obtain ⟨items, hitems, h⟩ := exists_of_bind_eq_ok h
  obtain ⟨jobs, hjobs, h⟩ := exists_of_bind_eq_ok h
  obtain ⟨id, hid, h⟩ := exists_of_bind_eq_ok h
  cases h
  rw [Field.eq_map_of_mapping hdata, ← Field.required_text_ok hid,
    ← Field.required_list_ok hitems, Field.elements_eq_map hjobs fun _ _ _ => JobEntry.eq_of_read]

end

/-! ## First of their key -/

section

variable {α : Type} {key : α → String} {l : List α} {k : String} {a : α} {i i' : ℕ}

/-- No element in front of a position has the key of the one that stands there. -/
def IsNewAt (key : α → String) (l : List α) (i : ℕ) : Prop :=
  ∀ i' < i, l[i']?.map key ≠ l[i]?.map key

/-- What is found by its key stands at a position where the key is new. -/
lemma find?_key_eq_some_iff :
    l.find? (key · == k) = some a ↔ ∃ i : ℕ, l[i]? = some a ∧ key a = k ∧ IsNewAt key l i := by
  have hmap : ∀ {i} (hi : i < l.length), l[i]?.map key = some (key l[i]) := fun hi => by
    rw [List.getElem?_eq_getElem hi, Option.map_some]
  rw [List.find?_eq_some_iff_getElem]
  constructor
  · rintro ⟨hkey, i, hi, rfl, hbefore⟩
    rw [beq_iff_eq] at hkey
    refine ⟨i, List.getElem?_eq_getElem hi, hkey, fun i' hi' hsame => ?_⟩
    have hne : key l[i'] ≠ k := by simpa using hbefore i' hi'
    rw [hmap hi, hmap (Nat.lt_trans hi' hi), Option.some.injEq] at hsame
    exact hne (hsame.trans hkey)
  · rintro ⟨i, ha, hkey, hnew⟩
    obtain ⟨hi, rfl⟩ := List.getElem?_eq_some_iff.mp ha
    refine ⟨beq_iff_eq.mpr hkey, i, hi, rfl, fun i' hi' => ?_⟩
    have hne := hnew i' hi'
    rw [hmap hi, hmap (Nat.lt_trans hi' hi), Ne, Option.some.injEq, hkey] at hne
    simpa using hne

/-- A key is new at one position only. -/
lemma IsNewAt.position_eq (hi : IsNewAt key l i) (hi' : IsNewAt key l i')
    (h : l[i]?.map key = l[i']?.map key) : i = i' := by
  rcases Nat.lt_trichotomy i i' with hlt | heq | hgt
  · exact absurd h (hi' i hlt)
  · exact heq
  · exact absurd h.symm (hi i' hgt)

/-- Where no two keys are the same, all are new. -/
lemma isNewAt_of_nodup (h : (l.map key).Nodup) (ha : l[i]? = some a) : IsNewAt key l i := by
  intro i' hi' hsame
  obtain ⟨hi, -⟩ := List.getElem?_eq_some_iff.mp ha
  have hlt : i' < (l.map key).length := by
    rw [List.length_map]
    exact Nat.lt_trans hi' hi
  rw [← List.getElem?_map, ← List.getElem?_map] at hsame
  exact absurd ((List.getElem?_inj hlt h).mp hsame) (Nat.ne_of_lt hi')

end

/-! ## Jobs in a configuration -/

namespace Configuration

variable {c : Configuration} {document : Value} {id name : String} {job : JobEntry} {i j : ℕ}

/-- The hosts of an accepted document are read as they stand there. -/
theorem hosts_eq (h : Configuration.read document = .ok c) :
    c.hosts = (document.elementsAt "configurations").map fun host =>
      ⟨host.textAt "id", (host.elementsAt "jobs").map Value.jobEntry⟩ := by
  obtain ⟨data, -, -, -, items, rfl, -, -, -, hitems, hhosts, -⟩ := exists_of_read h
  rw [← Field.required_list_ok hitems]
  exact Field.elements_eq_map hhosts fun _ _ _ => Host.eq_of_read

/-- The job at a position of the host at a position, with the id of the host. -/
def jobAt? (c : Configuration) (i j : ℕ) : Option (String × JobEntry) :=
  c.hosts[i]?.bind fun host => host.jobs[j]?.map fun job => (host.id, job)

/-- A job stands behind a host with the id of its own, or behind a job of its host with its name. -/
def IsShadowed (c : Configuration) (i j : ℕ) : Prop :=
  (∃ i' < i, c.hosts[i']?.map Host.id = c.hosts[i]?.map Host.id) ∨
    ∃ j' < j, (c.jobAt? i j').map (·.2.name) = (c.jobAt? i j).map (·.2.name)

/-- The jobs of an accepted document are at the positions where they stand there. -/
lemma jobAt?_eq (h : Configuration.read document = .ok c) (i j : ℕ) :
    c.jobAt? i j = document.jobAt? i j := by
  unfold jobAt? Value.jobAt?
  rw [hosts_eq h, List.getElem?_map, Option.bind_map]
  simp only [Function.comp_def, List.getElem?_map, Option.map_map]

lemma jobAt?_eq_some_iff : c.jobAt? i j = some (id, job) ↔
    ∃ host, c.hosts[i]? = some host ∧ host.jobs[j]? = some job ∧ host.id = id := by
  simp [jobAt?, Option.bind_eq_some_iff]

lemma not_isShadowed_iff {host : Host} (h : c.hosts[i]? = some host) : ¬ c.IsShadowed i j ↔
    IsNewAt Host.id c.hosts i ∧ IsNewAt JobEntry.name host.jobs j := by
  have hname : ∀ j, (c.jobAt? i j).map (·.2.name) = host.jobs[j]?.map JobEntry.name := by
    intro j
    rw [jobAt?, h, Option.bind_some, Option.map_map]
    rfl
  unfold IsShadowed IsNewAt
  simp only [hname, not_or, not_exists, not_and, ne_eq]

/-- A job is found exactly if it stands behind no other. -/
theorem find_eq_ok_iff : c.find id name = .ok job ↔
    ∃ i j, c.jobAt? i j = some (id, job) ∧ job.name = name ∧ ¬ c.IsShadowed i j := by
  have hfind : c.find id name = .ok job ↔ ∃ host, c.hosts.find? (Host.id · == id) = some host ∧
      host.jobs.find? (JobEntry.name · == name) = some job := by
    unfold find
    cases c.hosts.find? (·.id == id) with
    | none => simp
    | some host => cases hjob : host.jobs.find? (·.name == name) <;> simp [hjob]
  simp only [hfind, find?_key_eq_some_iff, jobAt?_eq_some_iff]
  constructor
  · rintro ⟨host, ⟨i, hi, rfl, hhost⟩, j, hj, rfl, hjob⟩
    exact ⟨i, j, ⟨host, hi, hj, rfl⟩, rfl, (not_isShadowed_iff hi).mpr ⟨hhost, hjob⟩⟩
  · rintro ⟨i, j, ⟨host, hi, hj, rfl⟩, rfl, hshadowed⟩
    obtain ⟨hhost, hjob⟩ := (not_isShadowed_iff hi).mp hshadowed
    exact ⟨host, ⟨i, hi, rfl, hhost⟩, j, hj, rfl, hjob⟩

/-- Jobs of one id and name that stand behind no other are the same. -/
lemma position_eq {i' j' : ℕ} {job' : JobEntry} (h : c.jobAt? i j = some (id, job))
    (h' : c.jobAt? i' j' = some (id, job')) (hname : job.name = job'.name)
    (hfree : ¬ c.IsShadowed i j) (hfree' : ¬ c.IsShadowed i' j') : i = i' ∧ j = j' := by
  obtain ⟨host, hi, hj, rfl⟩ := jobAt?_eq_some_iff.mp h
  obtain ⟨host', hi', hj', hid⟩ := jobAt?_eq_some_iff.mp h'
  rw [not_isShadowed_iff hi] at hfree
  rw [not_isShadowed_iff hi'] at hfree'
  obtain rfl : i = i' := hfree.1.position_eq hfree'.1 (by rw [hi, hi', Option.map_some,
    Option.map_some, hid])
  rw [hi, Option.some.injEq] at hi'
  rw [← hi'] at hj' hfree'
  exact ⟨rfl, hfree.2.position_eq hfree'.2
    (by rw [hj, hj', Option.map_some, Option.map_some, hname])⟩

/-- Where no two hosts have one id, and no two jobs of a host have one name, no job stands behind
another. -/
lemma not_isShadowed_of_nodup (hids : (c.hosts.map Host.id).Nodup)
    (hnames : ∀ host ∈ c.hosts, (host.jobs.map JobEntry.name).Nodup)
    (h : c.jobAt? i j = some (id, job)) : ¬ c.IsShadowed i j := by
  obtain ⟨host, hi, hj, -⟩ := jobAt?_eq_some_iff.mp h
  rw [not_isShadowed_iff hi]
  exact ⟨isNewAt_of_nodup hids hi, isNewAt_of_nodup (hnames host (List.mem_of_getElem? hi)) hj⟩

/-- The error for a job that is not found names the id if no host has it, and else the name. -/
lemma find_error {e : LookupError} (h : c.find id name = .error e) :
    e = if id ∈ c.hosts.map Host.id then .job name id else .host id := by
  unfold find at h
  split at h
  · rename_i hnone
    cases h
    rw [List.find?_eq_none] at hnone
    rw [if_neg]
    simpa using hnone
  · rename_i host hhost
    have hid : id ∈ c.hosts.map Host.id :=
      List.mem_map.mpr ⟨host, List.mem_of_find?_eq_some hhost, by simpa using List.find?_some hhost⟩
    split at h
    · cases h
      rw [if_pos hid]
    · cases h

/-- The jobs of an accepted document are where they stand there.  A job is found by the id of its
host and its name if it stands behind no other, and there is only one such job for an id and a name.
Otherwise there is an error, which names the id if no host has it, and else the name.  Where no two
hosts have one id, and no two jobs of a host have one name, every job is found, and there is an
error exactly for the ids and names that no job has. -/
theorem find_first (h : Configuration.read document = .ok c) :
    (∀ i j, c.jobAt? i j = document.jobAt? i j) ∧
    (∀ id name job, c.find id name = .ok job ↔
      ∃ i j, c.jobAt? i j = some (id, job) ∧ job.name = name ∧ ¬ c.IsShadowed i j) ∧
    (∀ id i j i' j' job job', c.jobAt? i j = some (id, job) → c.jobAt? i' j' = some (id, job') →
      job.name = job'.name → ¬ c.IsShadowed i j → ¬ c.IsShadowed i' j' → i = i' ∧ j = j') ∧
    (∀ id name, (∃ e, c.find id name = .error e) ↔
      ∀ i j job, c.jobAt? i j = some (id, job) → job.name = name → c.IsShadowed i j) ∧
    (∀ id name e, c.find id name = .error e →
      e = if id ∈ c.hosts.map Host.id then .job name id else .host id) ∧
    ((c.hosts.map Host.id).Nodup → (∀ host ∈ c.hosts, (host.jobs.map JobEntry.name).Nodup) →
      (∀ i j id job, c.jobAt? i j = some (id, job) → c.find id job.name = .ok job) ∧
      ∀ id name, (∃ e, c.find id name = .error e) ↔
        ∀ i j job, c.jobAt? i j = some (id, job) → job.name ≠ name) := by
  have herror : ∀ id name, (∃ e, c.find id name = .error e) ↔
      ∀ i j job, c.jobAt? i j = some (id, job) → job.name = name → c.IsShadowed i j := by
    intro id name
    have hnot : (∃ e, c.find id name = .error e) ↔ ¬ ∃ job, c.find id name = .ok job := by
      cases c.find id name <;> simp
    rw [hnot]
    simp only [find_eq_ok_iff]
    constructor
    · intro hnone i j job hentry hname
      by_contra hfree
      exact hnone ⟨job, i, j, hentry, hname, hfree⟩
    · rintro hall ⟨job, i, j, hentry, hname, hfree⟩
      exact hfree (hall i j job hentry hname)
  refine ⟨jobAt?_eq h, fun _ _ _ => find_eq_ok_iff, fun _ _ _ _ _ _ _ => position_eq, herror,
    fun _ _ _ => find_error, fun hids hnames => ⟨fun i j id job hentry => ?_, fun id name => ?_⟩⟩
  · exact find_eq_ok_iff.mpr
      ⟨i, j, hentry, rfl, not_isShadowed_of_nodup hids hnames hentry⟩
  · rw [herror]
    exact forall₄_congr fun i j job hentry =>
      ⟨fun hall hname => not_isShadowed_of_nodup hids hnames hentry (hall hname),
        fun hne hname => absurd hname hne⟩

/-- A document of two hosts, each with a job of the same name. -/
def plainDocument : Value :=
  .map [(.text "version", .text "1"), (.text "fileVersion", .text "2"),
    (.text "configurations", .list [
      .map [(.text "id", .text "host-a"), (.text "jobs", .list [
        .map [(.text "name", .text "dns"), (.text "configuration", .map [])],
        .map [(.text "name", .text "prepare"), (.text "configuration", .map [])]])],
      .map [(.text "id", .text "host-b"), (.text "jobs", .list [
        .map [(.text "name", .text " dns"),
          (.text "configuration", .map [(.text "chainName", .text "second")])]])]])]

/-- The configuration of this document. -/
def plainConfiguration : Configuration where
  version := "1"
  fileVersion := "2"
  globalTrusted := []
  hosts := [⟨"host-a", [⟨"dns", []⟩, ⟨"prepare", []⟩]⟩,
    ⟨"host-b", [⟨"dns", [(.text "chainName", .text "second")]⟩]⟩]

/-- Each host has its own job of this name. -/
theorem plainDocument_found :
    Configuration.read plainDocument = .ok plainConfiguration ∧
    plainConfiguration.find "host-a" "dns" = .ok ⟨"dns", []⟩ ∧
    plainConfiguration.find "host-b" "dns" =
      .ok ⟨"dns", [(.text "chainName", .text "second")]⟩ := by
  have hread : Configuration.read plainDocument = .ok plainConfiguration := rfl
  have hids : (plainConfiguration.hosts.map Host.id).Nodup := by decide
  have hnames : ∀ host ∈ plainConfiguration.hosts, (host.jobs.map JobEntry.name).Nodup := by
    simp [plainConfiguration]
  obtain ⟨hfound, -⟩ := (find_first hread).2.2.2.2.2 hids hnames
  exact ⟨hread, hfound 0 0 _ _ rfl, hfound 1 0 _ _ rfl⟩

/-- A document of two hosts of one id, as blanks at its ends make no difference, the first of which
has two jobs of one name. -/
def crowdedDocument : Value :=
  .map [(.text "version", .text "1"), (.text "fileVersion", .text "2"),
    (.text "configurations", .list [
      .map [(.text "id", .text "host-a"), (.text "jobs", .list [
        .map [(.text "name", .text "dns"), (.text "configuration", .map [])],
        .map [(.text "name", .text " dns"),
          (.text "configuration", .map [(.text "chainName", .text "second")])]])],
      .map [(.text "id", .text " host-a "), (.text "jobs", .list [
        .map [(.text "name", .text "prepare"), (.text "configuration", .map [])]])]])]

/-- The configuration of this document. -/
def crowdedConfiguration : Configuration where
  version := "1"
  fileVersion := "2"
  globalTrusted := []
  hosts := [⟨"host-a", [⟨"dns", []⟩, ⟨"dns", [(.text "chainName", .text "second")]⟩]⟩,
    ⟨"host-a", [⟨"prepare", []⟩]⟩]

/-- The second job of the first host gives way to the first, and that of the second host is not
found at all. -/
theorem crowdedDocument_hides_jobs :
    Configuration.read crowdedDocument = .ok crowdedConfiguration ∧
    crowdedDocument.jobAt? 0 1 = some ("host-a", ⟨"dns", [(.text "chainName", .text "second")]⟩) ∧
    crowdedConfiguration.find "host-a" "dns" = .ok ⟨"dns", []⟩ ∧
    crowdedDocument.jobAt? 1 0 = some ("host-a", ⟨"prepare", []⟩) ∧
    crowdedConfiguration.find "host-a" "prepare" = .error (.job "prepare" "host-a") ∧
    ¬ ∀ document c, Configuration.read document = .ok c → ∀ i j id job,
      document.jobAt? i j = some (id, job) → c.find id job.name = .ok job := by
  have hread : Configuration.read crowdedDocument = .ok crowdedConfiguration := rfl
  have hentry : crowdedDocument.jobAt? 1 0 = some ("host-a", ⟨"prepare", []⟩) := rfl
  refine ⟨hread, rfl, rfl, hentry, rfl, fun hall => ?_⟩
  have hfound := hall crowdedDocument crowdedConfiguration hread 1 0 _ _ hentry
  cases hfound

end Configuration

end FirewallPolicy
