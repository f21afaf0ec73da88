import FirewallPolicy.Proofs.Jobs.Policies
import FirewallPolicy.Proofs.Policy.Lapses
import Mathlib.Tactic.Common

/-!
# The errors of compiling

Compiling a job gives a transcript or one of four documented errors, unless a numeral gets in the
way.

* `JobError.IsDocumented`, `Answers`: the documented errors, and results without any other one.
* `NoAnswer`: the inputs on which compiling ends with some other error.
* `compile_answers_iff`: there are no such inputs but these.
-/

namespace FirewallPolicy

/-- The errors that compiling a job may end with: no such job, no such direction, a violation in
the configuration, or a source that fails. -/
def JobError.IsDocumented : JobError → Prop
  | .notFound _ | .direction _ | .configuration (.violation _) | .source _ => True
  | _ => False

/-- A result that is a transcript or a documented error. -/
def Answers {α : Type} (result : Except JobError α) : Prop :=
  ∀ e, result = .error e → e.IsDocumented

section

variable {α β : Type}

lemma answers_ok (a : α) : Answers (.ok a) := fun _ h => nomatch h

@[simp] lemma answers_error_iff {e : JobError} :
    Answers (.error e : Except JobError α) ↔ e.IsDocumented := by
  constructor
  · exact fun h => h e rfl
  · intro h e' he
    cases he
    exact h

lemma answers_map_iff {result : Except JobError α} (f : α → β) :
    Answers (result.map f) ↔ Answers result := by
  cases result with
  | ok a => exact iff_of_true (answers_ok _) (answers_ok _)
  | error e => exact answers_error_iff.trans answers_error_iff.symm

end

/-! ## Configurations -/

section

variable {σ : Type} {job : Job σ} {d : Direction} {raw : Value} {globals : List NetworkItem}
  {read : Reading job.Config}

/-- Where the configuration is not read, there is an answer unless the reading lapses. -/
lemma Job.answers_iff_of_error {cause : ReadError} (world : σ)
    (hvalidate : job.validate raw globals = validateBy read) (hread : read = .error cause) :
    Answers (Workflow.run { job, direction := d } raw globals world).1.result ↔ ¬ Lapses read := by
  rw [Job.run_of_read_error world hvalidate hread, answers_error_iff, hread]
  cases cause with
  | violation v => exact iff_of_true trivial (not_lapses_refuse v.path v.fault)
  | numeral cause => exact iff_of_false id (not_not.mpr (lapses_error cause))

/-- A job of computing steps comes to an answer unless the reading of its configuration lapses. -/
lemma Job.answers_pure_iff {steps : List (PureStep job.Config)} (world : σ)
    (hvalidate : job.validate raw globals = validateBy read)
    (hsteps : job.steps d = steps.map fun s => Step.pure s.1 s.2) :
    Answers (Workflow.run { job, direction := d } raw globals world).1.result ↔ ¬ Lapses read := by
  cases hread : read with
  | error cause => exact hread ▸ Job.answers_iff_of_error world hvalidate hread
  | ok config =>
    rw [(Job.run_pure_iff hvalidate hsteps).mpr ⟨config, hread, rfl⟩]
    exact iff_of_true (answers_ok _) (not_lapses_ok _)

end

/-! ## Blacklists -/

namespace BlacklistSync

/-- A source that gives a list or fails as a source. -/
def Source.FailsAsSource {σ : Type} (source : Source σ) : Prop :=
  ∀ config world e, ((source config).run.run world).1 = .error e → ∃ cause, e = .source cause

/-- The first entry that is no network has a number in it that is too long to be shown. -/
def EntriesLapse (entries : List Value) : Prop :=
  ∃ before entry after, entries = before ++ entry :: after ∧
    (∀ earlier ∈ before, (Blacklist.network? earlier).isSome) ∧
    Blacklist.network? entry = none ∧ entry.isWritable = false

/-- Entries that are not read are blamed on the first of them that is no network. -/
lemma readNetworks_error_iff {entries : List Value} {cause : SourceError} :
    Blacklist.readNetworks entries = .error cause ↔
      ∃ before entry after, entries = before ++ entry :: after ∧
        (∀ earlier ∈ before, (Blacklist.network? earlier).isSome) ∧
        Blacklist.network? entry = none ∧ cause = .notNetwork entry := by
  induction entries with
  | nil => simp [Blacklist.readNetworks]
  | cons first rest ih =>
    cases hfirst : Blacklist.network? first with
    | none =>
      simp only [Blacklist.readNetworks, hfirst]
      constructor
      · intro h
        cases h
        exact ⟨[], first, rest, rfl, by simp, hfirst, rfl⟩
      · rintro ⟨before, entry, after, hentries, hbefore, -, rfl⟩
        cases before with
        | nil =>
          cases hentries
          rfl
        | cons earlier before =>
          cases hentries
          simp [hfirst] at hbefore
    | some n =>
      have htail : Blacklist.readNetworks (first :: rest) = .error cause ↔
          Blacklist.readNetworks rest = .error cause := by
        simp only [Blacklist.readNetworks, hfirst]
        cases Blacklist.readNetworks rest <;> simp [Except.map]
      rw [htail, ih]
      constructor
      · rintro ⟨before, entry, after, rfl, hbefore, hentry⟩
        exact ⟨first :: before, entry, after, rfl, by simpa [hfirst] using hbefore, hentry⟩
      · rintro ⟨before, entry, after, hentries, hbefore, hentry, rfl⟩
        cases before with
        | nil =>
          cases hentries
          rw [hfirst] at hentry
          cases hentry
        | cons earlier before =>
          cases hentries
          exact ⟨before, entry, after, rfl, (List.forall_mem_cons.mp hbefore).2, hentry, rfl⟩

/-- What is made of entries is an answer unless one of them cannot be shown. -/
lemma answers_contribution_iff {entries : List Value} :
    Answers (contribution entries) ↔ ¬ EntriesLapse entries := by
  have hlapse : EntriesLapse entries ↔
      ∃ entry, Blacklist.readNetworks entries = .error (.notNetwork entry) ∧
        entry.isWritable = false := by
    constructor
    · rintro ⟨before, entry, after, hentries, hbefore, hentry, hlong⟩
      have hread : Blacklist.readNetworks entries = .error (.notNetwork entry) :=
        readNetworks_error_iff.mpr ⟨before, entry, after, hentries, hbefore, hentry, rfl⟩
      exact ⟨entry, hread, hlong⟩
    · rintro ⟨entry, hread, hlong⟩
      obtain ⟨before, _, after, hentries, hbefore, hentry, heq⟩ := readNetworks_error_iff.mp hread
      cases heq
      exact ⟨before, entry, after, hentries, hbefore, hentry, hlong⟩
  rw [hlapse]
  cases hread : Blacklist.readNetworks entries with
  | ok networks =>
    rw [contribution, Blacklist.normalize, hread]
    exact iff_of_true (answers_ok _) (by simp)
  | error cause =>
    obtain ⟨-, entry, -, -, -, -, rfl⟩ := readNetworks_error_iff.mp hread
    rw [contribution, Blacklist.normalize, hread]
    simp only [Except.map, answers_error_iff, entryError]
    cases hlong : entry.isWritable with
    | true => simp [JobError.IsDocumented, hlong]
    | false => simp [JobError.IsDocumented, hlong]

/-- What the only step of the job gives is made of what the source returns. -/
lemma result_fetchNetworks {σ : Type} (source : Source σ) (config : BlacklistConfig) (world : σ) :
    (((fetchNetworks source).run config).run.run world).1 =
      ((source config).run.run world).1 >>= contribution := by
  rw [fetchNetworks, ExceptT.run_bind, StateT.run_bind]
  cases hasked : (source config).run.run world with
  | mk answer world' =>
    cases answer with
    | error e => rfl
    | ok entries =>
      simp only [Bind.bind]
      cases hk : contribution entries <;> simp [Except.bind, hk] <;> rfl

/-- The only step of the job answers unless an entry of the blacklist cannot be shown. -/
lemma answers_fetchNetworks_iff {σ : Type} {source : Source σ} (hsource : source.FailsAsSource)
    (config : BlacklistConfig) (world : σ) :
    Answers (((fetchNetworks source).run config).run.run world).1 ↔
      ¬ ∃ entries, ((source config).run.run world).1 = .ok entries ∧ EntriesLapse entries := by
  have hfails := hsource config world
  rw [result_fetchNetworks]
  cases hasked : ((source config).run.run world).1 with
  | error e =>
    obtain ⟨cause, rfl⟩ := hfails e hasked
    exact iff_of_true (answers_error_iff.mpr trivial) (by simp)
  | ok entries =>
    show Answers (contribution entries) ↔ _
    rw [answers_contribution_iff]
    simp

end BlacklistSync

/-! ## All jobs -/

/-- The inputs on which compiling a built-in job ends without an answer. -/
inductive NoAnswer {σ : Type} (source : BlacklistSync.Source σ) (world : σ) (name : String)
    (token raw : Value) : Prop
  /-- What names no direction has a number in it that is too long to be shown. -/
  | direction (hname : (Directory.builtin source).contains name = true)
      (hnone : Direction.ofToken? token = none) (hlong : token.isWritable = false)
  | service (hname : name = "engines/services/generic-service")
      (hsome : (Direction.ofToken? token).isSome) (h : ServiceLapses raw)
  | dns (hname : name = "services/docker-dns-service")
      (hsome : (Direction.ofToken? token).isSome) (h : DnsLapses raw)
  | blacklist (hname : name = "sync-blacklist-ips")
      (hsome : (Direction.ofToken? token).isSome) (h : BlacklistLapses raw)
  /-- The source gives an entry that is no network and cannot be shown. -/
  | entries {config : BlacklistConfig} {entries : List Value} (hname : name = "sync-blacklist-ips")
      (hsome : (Direction.ofToken? token).isSome) (hread : BlacklistConfig.read raw = .ok config)
      (hasked : ((source config).run.run world).1 = .ok entries)
      (h : BlacklistSync.EntriesLapse entries)

namespace Directory

section

variable {σ : Type} {source : BlacklistSync.Source σ} {token raw : Value} {globals : List NetworkItem}
  {world : σ} {d : Direction}

lemma answers_prepare (htoken : Direction.ofToken? token = some d) :
    Answers ((builtin source).compile "prepare-netfilter" token raw globals world).1.result := by
  rw [compile_result (find_prepare source) htoken,
    Job.answers_pure_iff world rfl (Prepare.job_steps_eq d)]
  exact not_lapses_prepare raw globals

lemma answers_service_iff (htoken : Direction.ofToken? token = some d) :
    Answers ((builtin source).compile "engines/services/generic-service" token raw globals
      world).1.result ↔ ¬ ServiceLapses raw := by
  let steps : List (PureStep ServiceConfig) := [("generateRules", Service.generateRules)]
  have hsteps : (Service.job σ).steps d = steps.map fun s => Step.pure s.1 s.2 := rfl
  rw [compile_result (find_service source) htoken, Job.answers_pure_iff world rfl hsteps]
  exact not_congr (lapses_service_iff raw)

lemma answers_dns_iff (htoken : Direction.ofToken? token = some d) :
    Answers ((builtin source).compile "services/docker-dns-service" token raw globals
      world).1.result ↔ ¬ DnsLapses raw := by
  let steps : List (PureStep DnsConfig) := [("generateRules", DnsForwarding.generateRules)]
  have hsteps : (DnsForwarding.job σ).steps d = steps.map fun s => Step.pure s.1 s.2 := rfl
  rw [compile_result (find_dns source) htoken, Job.answers_pure_iff world rfl hsteps]
  exact not_congr (lapses_dns_iff raw)

lemma answers_blacklist_iff (hsource : source.FailsAsSource)
    (htoken : Direction.ofToken? token = some d) :
    Answers ((builtin source).compile "sync-blacklist-ips" token raw globals world).1.result ↔
      ¬ BlacklistLapses raw ∧ ¬ ∃ config entries, BlacklistConfig.read raw = .ok config ∧
        ((source config).run.run world).1 = .ok entries ∧ BlacklistSync.EntriesLapse entries := by
  rw [compile_result (find_blacklist source) htoken, ← lapses_blacklist_iff]
  cases hread : BlacklistConfig.read raw with
  | error cause =>
    have hrun : Answers (Workflow.run { job := BlacklistSync.job source, direction := d } raw
        globals world).1.result ↔ ¬ Lapses (BlacklistConfig.read raw) :=
      Job.answers_iff_of_error world rfl hread
    rw [hrun, hread]
    exact (and_iff_left (by simp)).symm
  | ok config =>
    have hvalidate : (BlacklistSync.job source).validate raw globals = validateBy (.ok config) := by
      rw [← hread]
      rfl
    rw [Job.run_single world hvalidate rfl, answers_map_iff,
      BlacklistSync.answers_fetchNetworks_iff hsource, and_iff_right (not_lapses_ok config)]
    simp

end

end Directory

section

variable {σ : Type} {source : BlacklistSync.Source σ} {world : σ} {name : String}
  {token raw : Value}

/-- Where a direction is named, the configuration or the blacklist is what gets no answer. -/
lemma noAnswer_iff_of_isSome (hsome : (Direction.ofToken? token).isSome) :
    NoAnswer source world name token raw ↔
      (name = "engines/services/generic-service" ∧ ServiceLapses raw) ∨
      (name = "services/docker-dns-service" ∧ DnsLapses raw) ∨
      (name = "sync-blacklist-ips" ∧ (BlacklistLapses raw ∨
        ∃ config entries, BlacklistConfig.read raw = .ok config ∧
          ((source config).run.run world).1 = .ok entries ∧
          BlacklistSync.EntriesLapse entries)) := by
  constructor
  · rintro (⟨-, hnone, -⟩ | ⟨hname, -, h⟩ | ⟨hname, -, h⟩ | ⟨hname, -, h⟩ |
      ⟨hname, -, hread, hasked, h⟩)
    · rw [hnone] at hsome
      cases hsome
    · exact .inl ⟨hname, h⟩
    · exact .inr (.inl ⟨hname, h⟩)
    · exact .inr (.inr ⟨hname, .inl h⟩)
    · exact .inr (.inr ⟨hname, .inr ⟨_, _, hread, hasked, h⟩⟩)
  · rintro (⟨hname, h⟩ | ⟨hname, h⟩ | ⟨hname, h | ⟨_, _, hread, hasked, h⟩⟩)
    · exact .service hname hsome h
    · exact .dns hname hsome h
    · exact .blacklist hname hsome h
    · exact .entries hname hsome hread hasked h

/-- What names no direction gets no answer from a job if it cannot be shown. -/
lemma noAnswer_iff_of_none (hnone : Direction.ofToken? token = none) :
    NoAnswer source world name token raw ↔
      (Directory.builtin source).contains name = true ∧ token.isWritable = false := by
  constructor
  · rintro (⟨hname, -, hlong⟩ | ⟨-, hsome, -⟩ | ⟨-, hsome, -⟩ | ⟨-, hsome, -⟩ |
      ⟨-, hsome, -, -, -⟩)
    · exact ⟨hname, hlong⟩
    all_goals
      rw [hnone] at hsome
      cases hsome
  · exact fun ⟨hname, hlong⟩ => .direction hname hnone hlong

/-- There is no job but the four. -/
lemma Directory.contains_builtin_iff : (Directory.builtin source).contains name = true ↔
    name = "prepare-netfilter" ∨ name = "sync-blacklist-ips" ∨
      name = "services/docker-dns-service" ∨ name = "engines/services/generic-service" := by
  simp only [Directory.contains, Directory.builtin_eq, List.any_cons, List.any_nil, Bool.or_false,
    Bool.or_eq_true, beq_iff_eq, @eq_comm _ name]

/-- For a job that is missing there is an answer. -/
lemma answers_of_not_contains {globals : List NetworkItem}
    (hmissing : ¬ (Directory.builtin source).contains name = true) :
    Answers ((Directory.builtin source).compile name token raw globals world).1.result ∧
      ¬ NoAnswer source world name token raw := by
  have hfind : (Directory.builtin source).find name = .error (.notFound name) := by
    rw [Directory.contains, Bool.not_eq_true, List.any_eq_false] at hmissing
    rw [Directory.find, List.find?_eq_none.mpr hmissing]
  constructor
  · rw [Directory.compile, hfind]
    exact answers_error_iff.mpr trivial
  · have hnames := hmissing
    rw [Directory.contains_builtin_iff] at hnames
    rintro (⟨hname, -, -⟩ | ⟨hname, -, -⟩ | ⟨hname, -, -⟩ | ⟨hname, -, -⟩ | ⟨hname, -, -, -, -⟩)
    · exact hmissing hname
    all_goals simp [hname] at hnames

/-- Where no direction is named, there is an answer if what is named instead can be shown. -/
lemma answers_iff_of_no_direction {globals : List NetworkItem}
    (hname : (Directory.builtin source).contains name = true)
    (hnone : Direction.ofToken? token = none) :
    Answers ((Directory.builtin source).compile name token raw globals world).1.result ↔
      ¬ token.isWritable = false := by
  obtain ⟨job, hfind⟩ : ∃ job, (Directory.builtin source).find name = .ok job := by
    rw [Directory.contains_builtin_iff] at hname
    rcases hname with rfl | rfl | rfl | rfl
    · exact ⟨_, Directory.find_prepare source⟩
    · exact ⟨_, Directory.find_blacklist source⟩
    · exact ⟨_, Directory.find_dns source⟩
    · exact ⟨_, Directory.find_service source⟩
  simp only [Directory.compile, hfind, Workflow.make, hnone, answers_error_iff,
    Workflow.directionError]
  cases hlong : token.isWritable <;> simp [JobError.IsDocumented]

end

/-- A blacklist without entries. -/
def BlacklistSync.emptySource : BlacklistSync.Source Unit := fun _ => return []

/-- A document that opens a port, whatever stands for it. -/
def httpsDocument (port : Value) : Value :=
  .map [(.text "network", .map [(.text "items",
    .list [.map [(.text "portNumber", port), (.text "protocol", .text "tcp")]])])]

end FirewallPolicy
