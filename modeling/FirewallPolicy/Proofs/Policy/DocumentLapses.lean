import FirewallPolicy.Proofs.Policy.Lapses
import Mathlib.Tactic.Common

/-!
# Documents that end without a verdict

The reader of configuration documents comes to a verdict unless a version is a number that is too
long to be written.

* `VersionLapses`, `DocumentLapses`: the documents that are neither read nor refused.
* `lapses_configuration_iff`: there are no others.
-/

namespace FirewallPolicy

open FirewallPolicy.Scalar (Mapping)

/-! ## Hosts and versions -/

lemma not_lapses_job (value : Value) (path : String) : ¬ Lapses (JobEntry.read value path) := by
  refine not_lapses_bind Scalar.not_lapses_mapping fun _ => ?_
  refine not_lapses_bind (Field.not_lapses_required fun _ _ => Scalar.not_lapses_text) fun _ => ?_
  exact not_lapses_bind (Field.not_lapses_required fun _ _ => Scalar.not_lapses_mapping)
    fun _ => not_lapses_ok _

lemma not_lapses_host (value : Value) (path : String) : ¬ Lapses (Host.read value path) := by
  refine not_lapses_bind Scalar.not_lapses_mapping fun _ => ?_
  refine not_lapses_bind (Field.not_lapses_required fun _ _ => Scalar.not_lapses_list) fun _ => ?_
  refine not_lapses_bind (Field.not_lapses_elementsFrom not_lapses_job 0 _) fun _ => ?_
  exact not_lapses_bind (Field.not_lapses_required fun _ _ => Scalar.not_lapses_text)
    fun _ => not_lapses_ok _

/-- A version that is a number too long to be written. -/
def VersionLapses (data : Mapping) (key : String) : Prop :=
  ∃ n, Field.present? data key = some (.int n) ∧ Text.isWritable n = false

lemma Scalar.lapses_version_iff {value : Value} {path : String} :
    Lapses (Scalar.version value path) ↔ ∃ n, value = .int n ∧ Text.isWritable n = false := by
  cases value with
  | int n =>
    simp only [Scalar.version, Text.writeInt]
    split_ifs with h
    · exact iff_of_false (not_lapses_ok _) (by simp [h])
    · exact iff_of_true (lapses_error _) ⟨n, rfl, Bool.eq_false_iff.mpr h⟩
  | float x => exact iff_of_false (not_lapses_ok _) (by simp)
  | _ =>
    refine iff_of_false ?_ (by simp)
    unfold Scalar.version
    exact Scalar.not_lapses_text

lemma lapses_requiredVersion_iff {data : Mapping} {key : String} :
    Lapses (Field.required Scalar.version data key "") ↔ VersionLapses data key := by
  rw [Field.lapses_required_iff, VersionLapses]
  simp only [Scalar.lapses_version_iff]
  constructor
  · rintro ⟨_, hpresent, n, rfl, hn⟩
    exact ⟨n, hpresent, hn⟩
  · rintro ⟨n, hpresent, hn⟩
    exact ⟨_, hpresent, n, rfl, hn⟩

/-! ## The parts of a document in the order in which they are read -/

/-- The field of a document that leads to the networks that all hosts trust, whose list is taken
before it is looked into. -/
def trustedField : SchemaField Schema :=
  .optional "global" (.record [.optional "network" (.record
    [.optional "trustedItems" (.list .unchecked)])])

/-- Takes the list of the networks that all hosts trust. -/
def takeTrusted (data : Mapping) : Reading (List Value) := do
  let global ← Field.withDefault [] Scalar.mapping data "global" ""
  let network ← Field.withDefault [] Scalar.mapping global "network" "global"
  Field.withDefault [] Scalar.list network "trustedItems" "global.network"

lemma judges_takeTrusted (data : Mapping) :
    Judges (takeTrusted data) [] (FieldViolates data trustedField) := by
  have hall : Judges (takeTrusted data) [] (Violates (.record [trustedField]) (.map data)) := by
    refine .bindField (Field.judges_withDefault [] Scalar.readsAs_mapping []) (.head _)
      Schema.weaker_record fun global hglobal _ => ?_
    have hglobal : StandsFor data trustedField (.map global) :=
      Field.standsFor_defaultMapping hglobal (by simp [SchemaField.optional])
    refine .bindPart [] (Field.judges_withDefault [.key "global"] Scalar.readsAs_mapping [])
      (.head _) hglobal (fun _ _ h => h.violates (.head _) Schema.weaker_record)
      fun network hnetwork _ => ?_
    have hnetwork : StandsFor global (.optional "network" (.record
        [.optional "trustedItems" (.list .unchecked)])) (.map network) :=
      Field.standsFor_defaultMapping hnetwork (by simp [SchemaField.optional])
    rw [← bind_pure (Field.withDefault [] Scalar.list network "trustedItems" "global.network")]
    refine .bindPart [.key "network"] (Field.judges_withDefault [.key "global", .key "network"]
      Scalar.readsAs_list []) (.head _) hglobal (fun _ _ h => hnetwork.violates (.head _)
        (h.violates (.head _) Schema.weaker_rfl)) fun trusted _ htrusted => .ok _ ?_
    have hnetworkClean : Clean (Violates (.record [.optional "trustedItems" (.list .unchecked)])
        (.map network)) := clean_record (List.forall_mem_singleton.mpr htrusted)
    have hglobalClean : Clean (Violates (.record [.optional "network" (.record
        [.optional "trustedItems" (.list .unchecked)])]) (.map global)) :=
      clean_record (List.forall_mem_singleton.mpr (clean_field hnetwork hnetworkClean))
    exact clean_record (List.forall_mem_singleton.mpr (clean_field hglobal hglobalClean))
  exact hall.congr fun rest refusal => by simp [violates_record_iff]

lemma not_lapses_takeTrusted (data : Mapping) : ¬ Lapses (takeTrusted data) := by
  refine not_lapses_bind (Field.not_lapses_withDefault fun _ _ => Scalar.not_lapses_mapping)
    fun _ => ?_
  refine not_lapses_bind (Field.not_lapses_withDefault fun _ _ => Scalar.not_lapses_mapping)
    fun _ => ?_
  exact Field.not_lapses_withDefault fun _ _ => Scalar.not_lapses_list

/-- The documents that are neither read nor refused: a version is a number too long to be written,
and all that is looked at before is as it has to be. -/
def DocumentLapses (value : Value) : Prop :=
  ∃ data, value = .map data ∧ Clean (FieldViolates data trustedField) ∧
    Clean (FieldViolates data (.required "configurations" (.list .host))) ∧
    (VersionLapses data "version" ∨
      Clean (FieldViolates data (.required "version" .version)) ∧ VersionLapses data "fileVersion")

/-- Reads the hosts of a document. -/
def readHosts (data : Mapping) : Reading (List Host) := do
  let hosts ← Field.required Scalar.list data "configurations" ""
  Field.elements Host.read hosts "configurations"

lemma judges_readHosts (data : Mapping) : Judges (readHosts data) []
    (FieldViolates data (.required "configurations" (.list .host))) := by
  have hall : Judges (readHosts data) []
      (Violates (.record [.required "configurations" (.list .host)]) (.map data)) := by
    refine .bindField (Field.judges_required [] Scalar.readsAs_list) (.head _)
      Schema.weaker_list fun hosts hhosts _ => ?_
    have hhosts := Field.standsFor_list hhosts
    rw [← bind_pure (Field.elements Host.read hosts "configurations")]
    refine .bindPart [] (Field.judges_elements [.key "configurations"] fun item _ =>
      readsAs_host item) (.head _) (hhosts _) (fun _ _ h => violates_list_iff.mpr h)
      fun _ _ helements => .ok _ ?_
    exact clean_record (List.forall_mem_singleton.mpr
      (clean_field (hhosts _) (clean_list helements)))
  exact hall.congr fun rest refusal => by simp [violates_record_iff]

lemma not_lapses_readHosts (data : Mapping) : ¬ Lapses (readHosts data) :=
  not_lapses_bind (Field.not_lapses_required fun _ _ => Scalar.not_lapses_list)
    fun _ => Field.not_lapses_elementsFrom not_lapses_host 0 _

/-- Reads the versions of a document, and then what else is left to be looked into. -/
def readVersions {α : Type} (data : Mapping) (last : String → String → Reading α) : Reading α := do
  let version ← Field.required Scalar.version data "version" ""
  let fileVersion ← Field.required Scalar.version data "fileVersion" ""
  last version fileVersion

lemma lapses_readVersions_iff {α : Type} {data : Mapping} {last : String → String → Reading α}
    (hlast : ∀ version fileVersion, ¬ Lapses (last version fileVersion)) :
    Lapses (readVersions data last) ↔ VersionLapses data "version" ∨
      Clean (FieldViolates data (.required "version" .version)) ∧
        VersionLapses data "fileVersion" := by
  have hversion : Judges (Field.required Scalar.version data "version" "") []
      (FieldViolates data (.required "version" .version)) :=
    Field.judges_required [] readsAs_version
  rw [readVersions, lapses_bind_iff, lapses_requiredVersion_iff, ← hversion.exists_ok_iff,
    ← exists_and_right]
  refine or_congr_right (exists_congr fun version => and_congr_right fun _ => ?_)
  rw [lapses_bind_left_iff (hlast version), lapses_requiredVersion_iff]

lemma Configuration.read_eq (value : Value) : Configuration.read value = (do
    let data ← Scalar.mapping value ""
    let trusted ← takeTrusted data
    let hosts ← readHosts data
    readVersions data fun version fileVersion => do
      let globalTrusted ← NetworkEntry.readAll trusted globalTrustedPath
      return { version, fileVersion, globalTrusted, hosts }) := by
  simp only [Configuration.read, takeTrusted, readHosts, readVersions, readVersion_eq, bind_assoc]

/-- The documents that the reader of configurations lapses on. -/
theorem lapses_configuration_iff (value : Value) :
    Lapses (Configuration.read value) ↔ DocumentLapses value := by
  have hversions : ∀ data trusted hosts, Lapses (readVersions data fun version fileVersion => do
      let globalTrusted ← NetworkEntry.readAll trusted globalTrustedPath
      return ({ version, fileVersion, globalTrusted, hosts } : Configuration)) ↔ _ :=
    fun data trusted hosts => lapses_readVersions_iff fun _ _ =>
      not_lapses_bind (not_lapses_entries _ _) fun _ => not_lapses_ok _
  have hbody := fun data => (judges_takeTrusted data).lapses_bind_iff (not_lapses_takeTrusted data)
    fun trusted => (judges_readHosts data).lapses_bind_iff (not_lapses_readHosts data)
      fun hosts => hversions data trusted hosts
  rw [Configuration.read_eq, lapses_bind_iff]
  constructor
  · rintro (h | ⟨data, hdata, h⟩)
    · exact absurd h Scalar.not_lapses_mapping
    · exact ⟨data, Field.eq_map_of_mapping hdata, (hbody data).mp h⟩
  · rintro ⟨data, rfl, h⟩
    exact .inr ⟨data, rfl, (hbody data).mpr h⟩

end FirewallPolicy
