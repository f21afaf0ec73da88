import FirewallPolicy.Proofs.Policy.Accepted
import FirewallPolicy.Proofs.Policy.Judgement
import Mathlib.Data.List.Forall2
import Mathlib.Tactic.Common

/-!
# Configurations are validated exactly

* `readsAs_interface`, `judges_prepare` and their like: what every reader of a configuration, or of
  a part of one, judges.
* `Validates`: a reading succeeds just where nothing breaks the schema, and its violations are
  where something does.
* `readers_validate`: all readers of configurations validate.
-/

namespace FirewallPolicy

open FirewallPolicy.Scalar (Mapping)

/-! ## Single values -/

lemma readsAs_network : ReadsAs Scalar.network .network :=
  readsAs_scalar fun _ _ => Scalar.movesTo_network

lemma readsAs_plain : ReadsAs Scalar.text .plain :=
  readsAs_scalar fun _ _ => Scalar.movesTo_text

lemma readsAs_token (limit : Option Int) : ReadsAs (Scalar.token limit) (.token limit) :=
  readsAs_scalar fun _ _ => Scalar.movesTo_token

/-! ## Entries and interfaces -/

/-- Reads an entry that is a mapping. -/
def NetworkEntry.readMapping (item : Value) (path : String) : Reading NetworkEntry := do
  let data ← Scalar.mapping item path
  let value ← Field.required Scalar.network data "value" path
  let description ← Field.withDefault "" Scalar.text data "description" path
  return ⟨value, description⟩

lemma readsAs_entryMapping : ReadsAs NetworkEntry.readMapping
    (.record [.required "value" .network, .optional "description" .plain]) := by
  refine readsAs_record (fun _ _ => rfl) fun data place => ?_
  refine .bindField (Field.judges_required _ readsAs_network) (.head _) Schema.weaker_rfl
    fun value _ hvalue => ?_
  refine .bindField (Field.judges_withDefault _ readsAs_plain "") (.tail _ (.head _))
    Schema.weaker_rfl fun description _ hdescription => ?_
  refine .ok _ (clean_record ?_)
  simp only [List.forall_mem_cons]
  exact ⟨hvalue, hdescription, by simp⟩

lemma readsAs_entry : ReadsAs NetworkEntry.read .entry := by
  have htext : ∀ s path, NetworkEntry.read (.text s) path =
      (Scalar.network (.text s) path).map fun value => ⟨value, ""⟩ := fun _ _ => rfl
  have hother : ∀ value path, (∀ s, value ≠ .text s) →
      NetworkEntry.read value path = NetworkEntry.readMapping value path := by
    intro value path h
    cases value with
    | text s => exact absurd rfl (h s)
    | _ => rfl
  exact readsAs_textOr (readsAs_network.map _) readsAs_entryMapping htext hother

/-- The entries of a document. -/
lemma judges_entries (place : Place) (values : List Value) :
    Judges (NetworkEntry.readAll values (placeText place)) place
      (ElementsViolate (Violates .entry) values) := by
  rw [NetworkEntry.readAll_values]
  exact Field.judges_elements place fun item _ => readsAs_entry item

lemma readsAs_interface : ReadsAs PrimaryInterface.read .interface := by
  refine readsAs_record (fun _ _ => rfl) fun data place => ?_
  simp only [← placeText_key, List.append_assoc, List.cons_append, List.nil_append]
  refine .bindField (Field.judges_required _ Scalar.readsAs_mapping) (.head _)
    Schema.weaker_record fun rules hrules _ => ?_
  have hrules := Field.standsFor_mapping hrules
  refine .bindPart [] (Field.judges_required _ Scalar.readsAs_mapping) (.head _) (hrules _)
    (fun _ _ h => h.violates (.head _) Schema.weaker_record) fun input hinput _ => ?_
  refine .bindPart [] (Field.judges_required _ Scalar.readsAs_mapping) (.head _) (hrules _)
    (fun _ _ h => h.violates (.tail _ (.head _)) Schema.weaker_record) fun output houtput _ => ?_
  have hinput := Field.standsFor_mapping hinput
  have houtput := Field.standsFor_mapping houtput
  refine .bindField (Field.judges_required _ (readsAs_token _)) (.tail _ (.head _))
    Schema.weaker_rfl fun name _ hname => ?_
  refine .bindField (Field.judges_required _ Scalar.readsAs_list) (.tail _ (.tail _ (.head _)))
    Schema.weaker_list fun networks hnetworks _ => ?_
  have hnetworks := Field.standsFor_list hnetworks
  refine .bindPart [] (judges_entries _ networks) (.tail _ (.tail _ (.head _))) (hnetworks _)
    (fun _ _ h => violates_list_iff.mpr h) fun _ _ helements => ?_
  -- The actions are read last, although they stand in the rules.
  refine .bindPart [.key "input"] (Field.judges_required _ (readsAs_token none)) (.head _)
    (hrules _) (fun _ _ h => (hinput .chainRules).violates (.head _) (h.violates (.head _)
      Schema.weaker_rfl)) fun _ _ hinputAction => ?_
  refine .bindPart [.key "output"] (Field.judges_required _ (readsAs_token none)) (.head _)
    (hrules _) (fun _ _ h => (houtput .chainRules).violates (.tail _ (.head _))
      (h.violates (.head _) Schema.weaker_rfl)) fun _ _ houtputAction => ?_
  refine .ok _ (clean_record ?_)
  have hactions : Clean (Violates (.record [.required "input" .chainRules,
      .required "output" .chainRules]) (.map rules)) := by
    apply clean_record
    simp only [List.forall_mem_cons]
    refine ⟨clean_field (hinput _) (clean_record ?_), clean_field (houtput _) (clean_record ?_),
      by simp⟩
    · simpa using hinputAction
    · simpa using houtputAction
  simp only [List.forall_mem_cons]
  exact ⟨clean_field (hrules _) hactions, hname, clean_field (hnetworks _) (clean_list helements),
    by simp⟩

/-! ## The base chains -/

/-- Reads what the configuration of the base chains says itself: the trusted networks and the
interfaces. -/
def PrepareConfig.readOwn (value : Value) :
    Reading (List NetworkEntry × List PrimaryInterface) := do
  let data ← Scalar.mapping value ""
  let network ← Field.required Scalar.mapping data "network" ""
  let interfaces ← Field.required Scalar.list network "primaryInterfaces" "network"
  let trusted ← Field.withDefault [] Scalar.list network "trustedItems" "network"
  let trusted ← NetworkEntry.readAll trusted "network.trustedItems"
  let interfaces ← Field.elements PrimaryInterface.read interfaces "network.primaryInterfaces"
  return (trusted, interfaces)

lemma PrepareConfig.read_eq (value : Value) (global : List NetworkItem) :
    PrepareConfig.read value global = do
      let (trusted, interfaces) ← PrepareConfig.readOwn value
      let globalTrusted ← NetworkEntry.readAll global globalTrustedPath
      return { trusted, interfaces, globalTrusted } := by
  simp only [PrepareConfig.read, PrepareConfig.readOwn, bind_assoc, pure_bind]

lemma judges_prepareOwn (value : Value) :
    Judges (PrepareConfig.readOwn value) [] (Violates .prepare value) := by
  refine Judges.bindMapping [] fun data => ?_
  refine .bindField (Field.judges_required [] Scalar.readsAs_mapping) (.head _)
    Schema.weaker_record fun network hnetwork _ => ?_
  have hnetwork := Field.standsFor_mapping hnetwork
  refine .bindPart [] (Field.judges_required [.key "network"] Scalar.readsAs_list) (.head _)
    (hnetwork _) (fun _ _ h => h.violates (.head _) Schema.weaker_list)
    fun interfaces hinterfaces _ => ?_
  refine .bindPart [] (Field.judges_withDefault [.key "network"] Scalar.readsAs_list []) (.head _)
    (hnetwork _) (fun _ _ h => h.violates (.tail _ (.head _)) Schema.weaker_list)
    fun trusted htrusted _ => ?_
  have hinterfaces := Field.standsFor_list hinterfaces
  have htrusted := Field.standsFor_defaultList htrusted
  refine .bindPart [.key "trustedItems"] (judges_entries [.key "network", .key "trustedItems"] _)
    (.head _) (hnetwork _)
    (fun _ _ h => (htrusted _).violates (.tail _ (.head _)) (violates_list_iff.mpr h))
    fun _ _ hentries => ?_
  refine .bindPart [.key "primaryInterfaces"] (Field.judges_elements
      [.key "network", .key "primaryInterfaces"] fun item _ => readsAs_interface item) (.head _)
    (hnetwork _) (fun _ _ h => (hinterfaces _).violates (.head _) (violates_list_iff.mpr h))
    fun _ _ helements => ?_
  refine .ok _ (clean_record ?_)
  have hfields : Clean (Violates (.record [.required "primaryInterfaces" (.list .interface),
      .optional "trustedItems" (.list .entry)]) (.map network)) := by
    apply clean_record
    simp only [List.forall_mem_cons]
    exact ⟨clean_field (hinterfaces _) (clean_list helements),
      clean_field (htrusted _) (clean_list hentries), by simp⟩
  simp only [List.forall_mem_cons]
  exact ⟨clean_field (hnetwork _) hfields, by simp⟩

/-- Where the trusted networks that all hosts share are, seen from the document of a policy. -/
def globalPlace : Place := [.key "global", .key "network", .key "trustedItems"]

/-- What is wrong with the configuration of the base chains and with the networks that all hosts
share. -/
def PrepareFindings (value : Value) (global : List Value) : Findings := fun place refusal =>
  Violates .prepare value place refusal ∨
    ∃ rest, place = globalPlace ++ rest ∧ Violates (.list .entry) (.list global) rest refusal

lemma judges_prepare (value : Value) (global : List Value) :
    Judges (PrepareConfig.read value global) [] (PrepareFindings value global) := by
  rw [PrepareConfig.read_eq]
  refine .bind [] (judges_prepareOwn value) (fun _ _ h => .inl h) fun own _ hown => ?_
  refine .bind globalPlace (judges_entries globalPlace global)
    (fun rest _ h => .inr ⟨rest, rfl, violates_list_iff.mpr h⟩) fun _ _ hglobal => ?_
  refine .ok _ fun place refusal h => ?_
  rcases h with h | ⟨rest, -, h⟩
  · exact hown place refusal h
  · exact clean_list hglobal rest refusal h

/-! ## Services -/

lemma readsAs_port : ReadsAs Scalar.port .port :=
  readsAs_scalar fun _ _ => Scalar.movesTo_port

lemma readsAs_address : ReadsAs Scalar.address .address :=
  readsAs_scalar fun _ _ => Scalar.movesTo_address

lemma readsAs_subject : ReadsAs Scalar.addressOrNetwork .subject :=
  readsAs_scalar fun _ _ => Scalar.movesTo_addressOrNetwork

/-- What is read to mappings are mappings. -/
lemma eq_map_of_elementsFrom {items : List Value} {mappings : List Mapping} {path : String}
    {start : Nat} (h : Field.elementsFrom Scalar.mapping path start items = .ok mappings) :
    items = mappings.map .map := by
  have hitems : List.Forall₂ (fun item m => item = Value.map m) items mappings :=
    (Field.forall₂_of_elementsFrom h).imp fun _ _ ⟨_, hread⟩ => Field.eq_map_of_mapping hread
  rwa [← List.forall₂_map_right_iff, List.forall₂_eq_eq_eq] at hitems

/-- The field of a service's configuration that holds its items. -/
def itemsField (item : Schema) : SchemaField Schema :=
  .required "network" (.record [.required "items" (.list item)])

lemma judges_readItems {α : Type} {read : Mapping → String → Reading α}
    {fields : List (SchemaField Schema)} (data : Mapping)
    (h : ∀ data place, Judges (read data (placeText place)) place
      (Violates (.record fields) (.map data))) :
    Judges (readItems read data) [] (FieldViolates data (itemsField (.record fields))) := by
  have hall : Judges (readItems read data) []
      (Violates (.record [itemsField (.record fields)]) (.map data)) := by
    refine .bindField (Field.judges_required [] Scalar.readsAs_mapping) (.head _)
      Schema.weaker_record fun network hnetwork _ => ?_
    have hnetwork := Field.standsFor_mapping hnetwork
    refine .bindPart [] (Field.judges_required [.key "network"] Scalar.readsAs_list) (.head _)
      (hnetwork _) (fun _ _ h => h.violates (.head _) Schema.weaker_list) fun items hitems _ => ?_
    have hitems := Field.standsFor_list hitems
    -- Every item has to be a mapping before any of them is looked into.
    refine .bindPart [.key "items"] (Field.judges_elements [.key "network", .key "items"]
      fun item _ => Scalar.readsAs_mapping item) (.head _) (hnetwork _)
      (fun _ _ h => (hitems _).violates (.head _) ?_) fun mappings hmappings _ => ?_
    · obtain ⟨i, item, rest, hitem, rfl, hin⟩ := h
      exact .element hitem (Schema.weaker_record item rest _ hin)
    obtain rfl := eq_map_of_elementsFrom hmappings
    rw [← bind_pure (Field.elements read mappings "network.items")]
    refine .bindPart [.key "items"] (Field.judges_elements [.key "network", .key "items"]
      fun item _ => h item) (.head _) (hnetwork _)
      (fun _ _ h => (hitems _).violates (.head _) ?_) fun _ _ helements => .ok _ ?_
    · obtain ⟨i, item, rest, hitem, rfl, hin⟩ := h
      exact .element (by rw [List.getElem?_map, hitem]; rfl) hin
    have hlist : Clean (Violates (.list (.record fields)) (.list (mappings.map .map))) := by
      refine clean_list fun place refusal hplace => ?_
      obtain ⟨i, item, rest, hitem, rfl, hin⟩ := hplace
      rw [List.getElem?_map, Option.map_eq_some_iff] at hitem
      obtain ⟨entries, hentries, rfl⟩ := hitem
      exact helements _ refusal ⟨i, entries, rest, hentries, rfl, hin⟩
    refine clean_record ?_
    simp only [List.forall_mem_singleton]
    refine clean_field (hnetwork _) (clean_record ?_)
    simp only [List.forall_mem_singleton]
    exact clean_field (hitems _) hlist
  exact hall.congr fun rest refusal => by simp [violates_record_iff]

/-- The configuration of a service is judged by the schema of its items. -/
lemma judges_items {α β : Type} {read : Mapping → String → Reading α}
    {fields : List (SchemaField Schema)} (default mark : String) (make : List α → String → β)
    (h : ∀ data place, Judges (read data (placeText place)) place
      (Violates (.record fields) (.map data))) (value : Value) :
    Judges (do
      let data ← Scalar.mapping value ""
      let items ← readItems read data
      let chainName ← readChainName default mark data
      return make items chainName) [] (Violates (.items (.record fields) mark) value) := by
  refine .bindMapping [] fun data => ?_
  refine .bindField (judges_readItems data h) (.head _) Schema.weaker_rfl fun _ _ hitems => ?_
  refine .bindField (Field.judges_withDefault [] (readsAs_token _) default) (.tail _ (.head _))
    Schema.weaker_rfl fun _ _ hname => ?_
  refine .ok _ (clean_record ?_)
  simp only [List.forall_mem_cons]
  exact ⟨hitems, hname, by simp⟩

/-- The fields of a port of a service. -/
lemma judges_serviceItem (data : Mapping) (place : Place) :
    Judges (ServiceItem.read data (placeText place)) place (Violates .serviceItem (.map data)) := by
  unfold ServiceItem.read
  simp only [← placeText_key]
  refine .bindField (Field.judges_withDefault _ Scalar.readsAs_list []) (.head _)
    Schema.weaker_list fun sources hsources _ => ?_
  have hsources := Field.standsFor_defaultList hsources
  refine .bindField (Field.judges_required _ readsAs_port) (.tail _ (.head _)) Schema.weaker_rfl
    fun _ _ hport => ?_
  refine .bindField (Field.judges_required _ (readsAs_token none)) (.tail _ (.tail _ (.head _)))
    Schema.weaker_rfl fun _ _ hprotocol => ?_
  refine .bindPart [] (Field.judges_elements _ fun item _ => readsAs_subject item) (.head _)
    (hsources _) (fun _ _ h => violates_list_iff.mpr h) fun _ _ helements => ?_
  refine .bindField (Field.judges_optional _ readsAs_subject)
    (.tail _ (.tail _ (.tail _ (.head _)))) Schema.weaker_rfl fun _ _ hdestination => ?_
  refine .ok _ (clean_record ?_)
  simp only [List.forall_mem_cons]
  exact ⟨clean_field (hsources _) (clean_list helements), hport, hprotocol, hdestination, by simp⟩

lemma judges_service (value : Value) :
    Judges (ServiceConfig.read value) [] (Violates .service value) :=
  judges_items "genericServiceName" "" (fun items chainName => ServiceConfig.mk chainName items)
    judges_serviceItem value

/-- The fields of a forwarding. -/
lemma judges_dnsForward (data : Mapping) (place : Place) :
    Judges (DnsForward.read data (placeText place)) place (Violates .dnsForward (.map data)) := by
  refine .bindField (Field.judges_required _ (readsAs_token _)) (.head _) Schema.weaker_rfl
    fun _ _ hinterface => ?_
  refine .bindField (Field.judges_required _ readsAs_address) (.tail _ (.head _))
    Schema.weaker_rfl fun _ _ hsource => ?_
  refine .bindField (Field.judges_required _ readsAs_address) (.tail _ (.tail _ (.head _)))
    Schema.weaker_rfl fun _ _ hdestination => ?_
  refine .bindField (Field.judges_required _ readsAs_port)
    (.tail _ (.tail _ (.tail _ (.head _)))) Schema.weaker_rfl fun _ _ hport => ?_
  refine .bindField (Field.judges_withDefault _ readsAs_port dnsPort)
    (.tail _ (.tail _ (.tail _ (.tail _ (.head _))))) Schema.weaker_rfl fun _ _ hsourcePort => ?_
  refine .ok _ (clean_record ?_)
  simp only [List.forall_mem_cons]
  exact ⟨hinterface, hsource, hdestination, hport, hsourcePort, by simp⟩

lemma judges_dns (value : Value) : Judges (DnsConfig.read value) [] (Violates .dns value) :=
  judges_items "dockerDnsService" ChainName.dnsMark
    (fun items chainName => DnsConfig.mk chainName items) judges_dnsForward value

/-! ## Blacklists -/

lemma judges_blacklist (value : Value) :
    Judges (BlacklistConfig.read value) [] (Violates .blacklist value) := by
  refine .bindMapping [] fun data => ?_
  refine .bindField (Field.judges_required [] Scalar.readsAs_mapping) (.head _)
    Schema.weaker_record fun database hdatabase _ => ?_
  have hdatabase := Field.standsFor_mapping hdatabase
  refine .bindPart [] (Field.judges_required [.key "database"]
    (readsAs_scalar fun _ _ => Scalar.movesTo_connection)) (.head _) (hdatabase _)
    (fun _ _ h => h.violates (.head _) Schema.weaker_rfl) fun _ _ hconnection => ?_
  refine .bindPart [] (Field.judges_withDefault [.key "database"] readsAs_plain defaultTable)
    (.head _) (hdatabase _) (fun _ _ h => h.violates (.tail _ (.head _)) Schema.weaker_rfl)
    fun _ _ htable => ?_
  refine .bindPart [] (Field.judges_withDefault [.key "database"] readsAs_plain defaultSchema)
    (.head _) (hdatabase _)
    (fun _ _ h => h.violates (.tail _ (.tail _ (.head _))) Schema.weaker_rfl)
    fun _ _ hschema => ?_
  refine .ok _ (clean_record ?_)
  simp only [List.forall_mem_singleton]
  refine clean_field (hdatabase _) (clean_record ?_)
  simp only [List.forall_mem_cons]
  exact ⟨hconnection, htable, hschema, by simp⟩

/-! ## Configuration documents -/

lemma readsAs_job : ReadsAs JobEntry.read .job := by
  refine readsAs_record (fun _ _ => rfl) fun data place => ?_
  refine .bindField (Field.judges_required _ readsAs_plain) (.head _) Schema.weaker_rfl
    fun _ _ hname => ?_
  refine .bindField (Field.judges_required _ Scalar.readsAs_mapping) (.tail _ (.head _))
    Schema.weaker_rfl fun _ _ hconfiguration => ?_
  refine .ok _ (clean_record ?_)
  simp only [List.forall_mem_cons]
  exact ⟨hname, hconfiguration, by simp⟩

lemma readsAs_host : ReadsAs Host.read .host := by
  refine readsAs_record (fun _ _ => rfl) fun data place => ?_
  simp only [← placeText_key]
  refine .bindField (Field.judges_required _ Scalar.readsAs_list) (.head _) Schema.weaker_list
    fun jobs hjobs _ => ?_
  have hjobs := Field.standsFor_list hjobs
  refine .bindPart [] (Field.judges_elements _ fun item _ => readsAs_job item) (.head _) (hjobs _)
    (fun _ _ h => violates_list_iff.mpr h) fun _ _ helements => ?_
  refine .bindField (Field.judges_required _ readsAs_plain) (.tail _ (.head _)) Schema.weaker_rfl
    fun _ _ hid => ?_
  refine .ok _ (clean_record ?_)
  simp only [List.forall_mem_cons]
  exact ⟨clean_field (hjobs _) (clean_list helements), hid, by simp⟩

lemma readVersion_eq (data : Mapping) (key : String) :
    readVersion data key = Field.required Scalar.version data key "" := by
  unfold readVersion Field.required Field.present? Scalar.version
  cases Value.lookup? data key with
  | none => rfl
  | some value =>
    cases value with
    | int n =>
      -- What is written of the number is left aside: numbers as long as it takes are not computed.
      dsimp only
      generalize Text.writeInt n = written
      cases written <;> rfl
    | _ => rfl

lemma readsAs_version : ReadsAs Scalar.version .version :=
  readsAs_scalar fun _ _ => Scalar.movesTo_version

lemma judges_configuration (value : Value) :
    Judges (Configuration.read value) [] (Violates .configuration value) := by
  refine .bindMapping [] fun data => ?_
  simp only [readVersion_eq]
  refine .bindField (Field.judges_withDefault [] Scalar.readsAs_mapping []) (.head _)
    Schema.weaker_record fun global hglobal _ => ?_
  have hglobal : StandsFor data (.optional "global" (.record [.optional "network" (.record
      [.optional "trustedItems" (.list .entry)])])) (.map global) :=
    Field.standsFor_defaultMapping hglobal (by simp [SchemaField.optional])
  refine .bindPart [] (Field.judges_withDefault [.key "global"] Scalar.readsAs_mapping [])
    (.head _) hglobal (fun _ _ h => h.violates (.head _) Schema.weaker_record)
    fun network hnetwork _ => ?_
  have hnetwork : StandsFor global (.optional "network" (.record
      [.optional "trustedItems" (.list .entry)])) (.map network) :=
    Field.standsFor_defaultMapping hnetwork (by simp [SchemaField.optional])
  refine .bindPart [.key "network"] (Field.judges_withDefault [.key "global", .key "network"]
    Scalar.readsAs_list []) (.head _) hglobal (fun _ _ h => hnetwork.violates (.head _)
      (h.violates (.head _) Schema.weaker_list)) fun trusted htrusted _ => ?_
  have htrusted := Field.standsFor_defaultList htrusted
  refine .bindField (Field.judges_required [] Scalar.readsAs_list) (.tail _ (.head _))
    Schema.weaker_list fun hosts hhosts _ => ?_
  have hhosts := Field.standsFor_list hhosts
  refine .bindPart [] (Field.judges_elements [.key "configurations"] fun item _ =>
    readsAs_host item) (.tail _ (.head _)) (hhosts _) (fun _ _ h => violates_list_iff.mpr h)
    fun _ _ helements => ?_
  refine .bindField (Field.judges_required [] readsAs_version) (.tail _ (.tail _ (.head _)))
    Schema.weaker_rfl fun _ _ hversion => ?_
  refine .bindField (Field.judges_required [] readsAs_version)
    (.tail _ (.tail _ (.tail _ (.head _)))) Schema.weaker_rfl fun _ _ hfileVersion => ?_
  -- The trusted networks are looked into last, although the list was taken first.
  refine .bindPart [.key "network", .key "trustedItems"] (judges_entries globalPlace _) (.head _)
    hglobal (fun _ _ h => hnetwork.violates (.head _)
      ((htrusted _).violates (.head _) (violates_list_iff.mpr h))) fun _ _ hentries => ?_
  refine .ok _ (clean_record ?_)
  have hnetworkClean : Clean (Violates (.record [.optional "trustedItems" (.list .entry)])
      (.map network)) := by
    apply clean_record
    simp only [List.forall_mem_singleton]
    exact clean_field (htrusted _) (clean_list hentries)
  have hglobalClean : Clean (Violates (.record [.optional "network" (.record
      [.optional "trustedItems" (.list .entry)])]) (.map global)) := by
    apply clean_record
    simp only [List.forall_mem_singleton]
    exact clean_field hnetwork hnetworkClean
  simp only [List.forall_mem_cons]
  exact ⟨clean_field hglobal hglobalClean, clean_field (hhosts _) (clean_list helements), hversion,
    hfileVersion, by simp⟩

/-! ## All readers -/

/-- A reading of a document succeeds just where nothing in it is wrong, and a violation is blamed on
a place that is inside the document and where just this is wrong. -/
structure Validates {α : Type} (reading : Reading α) (inside : Place → Prop) (bad : Findings) :
    Prop where
  accepts_iff : (∃ a, reading = .ok a) ↔ ∀ place refusal, ¬ bad place refusal
  blames : ∀ v, reading = .error (.violation v) →
    ∃ place, bad place (.fault v.fault) ∧ v.path = placeText place ∧ inside place

lemma Judges.validates {α : Type} {reading : Reading α} {inside : Place → Prop} {bad : Findings}
    (h : Judges reading [] bad) (hinside : ∀ place refusal, bad place refusal → inside place) :
    Validates reading inside bad := by
  refine ⟨⟨fun ⟨a, ha⟩ => h.clean a ha, fun hclean => ?_⟩, fun v hv => ?_⟩
  · match hreading : reading with
    | .ok a => exact ⟨a, rfl⟩
    | .error (.violation v) =>
      obtain ⟨place, hplace, -⟩ := h.blames v rfl
      exact absurd hplace (hclean _ _)
    | .error (.numeral cause) =>
      obtain ⟨place, hplace⟩ := h.numeral cause rfl
      exact absurd hplace (hclean _ _)
  · obtain ⟨place, hplace, hpath⟩ := h.blames v hv
    exact ⟨place, hplace, hpath, hinside place _ hplace⟩

/-- Every reader of a configuration accepts the documents that fit its schema, and blames a place
that breaks it in all others. -/
theorem readers_validate (value : Value) (global : List Value) :
    Validates (PrepareConfig.read value global)
      (fun place => Within value place ∨
        ∃ rest, place = globalPlace ++ rest ∧ Within (.list global) rest)
      (PrepareFindings value global) ∧
    Validates (ServiceConfig.read value) (Within value) (Violates .service value) ∧
    Validates (DnsConfig.read value) (Within value) (Violates .dns value) ∧
    Validates (BlacklistConfig.read value) (Within value) (Violates .blacklist value) ∧
    Validates (Configuration.read value) (Within value) (Violates .configuration value) := by
  refine ⟨(judges_prepare value global).validates fun place refusal h => ?_,
    (judges_service value).validates fun _ _ => Violates.within,
    (judges_dns value).validates fun _ _ => Violates.within,
    (judges_blacklist value).validates fun _ _ => Violates.within,
    (judges_configuration value).validates fun _ _ => Violates.within⟩
  exact h.imp Violates.within fun ⟨rest, hrest, hin⟩ => ⟨rest, hrest, hin.within⟩

end FirewallPolicy
