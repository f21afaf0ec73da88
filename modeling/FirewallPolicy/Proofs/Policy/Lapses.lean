import FirewallPolicy.Proofs.Policy.Validation
import FirewallPolicy.Proofs.Text.DigitRuns
import Mathlib.Tactic.Common

/-!
# Readings that end without a verdict

A reading lapses if it ends with a numeral that no rule covers: neither a configuration nor a
violation comes out of it.

* `PortLapses`, `Scalar.lapses_port_iff`: the values that the reader of ports lapses on.
* `lapses_service_iff`, `lapses_dns_iff`, `lapses_blacklist_iff`: the documents that the readers of
  configurations lapse on.
* `not_lapses_prepare`: the reader of the base chains always comes to a verdict.
-/

namespace FirewallPolicy

open FirewallPolicy.Scalar (Mapping)
open FirewallPolicy.Text (trim isDigitRun IsNumeral)

/-! ## Readings -/

section

variable {α β : Type}

/-- A reading that ends neither with a result nor with a violation. -/
def Lapses (reading : Reading α) : Prop := ∃ cause, reading = .error (.numeral cause)

lemma not_lapses_ok (a : α) : ¬ Lapses (.ok a : Reading α) := fun ⟨_, h⟩ => nomatch h

lemma not_lapses_refuse (path : String) (fault : Fault) :
    ¬ Lapses (refuse path fault : Reading α) := fun ⟨_, h⟩ => nomatch h

lemma lapses_error (cause : Text.NumeralError) : Lapses (.error (.numeral cause) : Reading α) :=
  ⟨cause, rfl⟩

/-- Two readings in a row lapse where the first one does, or the second one after it. -/
lemma lapses_bind_iff {x : Reading α} {f : α → Reading β} :
    Lapses (x >>= f) ↔ Lapses x ∨ ∃ a, x = .ok a ∧ Lapses (f a) := by
  cases x with
  | ok a =>
    constructor
    · exact fun h => .inr ⟨a, rfl, h⟩
    · rintro (⟨_, h⟩ | ⟨b, hb, h⟩)
      · cases h
      · cases hb
        exact h
  | error e =>
    constructor
    · rintro ⟨cause, h⟩
      cases h
      exact .inl ⟨cause, rfl⟩
    · rintro (⟨cause, h⟩ | ⟨_, h, -⟩)
      · cases h
        exact ⟨cause, rfl⟩
      · cases h

lemma lapses_map_iff {x : Reading α} {f : α → β} : Lapses (x.map f) ↔ Lapses x := by
  cases x with
  | ok a => exact iff_of_false (not_lapses_ok _) (not_lapses_ok a)
  | error e =>
    constructor
    · rintro ⟨cause, h⟩
      cases h
      exact lapses_error cause
    · rintro ⟨cause, h⟩
      cases h
      exact lapses_error cause

/-- A reading that is judged gives a result where nothing is wrong. -/
lemma Judges.exists_ok_iff {reading : Reading α} {place : Place} {bad : Findings}
    (h : Judges reading place bad) : (∃ a, reading = .ok a) ↔ Clean bad := by
  constructor
  · rintro ⟨a, ha⟩
    exact h.clean a ha
  · intro hclean
    match reading, h with
    | .ok a, _ => exact ⟨a, rfl⟩
    | .error (.violation v), h =>
      obtain ⟨rest, hrest, -⟩ := h.blames v rfl
      exact absurd hrest (hclean rest _)
    | .error (.numeral cause), h =>
      obtain ⟨rest, hrest⟩ := h.numeral cause rfl
      exact absurd hrest (hclean rest _)

end

section

variable {α β : Type} {x : Reading α} {f : α → Reading β}

lemma not_lapses_bind (hx : ¬ Lapses x) (hf : ∀ a, ¬ Lapses (f a)) : ¬ Lapses (x >>= f) := by
  rw [lapses_bind_iff]
  rintro (h | ⟨a, -, h⟩)
  · exact hx h
  · exact hf a h

/-- Where nothing lapses any more, the first reading decides. -/
lemma lapses_bind_left_iff (hf : ∀ a, ¬ Lapses (f a)) : Lapses (x >>= f) ↔ Lapses x := by
  rw [lapses_bind_iff]
  exact or_iff_left fun ⟨a, _, h⟩ => hf a h

/-- Where a part of a value is judged first, the reading lapses behind it if the part is as it has
to be. -/
lemma Judges.lapses_bind_iff {place : Place} {bad : Findings} {p : Prop} (hx : Judges x place bad)
    (hlapses : ¬ Lapses x) (hf : ∀ a, Lapses (f a) ↔ p) : Lapses (x >>= f) ↔ Clean bad ∧ p := by
  rw [FirewallPolicy.lapses_bind_iff, or_iff_right hlapses, ← hx.exists_ok_iff]
  constructor
  · rintro ⟨a, ha, h⟩
    exact ⟨⟨a, ha⟩, (hf a).mp h⟩
  · rintro ⟨⟨a, ha⟩, h⟩
    exact ⟨a, ha, (hf a).mpr h⟩

end

/-! ## Single values -/

/-- The values that pass for a port and cannot be read, or are none and cannot be shown. -/
def PortLapses : Value → Prop
  | .text s => isDigitRun (trim s) ∧ ¬ IsNumeral (trim s).toList
  | .bool _ => False
  | value => value.isWritable = false

namespace Scalar

variable {value : Value} {path : String}

lemma not_lapses_mapping : ¬ Lapses (mapping value path) := by
  cases value <;> exact fun ⟨_, h⟩ => nomatch h

lemma not_lapses_list : ¬ Lapses (list value path) := by
  cases value <;> exact fun ⟨_, h⟩ => nomatch h

lemma not_lapses_text : ¬ Lapses (text value path) := by
  cases value with
  | text s =>
    simp only [text]
    split_ifs
    · exact not_lapses_refuse _ _
    · exact not_lapses_ok _
  | _ => exact not_lapses_refuse _ _

lemma not_lapses_token {limit : Option Int} : ¬ Lapses (token limit value path) := by
  unfold token
  rw [lapses_bind_iff]
  rintro (h | ⟨s, -, h⟩)
  · exact not_lapses_text h
  · split_ifs at h
    · exact not_lapses_refuse _ _ h
    · cases limit with
      | none => exact not_lapses_ok _ h
      | some n =>
        simp only at h
        split_ifs at h
        · exact not_lapses_refuse _ _ h
        · exact not_lapses_ok _ h

lemma not_lapses_network : ¬ Lapses (network value path) := by
  unfold network
  rw [lapses_bind_iff]
  rintro (h | ⟨s, -, h⟩)
  · exact not_lapses_text h
  · split_ifs at h
    · exact not_lapses_refuse _ _ h
    · exact not_lapses_refuse _ _ h
    · exact not_lapses_ok _ h

lemma not_lapses_address : ¬ Lapses (address value path) := by
  unfold address
  rw [lapses_bind_iff]
  rintro (h | ⟨s, -, h⟩)
  · exact not_lapses_text h
  · split_ifs at h
    · exact not_lapses_ok _ h
    · exact not_lapses_refuse _ _ h

lemma not_lapses_addressOrNetwork : ¬ Lapses (addressOrNetwork value path) := by
  unfold addressOrNetwork
  rw [lapses_bind_iff]
  rintro (h | ⟨s, -, h⟩)
  · exact not_lapses_text h
  · split_ifs at h
    · exact not_lapses_network h
    · exact not_lapses_address h

lemma lapses_portError_iff {α : Type} {fault : Fault} :
    Lapses (portError value path fault : Reading α) ↔ value.isWritable = false := by
  unfold portError
  cases value.isWritable with
  | true => exact iff_of_false (not_lapses_refuse _ _) (by simp)
  | false => exact iff_of_true (lapses_error _) rfl

/-- Ports are short enough to be written. -/
lemma isWritable_of_port {n : Int} (h : 0 ≤ n ∧ n ≤ 65535) : Text.isWritable n = true :=
  Text.isWritable_of_natAbs_lt (k := 5) (by omega) (by decide)

lemma lapses_portNumber_iff {n : Int} :
    Lapses (portNumber n path) ↔ Text.isWritable n = false := by
  unfold portNumber
  split_ifs with hrange
  · exact iff_of_false (not_lapses_ok _) (by rw [isWritable_of_port hrange]; simp)
  · rw [lapses_portError_iff, Value.isWritable]

/-- The values that the reader of ports lapses on. -/
theorem lapses_port_iff : Lapses (port value path) ↔ PortLapses value := by
  cases value with
  | bool b => exact iff_of_false (not_lapses_refuse _ _) id
  | int n =>
    show Lapses (portNumber n path) ↔ (Value.int n).isWritable = false
    rw [lapses_portNumber_iff, Value.isWritable]
  | text s =>
    simp only [port, PortLapses]
    split_ifs with hrun
    · have hne : (trim s).toList ≠ [] := by
        intro hnil
        rw [isDigitRun, Bool.and_eq_true, Bool.not_eq_true'] at hrun
        have hempty : trim s = "" := String.toList_injective hnil
        simp [hempty] at hrun
      rcases Classical.em (IsNumeral (trim s).toList) with hnumeral | hnot
      · obtain ⟨n, hread, hwritable⟩ := Text.readInt_of_isNumeral hne hnumeral
        rw [hread]
        simp only [lapses_portNumber_iff, hwritable]
        simp [hnumeral]
      · obtain ⟨cause, hread⟩ := Text.readInt_of_not_isNumeral hrun hnot
        rw [hread]
        exact iff_of_true (lapses_error cause) ⟨hrun, hnot⟩
    · exact iff_of_false (not_lapses_refuse _ _) fun h => hrun h.1
  | _ => exact lapses_portError_iff

/-- A text that is read is one that something is left of without the blanks at its ends. -/
lemma text_eq_ok_iff {s : String} :
    text value path = .ok s ↔ ∃ t, value = .text t ∧ s = trim t ∧ (trim t).isEmpty = false := by
  constructor
  · intro h
    cases value with
    | text t =>
      simp only [text] at h
      split_ifs at h with hempty
      · cases h
      · cases h
        exact ⟨t, rfl, rfl, Bool.not_eq_true _ ▸ hempty⟩
    | _ => cases h
  · rintro ⟨t, rfl, rfl, hempty⟩
    simp only [text]
    rw [if_neg (by rw [hempty]; exact Bool.false_ne_true)]

/-- The values that the reader of connection URLs lapses on: those with a port that is no number. -/
theorem lapses_connection_iff : Lapses (connection value path) ↔
    ∃ s cause, value = .text s ∧ Url.Connection.read (trim s) = .error (.port cause) := by
  rw [connection, lapses_bind_iff]
  constructor
  · rintro (h | ⟨s, hs, h⟩)
    · exact absurd h not_lapses_text
    obtain ⟨t, rfl, rfl, -⟩ := text_eq_ok_iff.mp hs
    refine ⟨t, ?_⟩
    match hread : Url.Connection.read (trim t) with
    | .error (.port cause) => exact ⟨cause, rfl, rfl⟩
    | .error .malformed =>
      rw [hread] at h
      exact absurd h (not_lapses_refuse _ _)
    | .ok url =>
      rw [hread] at h
      simp only at h
      split_ifs at h
      · exact absurd h (not_lapses_ok _)
      · exact absurd h (not_lapses_ok _)
      · exact absurd h (not_lapses_refuse _ _)
  · rintro ⟨t, cause, rfl, hcause⟩
    have hempty : (trim t).isEmpty = false := by
      by_contra hnot
      rw [Bool.not_eq_false, String.isEmpty_iff] at hnot
      have hmalformed : Url.Connection.read "" = .error .malformed := by decide
      rw [hnot, hmalformed] at hcause
      cases hcause
    refine .inr ⟨trim t, text_eq_ok_iff.mpr ⟨t, rfl, rfl, hempty⟩, ?_⟩
    rw [hcause]
    exact lapses_error cause

end Scalar

/-! ## Fields and lists -/

namespace Field

variable {α β : Type} {read : Reader α} {data : Mapping} {name path : String}

lemma lapses_required_iff : Lapses (required read data name path) ↔
    ∃ value, present? data name = some value ∧ Lapses (read value (Location.key path name)) := by
  unfold required
  cases present? data name with
  | none => exact iff_of_false (not_lapses_refuse _ _) (by simp)
  | some value => simp

lemma lapses_optional_iff : Lapses (optional read data name path) ↔
    ∃ value, present? data name = some value ∧ Lapses (read value (Location.key path name)) := by
  unfold optional
  cases present? data name with
  | none => exact iff_of_false (not_lapses_ok _) (by simp)
  | some value => simp [lapses_map_iff]

lemma lapses_withDefault_iff {default : α} : Lapses (withDefault default read data name path) ↔
    ∃ value, present? data name = some value ∧ Lapses (read value (Location.key path name)) := by
  rw [withDefault, lapses_map_iff, lapses_optional_iff]

section

variable (h : ∀ value path, ¬ Lapses (read value path))

include h

lemma not_lapses_required : ¬ Lapses (required read data name path) := by
  rw [lapses_required_iff]
  exact fun ⟨value, _, hvalue⟩ => h value _ hvalue

lemma not_lapses_optional : ¬ Lapses (optional read data name path) := by
  rw [lapses_optional_iff]
  exact fun ⟨value, _, hvalue⟩ => h value _ hvalue

lemma not_lapses_withDefault {default : α} :
    ¬ Lapses (withDefault default read data name path) := by
  rw [lapses_withDefault_iff]
  exact fun ⟨value, _, hvalue⟩ => h value _ hvalue

end

lemma not_lapses_elementsFrom {read : β → String → Reading α}
    (h : ∀ item path, ¬ Lapses (read item path)) (start : Nat) (items : List β) :
    ¬ Lapses (elementsFrom read path start items) := by
  induction items generalizing start with
  | nil => exact not_lapses_ok _
  | cons item items ih =>
    exact not_lapses_bind (h item _) fun _ => not_lapses_bind (ih _) fun _ => not_lapses_ok _

/-- A list is read up to the first element on which the reader lapses, unless an earlier one is
refused. -/
lemma lapses_elementsFrom_iff (place : Place) {read : β → String → Reading α}
    {bad : β → Findings} {lapses : β → Prop}
    (hjudges : ∀ item place, Judges (read item (placeText place)) place (bad item))
    (hlapses : ∀ item place, Lapses (read item (placeText place)) ↔ lapses item)
    (start : Nat) (items : List β) :
    Lapses (elementsFrom read (placeText place) start items) ↔
      ∃ before item after, items = before ++ item :: after ∧
        (∀ earlier ∈ before, Clean (bad earlier)) ∧ lapses item := by
  induction items generalizing start with
  | nil => exact iff_of_false (not_lapses_ok _) (by simp)
  | cons first rest ih =>
    have hfirst := hlapses first (place ++ [.index start])
    have hok := (hjudges first (place ++ [.index start])).exists_ok_iff
    rw [placeText_index] at hfirst hok
    have hrest : ∀ a, Lapses (elementsFrom read (placeText place) (start + 1) rest >>=
        fun as => .ok (a :: as)) ↔ Lapses (elementsFrom read (placeText place) (start + 1) rest) :=
      fun a => lapses_bind_left_iff fun _ => not_lapses_ok _
    unfold elementsFrom
    rw [lapses_bind_iff, hfirst]
    constructor
    · rintro (h | ⟨a, ha, h⟩)
      · exact ⟨[], first, rest, rfl, by simp, h⟩
      · obtain ⟨before, item, after, rfl, hbefore, hitem⟩ := (ih _).mp ((hrest a).mp h)
        refine ⟨first :: before, item, after, rfl, ?_, hitem⟩
        exact List.forall_mem_cons.mpr ⟨hok.mp ⟨a, ha⟩, hbefore⟩
    · rintro ⟨before, item, after, hitems, hbefore, hitem⟩
      cases before with
      | nil =>
        cases hitems
        exact .inl hitem
      | cons earlier before =>
        cases hitems
        rw [List.forall_mem_cons] at hbefore
        obtain ⟨a, ha⟩ := hok.mpr hbefore.1
        exact .inr ⟨a, ha, (hrest a).mpr ((ih _).mpr ⟨before, item, after, rfl, hbefore.2, hitem⟩)⟩

end Field

/-! ## Services -/

/-- The items of a service on which a reader lapses: all items are mappings, and none before them is
refused. -/
def ItemsLapse (item : Schema) (lapses : Mapping → Prop) (entries : Mapping) : Prop :=
  ∃ network before data after, Field.present? entries "network" = some (.map network) ∧
    Field.present? network "items" = some (.list ((before ++ data :: after).map .map)) ∧
    (∀ earlier ∈ before, Clean (Violates item (.map earlier))) ∧ lapses data

/-- All mappings are read as such. -/
lemma elementsFrom_mapping (mappings : List Mapping) (path : String) (start : Nat) :
    Field.elementsFrom Scalar.mapping path start (mappings.map .map) = .ok mappings := by
  induction mappings generalizing start with
  | nil => rfl
  | cons entries mappings ih =>
    rw [List.map_cons, Field.elementsFrom, ih]
    rfl

lemma lapses_readItems_iff {α : Type} {read : Mapping → String → Reading α} {item : Schema}
    {lapses : Mapping → Prop} {entries : Mapping}
    (hjudges : ∀ data place, Judges (read data (placeText place)) place (Violates item (.map data)))
    (hlapses : ∀ data place, Lapses (read data (placeText place)) ↔ lapses data) :
    Lapses (readItems read entries) ↔ ItemsLapse item lapses entries := by
  have helements := fun mappings => Field.lapses_elementsFrom_iff [.key "network", .key "items"]
    hjudges hlapses 0 mappings
  unfold readItems
  constructor
  · intro h
    obtain h | ⟨network, hnetwork, h⟩ := lapses_bind_iff.mp h
    · exact absurd h (Field.not_lapses_required fun _ _ => Scalar.not_lapses_mapping)
    obtain h | ⟨items, hitems, h⟩ := lapses_bind_iff.mp h
    · exact absurd h (Field.not_lapses_required fun _ _ => Scalar.not_lapses_list)
    obtain h | ⟨mappings, hmappings, h⟩ := lapses_bind_iff.mp h
    · exact absurd h (Field.not_lapses_elementsFrom (fun _ _ => Scalar.not_lapses_mapping) 0 _)
    obtain ⟨before, data, after, rfl, hbefore, hdata⟩ := (helements _).mp h
    obtain ⟨value, hpresent, hvalue⟩ := Field.present?_of_required hnetwork
    obtain rfl := Field.eq_map_of_mapping hvalue
    obtain ⟨value, hpresent', hvalue⟩ := Field.present?_of_required hitems
    obtain rfl := Field.eq_list_of_list hvalue
    obtain rfl := eq_map_of_elementsFrom hmappings
    exact ⟨network, before, data, after, hpresent, hpresent', hbefore, hdata⟩
  · rintro ⟨network, before, data, after, hnetwork, hitems, hbefore, hdata⟩
    have hread : Lapses (Field.elements read (before ++ data :: after) "network.items") :=
      (helements _).mpr ⟨before, data, after, rfl, hbefore, hdata⟩
    rw [Field.required, hnetwork]
    refine lapses_bind_iff.mpr (.inr ⟨network, rfl, ?_⟩)
    rw [Field.required, hitems]
    refine lapses_bind_iff.mpr (.inr ⟨_, rfl, ?_⟩)
    rw [Field.elements, elementsFrom_mapping]
    exact lapses_bind_iff.mpr (.inr ⟨_, rfl, hread⟩)

/-- The reading of a service lapses where the reading of its items does. -/
lemma lapses_items_iff {α β : Type} {read : Mapping → String → Reading α} {item : Schema}
    {lapses : Mapping → Prop} (default mark : String) (make : List α → String → β)
    (hjudges : ∀ data place, Judges (read data (placeText place)) place (Violates item (.map data)))
    (hlapses : ∀ data place, Lapses (read data (placeText place)) ↔ lapses data) (value : Value) :
    Lapses (do
      let data ← Scalar.mapping value ""
      let items ← readItems read data
      let chainName ← readChainName default mark data
      return make items chainName) ↔
      ∃ entries, value = .map entries ∧ ItemsLapse item lapses entries := by
  have hname : ∀ data (items : List α), ¬ Lapses (readChainName default mark data >>= fun name =>
      (.ok (make items name) : Reading β)) := fun data items =>
    not_lapses_bind (Field.not_lapses_withDefault fun _ _ => Scalar.not_lapses_token)
      fun _ => not_lapses_ok _
  have hbody : ∀ data, Lapses (readItems read data >>= fun items =>
      readChainName default mark data >>= fun name => (.ok (make items name) : Reading β)) ↔
      ItemsLapse item lapses data := fun data =>
    (lapses_bind_left_iff (hname data)).trans (lapses_readItems_iff hjudges hlapses)
  rw [lapses_bind_iff]
  constructor
  · rintro (h | ⟨entries, hentries, h⟩)
    · exact absurd h Scalar.not_lapses_mapping
    · exact ⟨entries, Field.eq_map_of_mapping hentries, (hbody entries).mp h⟩
  · rintro ⟨entries, rfl, h⟩
    exact .inr ⟨entries, rfl, (hbody entries).mpr h⟩

/-- The fields of a port of a service on which its reader lapses. -/
def ServiceItemLapses (data : Mapping) : Prop :=
  Clean (FieldViolates data (.optional "sourceNetworks" (.list .unchecked))) ∧
    ∃ value, Field.present? data "portNumber" = some value ∧ PortLapses value

lemma lapses_serviceItem_iff (data : Mapping) (place : Place) :
    Lapses (ServiceItem.read data (placeText place)) ↔ ServiceItemLapses data := by
  unfold ServiceItem.read ServiceItemLapses
  refine (Field.judges_withDefault place Scalar.readsAs_list []).lapses_bind_iff
    (Field.not_lapses_withDefault fun _ _ => Scalar.not_lapses_list) fun sources => ?_
  rw [lapses_bind_left_iff, Field.lapses_required_iff]
  · exact exists_congr fun value => and_congr_right fun _ => Scalar.lapses_port_iff
  intro port
  refine not_lapses_bind (Field.not_lapses_required fun _ _ => Scalar.not_lapses_token) fun _ => ?_
  refine not_lapses_bind (Field.not_lapses_elementsFrom
    (fun _ _ => Scalar.not_lapses_addressOrNetwork) 0 _) fun _ => ?_
  exact not_lapses_bind (Field.not_lapses_optional fun _ _ => Scalar.not_lapses_addressOrNetwork)
    fun _ => not_lapses_ok _

/-- The documents of services that are neither read nor refused. -/
def ServiceLapses (value : Value) : Prop :=
  ∃ entries, value = .map entries ∧ ItemsLapse .serviceItem ServiceItemLapses entries

theorem lapses_service_iff (value : Value) :
    Lapses (ServiceConfig.read value) ↔ ServiceLapses value :=
  lapses_items_iff "genericServiceName" "" (fun items chainName => ServiceConfig.mk chainName items)
    judges_serviceItem lapses_serviceItem_iff value

/-! ## Name services -/

/-- The fields of a forwarding on which its reader lapses. -/
def DnsForwardLapses (data : Mapping) : Prop :=
  Clean (FieldViolates data
    (.required "sourceLinkName" (.token (some ChainName.interfaceMaxLength)))) ∧
  Clean (FieldViolates data (.required "sourceIpAddress" .address)) ∧
  Clean (FieldViolates data (.required "destinationIpAddress" .address)) ∧
  ((∃ value, Field.present? data "destinationPortNumber" = some value ∧ PortLapses value) ∨
    Clean (FieldViolates data (.required "destinationPortNumber" .port)) ∧
    ∃ value, Field.present? data "sourcePortNumber" = some value ∧ PortLapses value)

lemma lapses_dnsForward_iff (data : Mapping) (place : Place) :
    Lapses (DnsForward.read data (placeText place)) ↔ DnsForwardLapses data := by
  unfold DnsForward.read DnsForwardLapses
  refine (Field.judges_required place (readsAs_token _)).lapses_bind_iff
    (Field.not_lapses_required fun _ _ => Scalar.not_lapses_token) fun _ => ?_
  refine (Field.judges_required place readsAs_address).lapses_bind_iff
    (Field.not_lapses_required fun _ _ => Scalar.not_lapses_address) fun _ => ?_
  refine (Field.judges_required place readsAs_address).lapses_bind_iff
    (Field.not_lapses_required fun _ _ => Scalar.not_lapses_address) fun _ => ?_
  have hport : Judges (Field.required Scalar.port data "destinationPortNumber" (placeText place))
      place (FieldViolates data (.required "destinationPortNumber" .port)) :=
    Field.judges_required place readsAs_port
  rw [lapses_bind_iff, Field.lapses_required_iff, ← hport.exists_ok_iff, ← exists_and_right]
  refine or_congr (exists_congr fun _ => and_congr_right fun _ => Scalar.lapses_port_iff)
    (exists_congr fun _ => and_congr_right fun _ => ?_)
  refine (lapses_bind_left_iff fun _ => not_lapses_ok _).trans ?_
  rw [Field.lapses_withDefault_iff]
  exact exists_congr fun _ => and_congr_right fun _ => Scalar.lapses_port_iff

/-- The documents of name services that are neither read nor refused. -/
def DnsLapses (value : Value) : Prop :=
  ∃ entries, value = .map entries ∧ ItemsLapse .dnsForward DnsForwardLapses entries

theorem lapses_dns_iff (value : Value) : Lapses (DnsConfig.read value) ↔ DnsLapses value :=
  lapses_items_iff "dockerDnsService" ChainName.dnsMark
    (fun items chainName => DnsConfig.mk chainName items) judges_dnsForward lapses_dnsForward_iff
    value

/-! ## Blacklists -/

/-- The documents of blacklists that are neither read nor refused: the port in the URL of the
database is no number. -/
def BlacklistLapses (value : Value) : Prop :=
  ∃ entries database s cause, value = .map entries ∧
    Field.present? entries "database" = some (.map database) ∧
    Field.present? database "connectionString" = some (.text s) ∧
    Url.Connection.read (trim s) = .error (.port cause)

theorem lapses_blacklist_iff (value : Value) :
    Lapses (BlacklistConfig.read value) ↔ BlacklistLapses value := by
  unfold BlacklistConfig.read
  constructor
  · intro h
    obtain h | ⟨entries, hentries, h⟩ := lapses_bind_iff.mp h
    · exact absurd h Scalar.not_lapses_mapping
    obtain h | ⟨database, hdatabase, h⟩ := lapses_bind_iff.mp h
    · exact absurd h (Field.not_lapses_required fun _ _ => Scalar.not_lapses_mapping)
    have hconnection := (lapses_bind_left_iff fun _ => not_lapses_bind
      (Field.not_lapses_withDefault fun _ _ => Scalar.not_lapses_text) fun _ => not_lapses_bind
      (Field.not_lapses_withDefault fun _ _ => Scalar.not_lapses_text)
      fun _ => not_lapses_ok _).mp h
    obtain ⟨value, hpresent, hvalue⟩ := Field.lapses_required_iff.mp hconnection
    obtain ⟨s, cause, rfl, hread⟩ := Scalar.lapses_connection_iff.mp hvalue
    obtain ⟨value, hpresent', hvalue⟩ := Field.present?_of_required hdatabase
    obtain rfl := Field.eq_map_of_mapping hvalue
    obtain rfl := Field.eq_map_of_mapping hentries
    exact ⟨entries, database, s, cause, rfl, hpresent', hpresent, hread⟩
  · rintro ⟨entries, database, s, cause, rfl, hdatabase, hconnection, hread⟩
    refine lapses_bind_iff.mpr (.inr ⟨entries, rfl, ?_⟩)
    rw [Field.required, hdatabase]
    refine lapses_bind_iff.mpr (.inr ⟨database, rfl, lapses_bind_iff.mpr (.inl ?_)⟩)
    rw [Field.required, hconnection]
    exact Scalar.lapses_connection_iff.mpr ⟨s, cause, rfl, hread⟩

/-! ## The base chains -/

lemma not_lapses_entry (item : Value) (path : String) : ¬ Lapses (NetworkEntry.read item path) := by
  unfold NetworkEntry.read
  split
  · rw [lapses_map_iff]
    exact Scalar.not_lapses_network
  refine not_lapses_bind Scalar.not_lapses_mapping fun _ => ?_
  refine not_lapses_bind (Field.not_lapses_required fun _ _ => Scalar.not_lapses_network)
    fun _ => ?_
  exact not_lapses_bind (Field.not_lapses_withDefault fun _ _ => Scalar.not_lapses_text)
    fun _ => not_lapses_ok _

lemma not_lapses_item (item : NetworkItem) (path : String) :
    ¬ Lapses (NetworkEntry.ofItem item path) := by
  cases item with
  | raw value => exact not_lapses_entry value path
  | entry e => exact not_lapses_ok e

lemma not_lapses_entries (items : List NetworkItem) (path : String) :
    ¬ Lapses (NetworkEntry.readAll items path) :=
  Field.not_lapses_elementsFrom not_lapses_item 0 items

lemma not_lapses_interface (value : Value) (path : String) :
    ¬ Lapses (PrimaryInterface.read value path) := by
  have hmapping : ∀ data name path, ¬ Lapses (Field.required Scalar.mapping data name path) :=
    fun _ _ _ => Field.not_lapses_required fun _ _ => Scalar.not_lapses_mapping
  refine not_lapses_bind Scalar.not_lapses_mapping fun _ => ?_
  refine not_lapses_bind (hmapping _ _ _) fun _ => ?_
  refine not_lapses_bind (hmapping _ _ _) fun _ => ?_
  refine not_lapses_bind (hmapping _ _ _) fun _ => ?_
  refine not_lapses_bind (Field.not_lapses_required fun _ _ => Scalar.not_lapses_token) fun _ => ?_
  refine not_lapses_bind (Field.not_lapses_required fun _ _ => Scalar.not_lapses_list) fun _ => ?_
  refine not_lapses_bind (not_lapses_entries _ _) fun _ => ?_
  refine not_lapses_bind (Field.not_lapses_required fun _ _ => Scalar.not_lapses_token) fun _ => ?_
  exact not_lapses_bind (Field.not_lapses_required fun _ _ => Scalar.not_lapses_token)
    fun _ => not_lapses_ok _

/-- The configuration of the base chains is always read or refused: there are no ports in it. -/
theorem not_lapses_prepare (value : Value) (global : List NetworkItem) :
    ¬ Lapses (PrepareConfig.read value global) := by
  refine not_lapses_bind Scalar.not_lapses_mapping fun _ => ?_
  refine not_lapses_bind (Field.not_lapses_required fun _ _ => Scalar.not_lapses_mapping)
    fun _ => ?_
  refine not_lapses_bind (Field.not_lapses_required fun _ _ => Scalar.not_lapses_list) fun _ => ?_
  refine not_lapses_bind (Field.not_lapses_withDefault fun _ _ => Scalar.not_lapses_list)
    fun _ => ?_
  refine not_lapses_bind (not_lapses_entries _ _) fun _ => ?_
  refine not_lapses_bind (Field.not_lapses_elementsFrom not_lapses_interface 0 _) fun _ => ?_
  exact not_lapses_bind (not_lapses_entries _ _) fun _ => not_lapses_ok _

end FirewallPolicy
