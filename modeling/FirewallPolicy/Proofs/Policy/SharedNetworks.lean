import FirewallPolicy.Policy.Configuration
import FirewallPolicy.Proofs.Policy.Accepted

/-!
# The trusted networks that all hosts share

A document is read once, and its trusted networks are handed on to the jobs as they were read.  A
job that reads them again finds what it would find in the document.

* `NetworkEntry.readAll_entries`: entries that were read are taken as they are.
* `sharedItems`: the list of trusted networks in a document that all hosts share.
* `Configuration.exists_of_read`: an accepted document taken apart.
* `Configuration.readAll_sharedItems`: what a configuration says of them is what is read there.
-/

namespace FirewallPolicy

/-! ## Reading again -/

/-- Entries that were read are taken as they are. -/
theorem NetworkEntry.readAll_entries (entries : List NetworkEntry) (path : String) :
    readAll (entries.map .entry) path = .ok entries := by
  have hfrom : ∀ start,
      Field.elementsFrom ofItem path start (entries.map .entry) = .ok entries := by
    induction entries with
    | nil => exact fun _ => rfl
    | cons e entries ih =>
      intro start
      rw [List.map_cons, Field.elementsFrom, ih]
      rfl
  exact hfrom 0

/-! ## In a document -/

/-- The value of a field, if the value is a mapping and the field is there. -/
def Value.field? (value : Value) (key : String) : Option Value :=
  match value with
  | .map entries => Field.present? entries key
  | _ => none

/-- The list of trusted networks in a document that all hosts share; empty if there is none. -/
def sharedItems (document : Value) : List Value :=
  match ((document.field? "global").bind (·.field? "network")).bind (·.field? "trustedItems") with
  | some (.list items) => items
  | _ => []

section

variable {data entries : Scalar.Mapping} {items : List Value} {key path : String}

/-- A mapping that may be absent has the fields that are to be found below it. -/
lemma Field.withDefault_mapping_ok
    (h : Field.withDefault [] Scalar.mapping data key path = .ok entries) (name : String) :
    ((Value.map data).field? key).bind (·.field? name) = Field.present? entries name := by
  rw [Value.field?]
  obtain ⟨habsent, rfl⟩ | ⟨value, hpresent, hentries⟩ := Field.present?_of_withDefault h
  · rw [habsent]
    rfl
  · rw [hpresent]
    cases value with
    | map entries' =>
      cases hentries
      rfl
    | _ => cases hentries

lemma Field.withDefault_list_ok (h : Field.withDefault [] Scalar.list data key path = .ok items) :
    items = match Field.present? data key with
      | some (.list items) => items
      | _ => [] := by
  obtain ⟨habsent, rfl⟩ | ⟨value, hpresent, hitems⟩ := Field.present?_of_withDefault h
  · rw [habsent]
  · rw [hpresent]
    cases value with
    | list items' =>
      cases hitems
      rfl
    | _ => cases hitems

end

namespace Configuration

variable {document : Value} {c : Configuration}

/-- What an accepted document is made of: the settings for all hosts down to the trusted networks,
and the list of hosts. -/
lemma exists_of_read (h : Configuration.read document = .ok c) :
    ∃ data global network trusted items, document = .map data ∧
      Field.withDefault [] Scalar.mapping data "global" "" = .ok global ∧
      Field.withDefault [] Scalar.mapping global "network" "global" = .ok network ∧
      Field.withDefault [] Scalar.list network "trustedItems" "global.network" = .ok trusted ∧
      Field.required Scalar.list data "configurations" "" = .ok items ∧
      Field.elements Host.read items "configurations" = .ok c.hosts ∧
      NetworkEntry.readAll trusted globalTrustedPath = .ok c.globalTrusted := by
  obtain ⟨data, hdata, h⟩ := exists_of_bind_eq_ok h
  obtain ⟨global, hglobal, h⟩ := exists_of_bind_eq_ok h
  obtain ⟨network, hnetwork, h⟩ := exists_of_bind_eq_ok h
  obtain ⟨trusted, htrusted, h⟩ := exists_of_bind_eq_ok h
  obtain ⟨items, hitems, h⟩ := exists_of_bind_eq_ok h
  obtain ⟨hosts, hhosts, h⟩ := exists_of_bind_eq_ok h
  obtain ⟨version, -, h⟩ := exists_of_bind_eq_ok h
  obtain ⟨fileVersion, -, h⟩ := exists_of_bind_eq_ok h
  obtain ⟨entries, hentries, h⟩ := exists_of_bind_eq_ok h
  cases h
  cases document with
  | map data' =>
    cases hdata
    exact ⟨data, global, network, trusted, items, rfl, hglobal, hnetwork, htrusted, hitems, hhosts,
      hentries⟩
  | _ => cases hdata

/-- A configuration has the trusted networks of its document as they are read there. -/
theorem readAll_sharedItems (h : Configuration.read document = .ok c) :
    NetworkEntry.readAll (sharedItems document) globalTrustedPath = .ok c.globalTrusted := by
  obtain ⟨data, global, network, trusted, -, rfl, hglobal, hnetwork, htrusted, -, -, hentries⟩ :=
    exists_of_read h
  have hitems : sharedItems (.map data) = trusted := by
    rw [sharedItems, Field.withDefault_mapping_ok hglobal "network",
      Field.withDefault_list_ok htrusted]
    have hbelow := Field.withDefault_mapping_ok hnetwork "trustedItems"
    rw [Value.field?] at hbelow
    rw [hbelow]
  rw [hitems]
  exact hentries

end Configuration

end FirewallPolicy
