import FirewallPolicy.Proofs.Policy.Accepted
import FirewallPolicy.Proofs.Policy.Schema
import Mathlib.Tactic.Common

/-!
# Readers judge values by schemas

* `Judges`: a reading succeeds if there is nothing to find, and fails with a finding otherwise.
* `Judges.bind`: readings one after the other; whatever their order, what they find is found in the
  whole.
* `ReadsAs`: a reader judges values by a schema.
* `Scalar.readsAs_text` and its like: the readers of single values.
* `Field.judges_required`, `Field.judges_withDefault`, `Field.judges_elements`: the readers of
  fields and lists.
-/

namespace FirewallPolicy

open FirewallPolicy.Scalar (Mapping)

/-! ## Judgements -/

/-- What may be wrong at the places of a value. -/
abbrev Findings := Place → Refusal → Prop

/-- Nothing is wrong. -/
def Clean (bad : Findings) : Prop := ∀ rest refusal, ¬ bad rest refusal

/-- A reading of a value at a place succeeds if there is nothing to find in it, and fails with
something that is found otherwise. -/
structure Judges {α : Type} (reading : Reading α) (place : Place) (bad : Findings) : Prop where
  clean : ∀ a, reading = .ok a → Clean bad
  blames : ∀ v, reading = .error (.violation v) →
    ∃ rest, bad rest (.fault v.fault) ∧ v.path = placeText (place ++ rest)
  numeral : ∀ cause, reading = .error (.numeral cause) → ∃ rest, bad rest (.numeral cause)

section

variable {α β : Type} {place : Place} {bad : Findings}

lemma Judges.ok (a : α) (h : Clean bad) : Judges (.ok a : Reading α) place bad :=
  ⟨fun _ _ => h, fun _ h => (nomatch h), fun _ h => (nomatch h)⟩

lemma Judges.refuse {path : String} {fault : Fault} {rest : Place} (h : bad rest (.fault fault))
    (hpath : path = placeText (place ++ rest)) :
    Judges (FirewallPolicy.refuse path fault : Reading α) place bad := by
  refine ⟨fun _ h => (nomatch h), fun v hv => ?_, fun _ h => (nomatch h)⟩
  cases hv
  exact ⟨rest, h, hpath⟩

lemma Judges.congr {reading : Reading α} {found : Findings} (h : Judges reading place found)
    (hiff : ∀ rest refusal, found rest refusal ↔ bad rest refusal) :
    Judges reading place bad := by
  have heq : found = bad := funext fun rest => funext fun refusal => propext (hiff rest refusal)
  exact heq ▸ h

/-- A reading of a part judges the whole if the findings of the part are those of the whole. -/
lemma Judges.inside {reading : Reading α} (part : Place) {found : Findings}
    (h : Judges reading (place ++ part) found)
    (hfound : ∀ rest refusal, found rest refusal → bad (part ++ rest) refusal)
    (hbad : ∀ rest refusal, bad rest refusal → ∃ rest', found rest' refusal) :
    Judges reading place bad := by
  refine ⟨fun a ha rest refusal hrest => ?_, fun v hv => ?_, fun cause hcause => ?_⟩
  · obtain ⟨rest', hrest'⟩ := hbad rest refusal hrest
    exact h.clean a ha rest' refusal hrest'
  · obtain ⟨rest, hrest, hpath⟩ := h.blames v hv
    exact ⟨part ++ rest, hfound _ _ hrest, by rw [hpath, List.append_assoc]⟩
  · obtain ⟨rest, hrest⟩ := h.numeral cause hcause
    exact ⟨part ++ rest, hfound _ _ hrest⟩

/-- Two readings in a row: where the first one finds nothing, the second one has to judge. -/
lemma Judges.bind {x : Reading α} {f : α → Reading β} (part : Place) {found : Findings}
    (hx : Judges x (place ++ part) found)
    (hfound : ∀ rest refusal, found rest refusal → bad (part ++ rest) refusal)
    (hf : ∀ a, x = .ok a → Clean found → Judges (f a) place bad) :
    Judges (x >>= f) place bad := by
  match x with
  | .ok a => exact hf a rfl (hx.clean a rfl)
  | .error (.violation v) =>
    obtain ⟨rest, hrest, hpath⟩ := hx.blames v rfl
    refine Judges.refuse (hfound _ _ hrest) ?_
    rw [hpath, List.append_assoc]
  | .error (.numeral cause) =>
    obtain ⟨rest, hrest⟩ := hx.numeral cause rfl
    refine ⟨fun _ h => (nomatch h), fun _ h => (nomatch h), fun _ h => ?_⟩
    cases h
    exact ⟨part ++ rest, hfound _ _ hrest⟩

lemma Judges.map {x : Reading α} (h : Judges x place bad) (f : α → β) :
    Judges (x.map f) place bad := by
  match x with
  | .ok a => exact .ok _ (h.clean a rfl)
  | .error (.violation v) =>
    obtain ⟨rest, hrest, hpath⟩ := h.blames v rfl
    exact .refuse hrest hpath
  | .error (.numeral cause) =>
    refine ⟨fun _ h => (nomatch h), fun _ h => (nomatch h), fun _ hcause => ?_⟩
    cases hcause
    exact h.numeral cause rfl

end

/-- A reader judges values by a schema. -/
def ReadsAs {α : Type} (read : Field.Reader α) (schema : Schema) : Prop :=
  ∀ value place, Judges (read value (placeText place)) place (Violates schema value)

lemma ReadsAs.map {α β : Type} {read : Field.Reader α} {schema : Schema} (h : ReadsAs read schema)
    (f : α → β) : ReadsAs (fun value path => (read value path).map f) schema :=
  fun value place => (h value place).map f

/-! ## Single values -/

/-- An error at another location. -/
def ReadError.moveTo (path : String) : ReadError → ReadError
  | .violation v => .violation ⟨path, v.fault⟩
  | .numeral cause => .numeral cause

/-- A reading is another one with its violations at a location. -/
def MovesTo {α : Type} (path : String) (reading original : Reading α) : Prop :=
  reading = original.mapError (ReadError.moveTo path)

section

variable {α β : Type} {path : String}

lemma MovesTo.bind {x y : Reading α} {f g : α → Reading β} (hx : MovesTo path x y)
    (hf : ∀ a, MovesTo path (f a) (g a)) : MovesTo path (x >>= f) (y >>= g) := by
  rw [MovesTo] at hx
  subst hx
  cases y with
  | ok a => exact hf a
  | error e => rfl

/-- A reader that blames a value where it stands judges it as a single value. -/
lemma readsAs_scalar {read : Field.Reader α}
    (h : ∀ value path, MovesTo path (read value path) (read value "")) :
    ReadsAs read (.scalar (refusal? read)) := by
  intro value place
  rw [h value (placeText place)]
  have hrefusal : ∀ rest refusal, Violates (.scalar (refusal? read)) value rest refusal →
      refusal? read value = some refusal := fun _ _ hrest => (violates_scalar_iff.mp hrest).2
  match hread : read value "" with
  | .ok a =>
    refine Judges.ok a fun rest refusal hrest => ?_
    have hnone : refusal? read value = none := by rw [refusal?, hread]
    exact absurd (hrefusal rest refusal hrest) (by rw [hnone]; simp)
  | .error (.violation v) =>
    have hrefused : Violates (.scalar (refusal? read)) value [] (.fault v.fault) :=
      .refused (by rw [refusal?, hread])
    exact Judges.refuse hrefused (by rw [List.append_nil])
  | .error (.numeral cause) =>
    refine ⟨fun _ h => (nomatch h), fun _ h => (nomatch h), fun _ hcause => ?_⟩
    cases hcause
    exact ⟨[], .refused (by rw [refusal?, hread])⟩

end

namespace Scalar

variable {value : Value} {path : String}

lemma movesTo_text : MovesTo path (text value path) (text value "") := by
  cases value with
  | text s =>
    simp only [text]
    split_ifs <;> rfl
  | _ => rfl

lemma movesTo_token {limit : Option Int} :
    MovesTo path (token limit value path) (token limit value "") := by
  refine movesTo_text.bind fun s => ?_
  split_ifs
  · rfl
  · cases limit with
    | none => rfl
    | some n =>
      simp only
      split_ifs <;> rfl

lemma movesTo_portError {α : Type} (fault : Fault) :
    MovesTo path (portError value path fault : Reading α) (portError value "" fault) := by
  unfold portError
  split_ifs <;> rfl

lemma movesTo_portNumber (n : Int) : MovesTo path (portNumber n path) (portNumber n "") := by
  unfold portNumber
  split_ifs
  · rfl
  · exact movesTo_portError _

lemma movesTo_port : MovesTo path (port value path) (port value "") := by
  cases value with
  | bool b => rfl
  | int n => exact movesTo_portNumber n
  | text s =>
    simp only [port]
    split_ifs
    · cases Text.readInt (Text.trim s) with
      | ok n => exact movesTo_portNumber n
      | error e => rfl
    · rfl
  | _ => exact movesTo_portError _

lemma movesTo_network : MovesTo path (network value path) (network value "") := by
  refine movesTo_text.bind fun s => ?_
  split_ifs <;> rfl

lemma movesTo_address : MovesTo path (address value path) (address value "") := by
  refine movesTo_text.bind fun s => ?_
  split_ifs <;> rfl

lemma movesTo_addressOrNetwork :
    MovesTo path (addressOrNetwork value path) (addressOrNetwork value "") := by
  refine movesTo_text.bind fun s => ?_
  split_ifs
  · exact movesTo_network
  · exact movesTo_address

lemma movesTo_connection : MovesTo path (connection value path) (connection value "") := by
  refine movesTo_text.bind fun s => ?_
  match Url.Connection.read s with
  | .error .malformed => rfl
  | .error (.port _) => rfl
  | .ok url =>
    simp only
    split_ifs <;> rfl

lemma movesTo_version : MovesTo path (version value path) (version value "") := by
  have hnumeral : ∀ written : Except Text.NumeralError String,
      MovesTo path (written.mapError .numeral) (written.mapError .numeral) := by
    intro written
    cases written <;> rfl
  unfold version
  cases value with
  | int n => exact hnumeral _
  | float x => rfl
  | _ => exact movesTo_text

lemma readsAs_mapping : ReadsAs mapping (.record []) := by
  intro value place
  match value with
  | .map entries =>
    refine Judges.ok entries fun rest refusal h => ?_
    rw [violates_record_iff] at h
    simp at h
  | .null | .bool _ | .int _ | .float _ | .text _ | .list _ | .date _ | .dateTime _ | .bytes _
  | .set _ | .pair _ _ =>
    exact Judges.refuse (.notMapping fun _ h => (nomatch h)) (by rw [List.append_nil])

lemma readsAs_list : ReadsAs list (.list .unchecked) := by
  intro value place
  match value with
  | .list items =>
    refine Judges.ok items fun rest refusal h => ?_
    obtain ⟨i, item, rest, -, -, hin⟩ := violates_list_iff.mp h
    exact absurd (violates_scalar_iff.mp hin).2 (by simp)
  | .null | .bool _ | .int _ | .float _ | .text _ | .map _ | .date _ | .dateTime _ | .bytes _
  | .set _ | .pair _ _ =>
    exact Judges.refuse (.notList fun _ h => (nomatch h)) (by rw [List.append_nil])

end Scalar

/-! ## Fields -/

/-- What breaks one schema breaks another one. -/
def Schema.Weaker (weak strong : Schema) : Prop :=
  ∀ value rest refusal, Violates weak value rest refusal → Violates strong value rest refusal

lemma Schema.weaker_rfl {schema : Schema} : Schema.Weaker schema schema := fun _ _ _ h => h

/-- Whether a value is a mapping is asked before its fields are looked at. -/
lemma Schema.weaker_record {fields : List (SchemaField Schema)} :
    Schema.Weaker (.record []) (.record fields) := by
  intro value rest refusal h
  cases h with
  | notMapping h => exact .notMapping h
  | absent hfield => exact absurd hfield List.not_mem_nil
  | field hfield => exact absurd hfield List.not_mem_nil

/-- Whether a value is a list is asked before its elements are looked at. -/
lemma Schema.weaker_list {element : Schema} :
    Schema.Weaker (.list .unchecked) (.list element) := by
  intro value rest refusal h
  cases h with
  | notList h => exact .notList h
  | element h hin => exact absurd (violates_scalar_iff.mp hin).2 (by simp)

section

variable {data : Mapping} {fields : List (SchemaField Schema)} {field : SchemaField Schema}

lemma fieldViolates_iff_of_present {value : Value} {place : Place} {refusal : Refusal}
    (h : Field.present? data field.name = some value) :
    FieldViolates data field place refusal ↔
      ∃ rest, place = .key field.name :: rest ∧ Violates field.shape value rest refusal := by
  rw [FieldViolates, h]

/-- A field that breaks a weaker schema than the mapping asks for breaks the schema of the
mapping. -/
lemma FieldViolates.violates {name : String} {isRequired : Bool} {weak strong : Schema}
    {rest : Place} {refusal : Refusal}
    (h : FieldViolates data ⟨name, isRequired, weak⟩ rest refusal)
    (hfield : ⟨name, isRequired, strong⟩ ∈ fields) (hweak : Schema.Weaker weak strong) :
    Violates (.record fields) (.map data) rest refusal := by
  unfold FieldViolates at h
  split at h
  · rename_i habsent
    obtain ⟨hrequired, rfl, rfl⟩ := h
    have hviolates := Violates.absent hfield hrequired habsent
    exact hviolates
  · rename_i value hpresent
    obtain ⟨rest, rfl, hin⟩ := h
    have hviolates := Violates.field hfield hpresent (hweak value rest refusal hin)
    exact hviolates

/-- A mapping is as it has to be if its fields are. -/
lemma clean_record (h : ∀ field ∈ fields, Clean (FieldViolates data field)) :
    Clean (Violates (.record fields) (.map data)) := by
  intro rest refusal hrest
  obtain ⟨field, hfield, hviolates⟩ := violates_record_iff.mp hrest
  exact h field hfield rest refusal hviolates

/-- A value with which a reader goes on in place of a field: the field itself if it is there, and a
default that breaks nothing otherwise. -/
def StandsFor (data : Mapping) (field : SchemaField Schema) (value : Value) : Prop :=
  ∀ rest refusal,
    Violates field.shape value rest refusal ↔
      FieldViolates data field (.key field.name :: rest) refusal

lemma standsFor_of_present {value : Value} (h : Field.present? data field.name = some value) :
    StandsFor data field value := by
  intro rest refusal
  rw [fieldViolates_iff_of_present h]
  constructor
  · exact fun hin => ⟨rest, rfl, hin⟩
  · rintro ⟨_, hrest, hin⟩
    cases hrest
    exact hin

lemma not_fieldViolates_of_absent (h : Field.present? data field.name = none)
    (hoptional : field.isRequired = false) : Clean (FieldViolates data field) := by
  intro place refusal hplace
  rw [FieldViolates, h, hoptional] at hplace
  exact absurd hplace.1 Bool.false_ne_true

lemma standsFor_of_absent {value : Value} (h : Field.present? data field.name = none)
    (hoptional : field.isRequired = false) (hclean : Clean (Violates field.shape value)) :
    StandsFor data field value := fun rest refusal =>
  iff_of_false (hclean rest refusal) (not_fieldViolates_of_absent h hoptional _ refusal)

/-- A field is as it has to be if the value that stands for it is. -/
lemma clean_field {value : Value} (h : StandsFor data field value)
    (hclean : Clean (Violates field.shape value)) : Clean (FieldViolates data field) := by
  intro place refusal hplace
  have hkey : ∃ rest, place = .key field.name :: rest := by
    unfold FieldViolates at hplace
    split at hplace
    · exact ⟨[], hplace.2.1⟩
    · exact hplace.imp fun rest hrest => hrest.1
  obtain ⟨rest, rfl⟩ := hkey
  exact hclean rest refusal ((h rest refusal).mpr hplace)

variable {α β : Type} {place : Place} {name : String} {isRequired : Bool} {weak strong : Schema}

lemma StandsFor.violates {value : Value} {rest : Place} {refusal : Refusal}
    (h : StandsFor data ⟨name, isRequired, strong⟩ value)
    (hfield : ⟨name, isRequired, strong⟩ ∈ fields)
    (hin : Violates strong value rest refusal) :
    Violates (.record fields) (.map data) (.key name :: rest) refusal :=
  ((h rest refusal).mp hin).violates hfield Schema.weaker_rfl

/-- A field is read, perhaps without a look at its parts, and then the rest of the mapping. -/
lemma Judges.bindField {x : Reading α} {f : α → Reading β}
    (hx : Judges x place (FieldViolates data ⟨name, isRequired, weak⟩))
    (hfield : ⟨name, isRequired, strong⟩ ∈ fields) (hweak : Schema.Weaker weak strong)
    (hf : ∀ a, x = .ok a → Clean (FieldViolates data ⟨name, isRequired, weak⟩) →
      Judges (f a) place (Violates (.record fields) (.map data))) :
    Judges (x >>= f) place (Violates (.record fields) (.map data)) := by
  rw [← List.append_nil place] at hx
  exact hx.bind [] (fun rest refusal h => h.violates hfield hweak) hf

/-- A part of a field is read, and then the rest of the mapping. -/
lemma Judges.bindPart {x : Reading α} {f : α → Reading β} {value : Value} (part : Place)
    {found : Findings} (hx : Judges x (place ++ .key name :: part) found)
    (hfield : ⟨name, isRequired, strong⟩ ∈ fields)
    (hstands : StandsFor data ⟨name, isRequired, strong⟩ value)
    (hfound : ∀ rest refusal, found rest refusal → Violates strong value (part ++ rest) refusal)
    (hf : ∀ a, x = .ok a → Clean found →
      Judges (f a) place (Violates (.record fields) (.map data))) :
    Judges (x >>= f) place (Violates (.record fields) (.map data)) := by
  exact hx.bind _ (fun rest refusal h => hstands.violates hfield (hfound rest refusal h)) hf

/-- A reader that reads texts as one reader does and all other values as another does. -/
lemma readsAs_textOr {read readText readOther : Field.Reader α} {text other : Schema}
    (htext : ReadsAs readText text) (hother : ReadsAs readOther other)
    (hreadText : ∀ s path, read (.text s) path = readText (.text s) path)
    (hreadOther : ∀ value path, (∀ s, value ≠ .text s) → read value path = readOther value path) :
    ReadsAs read (.textOr text other) := by
  intro value place
  rcases Classical.em (∃ s, value = .text s) with ⟨s, rfl⟩ | hnot
  · rw [hreadText]
    refine (htext _ place).congr fun rest refusal => ⟨.text, fun h => ?_⟩
    cases h with
    | text hin => exact hin
    | other h => exact absurd rfl (h s)
  · have hne : ∀ s, value ≠ .text s := fun s h => hnot ⟨s, h⟩
    rw [hreadOther value _ hne]
    refine (hother _ place).congr fun rest refusal => ⟨.other hne, fun h => ?_⟩
    cases h with
    | text hin => exact absurd rfl (hne _)
    | other _ hin => exact hin

/-- A value that has to be a mapping is read field by field. -/
lemma Judges.bindMapping (place : Place) {body : Mapping → Reading α} {value : Value}
    (hbody : ∀ data, Judges (body data) place (Violates (.record fields) (.map data))) :
    Judges (Scalar.mapping value (placeText place) >>= body) place
      (Violates (.record fields) value) := by
  have hmapping : Judges (Scalar.mapping value (placeText place)) (place ++ [])
      (Violates (.record []) value) := by
    rw [List.append_nil]
    exact Scalar.readsAs_mapping value place
  refine hmapping.bind [] (Schema.weaker_record value) fun data hdata _ => ?_
  cases value with
  | map entries =>
    cases hdata
    exact hbody _
  | _ => cases hdata

/-- A reader that takes a mapping and reads its fields. -/
lemma readsAs_record {read : Field.Reader α} {body : Mapping → String → Reading α}
    (hread : ∀ value path,
      read value path = Scalar.mapping value path >>= fun data => body data path)
    (hbody : ∀ data place, Judges (body data (placeText place)) place
      (Violates (.record fields) (.map data))) : ReadsAs read (.record fields) := by
  intro value place
  rw [hread]
  exact .bindMapping place fun data => hbody data place

end

/-- What is wrong with the elements of a list. -/
def ElementsViolate {β : Type} (bad : β → Findings) (items : List β) : Findings :=
  fun place refusal => ∃ i item rest, items[i]? = some item ∧ place = .index i :: rest ∧
    bad item rest refusal

/-- A list is as it has to be if its elements are. -/
lemma clean_list {element : Schema} {items : List Value}
    (h : Clean (ElementsViolate (Violates element) items)) :
    Clean (Violates (.list element) (.list items)) := by
  intro rest refusal hrest
  exact h rest refusal (violates_list_iff.mp hrest)

namespace Field

variable {α β : Type} {read : Reader α} {shape : Schema} {data : Mapping} {name : String}

lemma judges_present (place : Place) {isRequired : Bool} {value : Value} (h : ReadsAs read shape)
    (hpresent : present? data name = some value) :
    Judges (read value (Location.key (placeText place) name)) place
      (FieldViolates data ⟨name, isRequired, shape⟩) := by
  rw [← placeText_key]
  refine (h value (place ++ [.key name])).inside [.key name] (fun rest refusal hin => ?_)
    (fun _ refusal hrest => ?_)
  · exact (fieldViolates_iff_of_present hpresent).mpr ⟨rest, rfl, hin⟩
  · obtain ⟨rest, -, hin⟩ := (fieldViolates_iff_of_present hpresent).mp hrest
    exact ⟨rest, hin⟩

lemma judges_required (place : Place) (h : ReadsAs read shape) :
    Judges (required read data name (placeText place)) place
      (FieldViolates data (.required name shape)) := by
  unfold required
  split
  · rename_i habsent
    have hfound : FieldViolates data (.required name shape) [.key name] (.fault .required) := by
      rw [FieldViolates, show (SchemaField.required name shape).name = name from rfl, habsent]
      exact ⟨rfl, rfl, rfl⟩
    exact Judges.refuse hfound (placeText_key place name).symm
  · rename_i value hpresent
    exact judges_present place h hpresent

lemma judges_optional (place : Place) (h : ReadsAs read shape) :
    Judges (optional read data name (placeText place)) place
      (FieldViolates data (.optional name shape)) := by
  unfold optional
  split
  · rename_i habsent
    exact .ok _ (not_fieldViolates_of_absent habsent rfl)
  · rename_i value hpresent
    exact (judges_present place h hpresent).map some

lemma judges_withDefault (place : Place) (h : ReadsAs read shape) (default : α) :
    Judges (withDefault default read data name (placeText place)) place
      (FieldViolates data (.optional name shape)) :=
  (judges_optional place h).map _

/-- The elements of a list from an index on. -/
lemma judges_elementsFrom (place : Place) {read : β → String → Reading α} {bad : β → Findings}
    {items : List β}
    (h : ∀ item ∈ items, ∀ place, Judges (read item (placeText place)) place (bad item))
    (start : Nat) :
    Judges (elementsFrom read (placeText place) start items) place fun rest refusal =>
      ∃ i item inner, items[i]? = some item ∧ rest = .index (start + i) :: inner ∧
        bad item inner refusal := by
  induction items generalizing start with
  | nil =>
    refine Judges.ok [] fun rest refusal hrest => ?_
    obtain ⟨i, item, inner, hitem, -⟩ := hrest
    simp at hitem
  | cons item items ih =>
    rw [List.forall_mem_cons] at h
    have hhead := h.1 (place ++ [.index start])
    rw [placeText_index] at hhead
    refine Judges.bind [.index start] hhead (fun inner refusal hin => ?_) fun x _ hclean => ?_
    · exact ⟨0, item, inner, rfl, by rw [Nat.add_zero]; rfl, hin⟩
    refine Judges.bind [] (by rw [List.append_nil]; exact ih h.2 (start + 1))
      (fun rest refusal hrest => ?_) fun xs _ hrest => .ok _ fun rest refusal hall => ?_
    · obtain ⟨i, item', inner, hitem, rfl, hin⟩ := hrest
      exact ⟨i + 1, item', inner, hitem, by rw [List.nil_append]; congr 2; omega, hin⟩
    · obtain ⟨i, item', inner, hitem, rfl, hin⟩ := hall
      cases i with
      | zero =>
        cases hitem
        exact hclean inner refusal hin
      | succ i => exact hrest _ refusal ⟨i, item', inner, hitem, rfl, hin⟩

lemma judges_elements (place : Place) {read : β → String → Reading α} {bad : β → Findings}
    {items : List β}
    (h : ∀ item ∈ items, ∀ place, Judges (read item (placeText place)) place (bad item)) :
    Judges (elements read items (placeText place)) place (ElementsViolate bad items) := by
  have hall := judges_elementsFrom place h 0
  simp only [Nat.zero_add] at hall
  exact hall

/-! ## What stands for a field that was read -/

/-- Only a mapping is read as one. -/
lemma eq_map_of_mapping {value : Value} {entries : Mapping} {path : String}
    (h : Scalar.mapping value path = .ok entries) : value = .map entries := by
  cases value <;> cases h
  rfl

/-- Only a list is read as one. -/
lemma eq_list_of_list {value : Value} {items : List Value} {path : String}
    (h : Scalar.list value path = .ok items) : value = .list items := by
  cases value <;> cases h
  rfl

lemma standsFor_mapping {entries : Mapping} {path : String}
    (h : required Scalar.mapping data name path = .ok entries) (shape : Schema) :
    StandsFor data (.required name shape) (.map entries) := by
  obtain ⟨value, hpresent, hread⟩ := present?_of_required h
  obtain rfl := eq_map_of_mapping hread
  exact standsFor_of_present hpresent

lemma standsFor_list {items : List Value} {path : String}
    (h : required Scalar.list data name path = .ok items) (shape : Schema) :
    StandsFor data (.required name shape) (.list items) := by
  obtain ⟨value, hpresent, hread⟩ := present?_of_required h
  obtain rfl := eq_list_of_list hread
  exact standsFor_of_present hpresent

/-- Where a list may be absent, none of its elements break anything. -/
lemma standsFor_defaultList {items : List Value} {path : String}
    (h : withDefault [] Scalar.list data name path = .ok items) (element : Schema) :
    StandsFor data (.optional name (.list element)) (.list items) := by
  obtain ⟨habsent, rfl⟩ | ⟨value, hpresent, hread⟩ := present?_of_withDefault h
  · refine standsFor_of_absent habsent rfl fun rest refusal hrest => ?_
    obtain ⟨i, item, _, hitem, -⟩ := violates_list_iff.mp hrest
    simp at hitem
  · obtain rfl := eq_list_of_list hread
    exact standsFor_of_present hpresent

/-- Where a mapping may be absent, none of its fields has to be there. -/
lemma standsFor_defaultMapping {entries : Mapping} {path : String}
    {fields : List (SchemaField Schema)}
    (h : withDefault [] Scalar.mapping data name path = .ok entries)
    (hoptional : ∀ field ∈ fields, field.isRequired = false) :
    StandsFor data (.optional name (.record fields)) (.map entries) := by
  obtain ⟨habsent, rfl⟩ | ⟨value, hpresent, hread⟩ := present?_of_withDefault h
  · refine standsFor_of_absent habsent rfl (clean_record fun field hfield => ?_)
    exact not_fieldViolates_of_absent rfl (hoptional field hfield)
  · obtain rfl := eq_map_of_mapping hread
    exact standsFor_of_present hpresent

end Field

end FirewallPolicy
