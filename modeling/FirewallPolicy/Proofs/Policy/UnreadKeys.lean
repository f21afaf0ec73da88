import FirewallPolicy.Proofs.Policy.Kept
import Mathlib.Logic.Relation

/-!
# Keys that are not read

Documents that differ in keys that nobody reads, in the order of their keys, or in nulls are read
alike, wherever in the document this is.

* `Edit`: the single edits of this kind, down to any depth of a document.
* `Edit.keep_eq`: an edit changes nothing of what a schema keeps.
* `readings_eq_of_edits`: any number of such edits, back and forth, changes no reading.
-/

namespace FirewallPolicy

open FirewallPolicy.Scalar (Mapping)

/-! ## Edits -/

/-- The text of a key. -/
def Value.keyText? : Value → Option String
  | .text s => some s
  | _ => none

/-- A single edit in which entries of a mapping change places, or an entry comes in that is not read
or that is null, inside a document of a schema.  A mapping of which the schema names no field is
somebody else's, and is not edited. -/
inductive Edit : Schema → Value → Value → Prop
  /-- The entries of a mapping, whose keys are distinct, are put in another order. -/
  | reorder {fields : List (SchemaField Schema)} {entries entries' : Mapping} (hread : fields ≠ [])
      (hkeys : (entries.filterMap (·.1.keyText?)).Nodup) (hperm : entries.Perm entries') :
      Edit (.record fields) (.map entries) (.map entries')
  /-- An entry is added under a key that is not read. -/
  | addUnread {fields : List (SchemaField Schema)} {before after : Mapping} {key value : Value}
      (hread : fields ≠ []) (hkey : ∀ field ∈ fields, key ≠ .text field.name) :
      Edit (.record fields) (.map (before ++ after)) (.map (before ++ (key, value) :: after))
  /-- A null is added under a key that is read and not there. -/
  | addNull {fields : List (SchemaField Schema)} {before after : Mapping}
      {field : SchemaField Schema} (hfield : field ∈ fields)
      (habsent : Value.lookup? (before ++ after) field.name = none) :
      Edit (.record fields) (.map (before ++ after))
        (.map (before ++ (.text field.name, .null) :: after))
  /-- The value of a field is edited. -/
  | inField {fields : List (SchemaField Schema)} {before after : Mapping}
      {field : SchemaField Schema} {value value' : Value} (hfield : field ∈ fields)
      (honly : ∀ other ∈ fields, other.name = field.name → other = field)
      (hfirst : Value.lookup? before field.name = none) (hedit : Edit field.shape value value') :
      Edit (.record fields) (.map (before ++ (.text field.name, value) :: after))
        (.map (before ++ (.text field.name, value') :: after))
  /-- An element of a list is edited. -/
  | inElement {element : Schema} {before after : List Value} {value value' : Value}
      (hedit : Edit element value value') :
      Edit (.list element) (.list (before ++ value :: after)) (.list (before ++ value' :: after))
  /-- What stands in the place of a text is edited. -/
  | inOther {text other : Schema} {value value' : Value} (hedit : Edit other value value') :
      Edit (.textOr text other) value value'

section

variable {fields : List (SchemaField Schema)} {entries entries' before after : Mapping}
  {key value value' : Value} {name : String}

/-! ## Lookups -/

/-- An entry under another key changes no lookup. -/
lemma lookup?_insert_of_ne (h : key ≠ .text name) (before after : Mapping) (value : Value) :
    Value.lookup? (before ++ (key, value) :: after) name =
      Value.lookup? (before ++ after) name := by
  rw [lookup?_append, lookup?_append, lookup?_cons_of_ne h]

/-- Where keys are distinct, what is looked up is what stands under the key. -/
lemma lookup?_eq_some_iff (hkeys : (entries.filterMap (·.1.keyText?)).Nodup) :
    Value.lookup? entries name = some value ↔ (.text name, value) ∈ entries := by
  induction entries with
  | nil => simp [Value.lookup?]
  | cons entry rest ih =>
    obtain ⟨key, first⟩ := entry
    by_cases hkey : key = .text name
    · subst hkey
      have hcons : ((Value.text name, first) :: rest).filterMap (·.1.keyText?) =
          name :: rest.filterMap (·.1.keyText?) := rfl
      rw [hcons, List.nodup_cons] at hkeys
      rw [lookup?_cons_self, List.mem_cons, Option.some.injEq, Prod.mk.injEq, eq_comm]
      refine ⟨fun h => .inl ⟨rfl, h⟩, fun h => h.elim And.right fun hmem => ?_⟩
      -- The same key would stand there twice.
      have htwice : name ∈ rest.filterMap (·.1.keyText?) := List.mem_filterMap.mpr ⟨_, hmem, rfl⟩
      exact absurd htwice hkeys.1
    · have hrest : (rest.filterMap (·.1.keyText?)).Nodup :=
        hkeys.sublist ((List.sublist_cons_self _ _).filterMap _)
      rw [lookup?_cons_of_ne hkey, ih hrest, List.mem_cons, Prod.mk.injEq]
      exact ⟨.inr, fun h => h.elim (fun heq => absurd heq.1.symm hkey) id⟩

/-- Where keys are distinct, their order does not matter. -/
lemma lookup?_perm (hkeys : (entries.filterMap (·.1.keyText?)).Nodup) (h : entries.Perm entries')
    (name : String) : Value.lookup? entries name = Value.lookup? entries' name := by
  have hkeys' : (entries'.filterMap (·.1.keyText?)).Nodup :=
    (h.filterMap _).nodup_iff.mp hkeys
  ext value
  rw [lookup?_eq_some_iff hkeys, lookup?_eq_some_iff hkeys', h.mem_iff]

/-! ## Edits and what is read -/

lemma Schema.keep_textOr_of_ne {text other : Schema} (h : ∀ s, value ≠ .text s) :
    (Schema.textOr text other).keep value = other.keep value := by
  cases value with
  | text s => exact absurd rfl (h s)
  | _ => rfl

/-- Only mappings and lists are edited. -/
lemma Edit.isNode {schema : Schema} (h : Edit schema value value') :
    (value ≠ .null ∧ ∀ s, value ≠ .text s) ∧ value' ≠ .null ∧ ∀ s, value' ≠ .text s := by
  induction h with
  | inOther _ ih => exact ih
  | _ => simp

lemma keepField_congr {field : SchemaField Schema}
    (h : Value.lookup? entries field.name = Value.lookup? entries' field.name) :
    keepField field entries = keepField field entries' := by
  obtain ⟨name, isRequired, shape⟩ := field
  simp only [keepField, Field.present?, h]

lemma keepFields_congr (h : ∀ field ∈ fields, keepField field entries = keepField field entries') :
    keepFields fields entries = keepFields fields entries' := by
  induction fields with
  | nil => rfl
  | cons field fields ih =>
    rw [List.forall_mem_cons] at h
    rw [keepFields, keepFields, h.1, ih h.2]

lemma keepField_of_lookup? {field : SchemaField Schema}
    (h : Value.lookup? entries field.name = some value) (hvalue : value ≠ .null) :
    keepField field entries = [(.text field.name, field.shape.keep value)] := by
  obtain ⟨name, isRequired, shape⟩ := field
  simp only [keepField, present?_of_lookup? h hvalue]

/-- A field that is absent and one that is null are the same. -/
lemma keepField_eq_nil {field : SchemaField Schema}
    (h : Value.lookup? entries field.name = none ∨
      Value.lookup? entries field.name = some .null) : keepField field entries = [] := by
  obtain ⟨name, isRequired, shape⟩ := field
  rcases h with h | h <;> simp only [keepField, Field.present?, h]

lemma keep_record_congr (hread : fields ≠ [])
    (h : ∀ field ∈ fields, keepField field entries = keepField field entries') :
    (Schema.record fields).keep (.map entries) = (Schema.record fields).keep (.map entries') := by
  cases fields with
  | nil => exact absurd rfl hread
  | cons field fields =>
    simp only [Schema.keep]
    rw [keepFields_congr h]

/-- An edit changes nothing of what is read. -/
theorem Edit.keep_eq {schema : Schema} (h : Edit schema value value') :
    schema.keep value = schema.keep value' := by
  induction h with
  | reorder hread hkeys hperm =>
    exact keep_record_congr hread fun field _ => keepField_congr (lookup?_perm hkeys hperm _)
  | addUnread hread hkey =>
    exact keep_record_congr hread fun field hfield =>
      keepField_congr (lookup?_insert_of_ne (hkey field hfield) _ _ _).symm
  | @addNull fields before after field hfield habsent =>
    refine keep_record_congr (List.ne_nil_of_mem hfield) fun other hother => ?_
    by_cases hname : other.name = field.name
    · have hnull : Value.lookup? (before ++ (.text field.name, .null) :: after) field.name =
          some .null := by
        rw [lookup?_append] at habsent
        rw [lookup?_append, lookup?_cons_self, (Option.or_eq_none_iff.mp habsent).1, Option.none_or]
      rw [keepField_eq_nil (.inl (hname ▸ habsent)), keepField_eq_nil (.inr (hname ▸ hnull))]
    · refine keepField_congr (lookup?_insert_of_ne (fun h => hname ?_) _ _ _).symm
      exact (Value.text.inj h).symm
  | @inField fields before after field value value' hfield honly hfirst hedit ih =>
    refine keep_record_congr (List.ne_nil_of_mem hfield) fun other hother => ?_
    by_cases hname : other.name = field.name
    · obtain rfl := honly other hother hname
      have hfound : ∀ v, Value.lookup? (before ++ (.text other.name, v) :: after) other.name =
          some v := by
        intro v
        rw [lookup?_append, hfirst, Option.none_or, lookup?_cons_self]
      rw [keepField_of_lookup? (hfound value) hedit.isNode.1.1,
        keepField_of_lookup? (hfound value') hedit.isNode.2.1, ih]
    · have hkey : Value.text field.name ≠ .text other.name := fun h =>
        hname (Value.text.inj h).symm
      apply keepField_congr
      rw [lookup?_insert_of_ne hkey, lookup?_insert_of_ne hkey]
  | inElement hedit ih => simp only [Schema.keep, List.map_append, List.map_cons, ih]
  | inOther hedit ih =>
    obtain ⟨⟨-, htext⟩, -, htext'⟩ := hedit.isNode
    rw [Schema.keep_textOr_of_ne htext, Schema.keep_textOr_of_ne htext', ih]

/-- Edits change nothing of what is kept, however many they are. -/
lemma keep_eq_of_edits {schema : Schema} (h : Relation.EqvGen (Edit schema) value value') :
    schema.keep value = schema.keep value' := by
  induction h with
  | rel _ _ hedit => exact hedit.keep_eq
  | refl _ => rfl
  | symm _ _ _ ih => exact ih.symm
  | trans _ _ _ _ _ ih ih' => exact ih.trans ih'

end

/-! ## Readings -/

/-- Two documents of which one comes from the other by edits, back and forth, lead to the same
configuration or to the same error, for every kind of configuration. -/
theorem readings_eq_of_edits :
    (∀ value value' global global', Relation.EqvGen (Edit .prepare) value value' →
      Relation.EqvGen (Edit (.list .entry)) (.list global) (.list global') →
      PrepareConfig.read value global = PrepareConfig.read value' global') ∧
    (∀ value value', Relation.EqvGen (Edit .service) value value' →
      ServiceConfig.read value = ServiceConfig.read value') ∧
    (∀ value value', Relation.EqvGen (Edit .dns) value value' →
      DnsConfig.read value = DnsConfig.read value') ∧
    (∀ value value', Relation.EqvGen (Edit .blacklist) value value' →
      BlacklistConfig.read value = BlacklistConfig.read value') ∧
    (∀ value value', Relation.EqvGen (Edit .configuration) value value' →
      Configuration.read value = Configuration.read value') := by
  refine ⟨fun value value' global global' h hglobal => ?_, fun value value' h => ?_,
    fun value value' h => ?_, fun value value' h => ?_, fun value value' h => ?_⟩
  · have hkept : global.map Schema.entry.keep = global'.map Schema.entry.keep :=
      Value.list.inj (keep_eq_of_edits hglobal)
    rw [← read_keep_prepare, keep_eq_of_edits h, hkept, read_keep_prepare]
  · rw [← read_keep_service, keep_eq_of_edits h, read_keep_service]
  · rw [← read_keep_dns, keep_eq_of_edits h, read_keep_dns]
  · rw [← read_keep_blacklist, keep_eq_of_edits h, read_keep_blacklist]
  · rw [← read_keep_configuration, keep_eq_of_edits h, read_keep_configuration]

/-- A remark at the top and a null further down make no difference. -/
theorem annotated_blacklist_reads_alike :
    let url : Value × Value := (.text "connectionString", .text "postgres://host/db")
    let plain : Value := .map [(.text "database", .map [url])]
    let annotated : Value := .map [(.text "remark", .text "of last year"),
      (.text "database", .map [url, (.text "table", .null)])]
    Relation.EqvGen (Edit .blacklist) plain annotated ∧
      BlacklistConfig.read plain = BlacklistConfig.read annotated := by
  intro url plain annotated
  have hnull : Edit .blacklist plain
      (.map [(.text "database", .map [url, (.text "table", .null)])]) :=
    @Edit.inField _ [] _ _ _ _ (.head _) (by simp) rfl
      (@Edit.addNull _ [url] [] _ (.tail _ (.head _)) (by decide))
  have hremark : Edit .blacklist (.map [(.text "database", .map [url, (.text "table", .null)])])
      annotated :=
    @Edit.addUnread _ [] _ _ _ (by simp) (by simp [SchemaField.required])
  have h := Relation.EqvGen.trans _ _ _ (.rel _ _ hnull) (.rel _ _ hremark)
  exact ⟨h, readings_eq_of_edits.2.2.2.1 _ _ h⟩

end FirewallPolicy
