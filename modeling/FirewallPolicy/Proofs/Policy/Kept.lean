import FirewallPolicy.Proofs.Policy.Validation

/-!
# What is kept of a document

A schema keeps of a document what can make a difference to a reader: of a mapping only the fields
that it names and that are there.

* `Schema.keep`: what a schema keeps of a value.
* `Keeps`: a reader gives of what is kept what it gives of the whole value, up to what was dropped.
* `readsKept_interface`, `read_keep_prepare` and their like: this is so for every reader of a
  configuration, or of a part of one.
-/

namespace FirewallPolicy

open FirewallPolicy.Scalar (Mapping)

/-! ## What is kept -/

mutual

/-- What a schema keeps of a value: of a mapping the fields that are there, in the order of the
schema.  A mapping of which the schema names no field is kept as a whole. -/
def Schema.keep : Schema → Value → Value
  | .scalar _, value => value
  | .record [], value => value
  | .record (field :: fields), value =>
    match value with
    | .map entries => .map (keepFields (field :: fields) entries)
    | value => value
  | .list element, value =>
    match value with
    | .list items => .list (items.map (Schema.keep element))
    | value => value
  | .textOr text other, value =>
    match value with
    | .text s => Schema.keep text (.text s)
    | value => Schema.keep other value

/-- The fields of a mapping that are there. -/
def keepFields : List (SchemaField Schema) → Mapping → Mapping
  | [], _ => []
  | field :: fields, entries => keepField field entries ++ keepFields fields entries

/-- A field of a mapping, if it is there. -/
def keepField : SchemaField Schema → Mapping → Mapping
  | ⟨name, _, shape⟩, entries =>
    match Field.present? entries name with
    | none => []
    | some value => [(.text name, Schema.keep shape value)]

end

section

variable {fields : List (SchemaField Schema)} {field : SchemaField Schema} {entries : Mapping}
  {key value : Value} {name : String}

/-! ## Lookups -/

lemma lookup?_append (before after : Mapping) (name : String) :
    Value.lookup? (before ++ after) name =
      (Value.lookup? before name).or (Value.lookup? after name) := by
  rw [Value.lookup?, List.find?_append, Option.map_or]
  rfl

lemma lookup?_cons_self (name : String) (value : Value) (after : Mapping) :
    Value.lookup? ((.text name, value) :: after) name = some value := by
  simp [Value.lookup?]

lemma lookup?_cons_of_ne (h : key ≠ .text name) (value : Value) (after : Mapping) :
    Value.lookup? ((key, value) :: after) name = Value.lookup? after name := by
  rw [Value.lookup?, List.find?_cons_of_neg, ← Value.lookup?]
  cases key with
  | text s =>
    rw [beq_iff_eq]
    rintro rfl
    exact h rfl
  | _ => simp

lemma present?_of_lookup? (h : Value.lookup? entries name = some value) (hvalue : value ≠ .null) :
    Field.present? entries name = some value := by
  rw [Field.present?, h]
  cases value with
  | null => exact absurd rfl hvalue
  | _ => rfl

lemma ne_null_of_present? (h : Field.present? entries name = some value) : value ≠ .null := by
  rintro rfl
  unfold Field.present? at h
  split at h
  · cases h
  · rename_i hnot
    exact hnot h

/-- Nothing is kept as null that was not null. -/
lemma Schema.keep_ne_null : ∀ (schema : Schema) {value : Value}, value ≠ .null →
    schema.keep value ≠ .null
  | .scalar _, _, h => h
  | .record [], _, h => h
  | .record (_ :: _), value, h => by cases value <;> simp_all [Schema.keep]
  | .list _, value, h => by cases value <;> simp_all [Schema.keep]
  | .textOr text other, value, h => by
    cases value with
    | text s => exact Schema.keep_ne_null text h
    | _ => exact Schema.keep_ne_null other h

lemma lookup?_keepField_of_ne (h : field.name ≠ name) (entries : Mapping) :
    Value.lookup? (keepField field entries) name = none := by
  obtain ⟨fieldName, isRequired, shape⟩ := field
  rw [keepField]
  split
  · rfl
  · exact lookup?_cons_of_ne (fun heq => h (Value.text.inj heq)) _ _

lemma lookup?_keepField_self (field : SchemaField Schema) (entries : Mapping) :
    Value.lookup? (keepField field entries) field.name =
      (Field.present? entries field.name).map field.shape.keep := by
  obtain ⟨name, isRequired, shape⟩ := field
  rw [keepField]
  split
  · rename_i hpresent
    rw [hpresent]
    rfl
  · rename_i value hpresent
    rw [hpresent]
    exact lookup?_cons_self _ _ _

lemma lookup?_keepFields_of_notMem (h : name ∉ fields.map (·.name)) (entries : Mapping) :
    Value.lookup? (keepFields fields entries) name = none := by
  induction fields with
  | nil => rfl
  | cons field fields ih =>
    rw [List.map_cons, List.mem_cons, not_or] at h
    rw [keepFields, lookup?_append, lookup?_keepField_of_ne (Ne.symm h.1), ih h.2]
    rfl

/-- What is kept of the fields of a mapping is found under their names, if these are distinct. -/
lemma lookup?_keepFields (hnames : (fields.map (·.name)).Nodup) (hfield : field ∈ fields)
    (entries : Mapping) : Value.lookup? (keepFields fields entries) field.name =
      (Field.present? entries field.name).map field.shape.keep := by
  induction fields with
  | nil => cases hfield
  | cons first fields ih =>
    rw [List.map_cons, List.nodup_cons] at hnames
    rw [keepFields, lookup?_append]
    rcases List.mem_cons.mp hfield with rfl | hfield
    · rw [lookup?_keepField_self, lookup?_keepFields_of_notMem hnames.1, Option.or_none]
    · have hne : first.name ≠ field.name := fun h =>
        hnames.1 (h ▸ List.mem_map_of_mem hfield)
      rw [lookup?_keepField_of_ne hne, ih hnames.2 hfield, Option.none_or]

lemma present?_keepFields (hnames : (fields.map (·.name)).Nodup) (hfield : field ∈ fields)
    (entries : Mapping) : Field.present? (keepFields fields entries) field.name =
      (Field.present? entries field.name).map field.shape.keep := by
  have hlookup := lookup?_keepFields hnames hfield entries
  cases hpresent : Field.present? entries field.name with
  | none =>
    rw [hpresent] at hlookup
    rw [Field.present?, hlookup]
    rfl
  | some value =>
    rw [hpresent] at hlookup
    exact present?_of_lookup? hlookup (field.shape.keep_ne_null (ne_null_of_present? hpresent))

end

/-! ## Readers -/

section

variable {α β : Type} {read : Field.Reader α} {f : α → α}

/-- A reader gives of what a schema keeps what it gives of the whole value, up to `f`, which tells
what was dropped. -/
def Keeps (read : Field.Reader α) (shape : Schema) (f : α → α) : Prop :=
  ∀ value path, read (shape.keep value) path = f <$> read value path

/-- A reader gives of what a schema keeps just what it gives of the whole value. -/
def ReadsKept (read : Field.Reader α) (shape : Schema) : Prop :=
  ∀ value path, read (shape.keep value) path = read value path

lemma ReadsKept.keeps {shape : Schema} (h : ReadsKept read shape) : Keeps read shape id := by
  intro value path
  rw [h value path, id_map]

/-- Readings in sequence, of which the first gives the same up to what was dropped. -/
lemma bind_kept {reading reading' : Reading α} {rest rest' : α → Reading β}
    (h : reading' = f <$> reading) (hrest : ∀ a, rest' (f a) = rest a) :
    reading' >>= rest' = reading >>= rest := by
  rw [h, bind_map_left]
  exact bind_congr hrest

/-- Readings in sequence, of which the first gives the same. -/
lemma bind_same {reading reading' : Reading α} {rest rest' : α → Reading β}
    (h : reading' = reading) (hrest : ∀ a, rest' a = rest a) :
    reading' >>= rest' = reading >>= rest := by
  rw [h]
  exact bind_congr hrest

lemma readsKept_scalar (read : Field.Reader α) (check : Value → Option Refusal) :
    ReadsKept read (.scalar check) := fun _ _ => rfl

lemma keeps_scalar (read : Field.Reader α) (check : Value → Option Refusal) :
    Keeps read (.scalar check) id := (readsKept_scalar read check).keeps

lemma keeps_mapping (field : SchemaField Schema) (fields : List (SchemaField Schema)) :
    Keeps Scalar.mapping (.record (field :: fields)) (keepFields (field :: fields)) := by
  intro value path
  cases value <;> rfl

lemma keeps_list (element : Schema) :
    Keeps Scalar.list (.list element) (List.map element.keep) := by
  intro value path
  cases value <;> rfl

variable {fields : List (SchemaField Schema)} {field : SchemaField Schema} {entries : Mapping}

lemma Field.optional_keepFields (hnames : (fields.map (·.name)).Nodup) (hfield : field ∈ fields)
    (h : Keeps read field.shape f) (entries : Mapping) (path : String) :
    Field.optional read (keepFields fields entries) field.name path =
      Option.map f <$> Field.optional read entries field.name path := by
  rw [Field.optional, Field.optional, present?_keepFields hnames hfield]
  cases Field.present? entries field.name with
  | none => rfl
  | some value =>
    rw [Option.map_some]
    dsimp only
    rw [h value]
    cases read value (Location.key path field.name) <;> rfl

lemma Field.required_keepFields (hnames : (fields.map (·.name)).Nodup) (hfield : field ∈ fields)
    (h : Keeps read field.shape f) (entries : Mapping) (path : String) :
    Field.required read (keepFields fields entries) field.name path =
      f <$> Field.required read entries field.name path := by
  rw [Field.required, Field.required, present?_keepFields hnames hfield]
  cases Field.present? entries field.name with
  | none => rfl
  | some value => exact h value _

lemma Field.withDefault_keepFields (hnames : (fields.map (·.name)).Nodup) (hfield : field ∈ fields)
    (h : Keeps read field.shape f) {default : α} (hdefault : f default = default)
    (entries : Mapping) (path : String) :
    Field.withDefault default read (keepFields fields entries) field.name path =
      f <$> Field.withDefault default read entries field.name path := by
  rw [Field.withDefault, Field.withDefault, Field.optional_keepFields hnames hfield h]
  cases Field.optional read entries field.name path with
  | error e => rfl
  | ok found =>
    cases found with
    | none => exact congrArg Except.ok hdefault.symm
    | some a => rfl

/-- The elements of a list are read one by one. -/
lemma Field.elements_map {γ : Type} {read : γ → String → Reading α} {g : γ → γ} {f : α → α}
    (h : ∀ item path, read (g item) path = f <$> read item path) (items : List γ) (path : String) :
    Field.elements read (items.map g) path = List.map f <$> Field.elements read items path := by
  have hfrom : ∀ start, Field.elementsFrom read path start (items.map g) =
      List.map f <$> Field.elementsFrom read path start items := by
    induction items with
    | nil => exact fun _ => rfl
    | cons item items ih =>
      intro start
      rw [List.map_cons, Field.elementsFrom, Field.elementsFrom, h, ih]
      cases read item (Location.index path start) with
      | error e => rfl
      | ok a => cases Field.elementsFrom read path (start + 1) items <;> rfl
  exact hfrom 0

lemma Field.elements_same {γ : Type} {read : γ → String → Reading α} {g : γ → γ}
    (h : ∀ item path, read (g item) path = read item path) (items : List γ) (path : String) :
    Field.elements read (items.map g) path = Field.elements read items path := by
  have hread : (fun item => read (g item)) = read := funext fun item => funext (h item)
  rw [Field.elements_of_map, hread]

end

/-! ## Entries and interfaces -/

lemma readsKept_entry : ReadsKept NetworkEntry.read .entry := by
  intro value path
  cases value with
  | map entries =>
    refine bind_kept (keeps_mapping _ _ (.map entries) path) fun data => ?_
    refine bind_kept (Field.required_keepFields (by decide) (.head _)
      (keeps_scalar _ _) data path) fun value => ?_
    exact bind_kept (Field.withDefault_keepFields (by decide) (.tail _ (.head _))
      (keeps_scalar _ _) rfl data path) fun _ => rfl
  | _ => rfl

lemma readAll_keep (values : List Value) (path : String) :
    NetworkEntry.readAll (values.map Schema.entry.keep : List Value) path =
      NetworkEntry.readAll values path := by
  rw [NetworkEntry.readAll_values, NetworkEntry.readAll_values]
  exact Field.elements_same readsKept_entry values path

lemma readsKept_interface : ReadsKept PrimaryInterface.read .interface := by
  intro value path
  refine bind_kept (keeps_mapping _ _ value path) fun data => ?_
  refine bind_kept (Field.required_keepFields (by decide) (.head _) (keeps_mapping _ _) data path)
    fun rules => ?_
  refine bind_kept (Field.required_keepFields (by decide) (.head _) (keeps_mapping _ _) rules _)
    fun input => ?_
  refine bind_kept (Field.required_keepFields (by decide) (.tail _ (.head _)) (keeps_mapping _ _)
    rules _) fun output => ?_
  refine bind_kept (Field.required_keepFields (by decide) (.tail _ (.head _))
    (keeps_scalar _ _) data path) fun name => ?_
  refine bind_kept (Field.required_keepFields (by decide) (.tail _ (.tail _ (.head _)))
    (keeps_list _) data path) fun networks => ?_
  refine bind_same (readAll_keep networks _) fun networks => ?_
  refine bind_kept (Field.required_keepFields (by decide) (.head _)
    (keeps_scalar _ _) input _) fun inputAction => ?_
  exact bind_kept (Field.required_keepFields (by decide) (.head _)
    (keeps_scalar _ _) output _) fun _ => rfl

/-! ## Configurations of the jobs -/

lemma read_keep_prepare (value : Value) (global : List Value) :
    PrepareConfig.read (Schema.prepare.keep value) (global.map Schema.entry.keep : List Value) =
      PrepareConfig.read value global := by
  refine bind_kept (keeps_mapping _ _ value "") fun data => ?_
  refine bind_kept (Field.required_keepFields (by decide) (.head _) (keeps_mapping _ _) data "")
    fun network => ?_
  refine bind_kept (Field.required_keepFields (by decide) (.head _) (keeps_list _) network _)
    fun interfaces => ?_
  refine bind_kept (Field.withDefault_keepFields (by decide) (.tail _ (.head _)) (keeps_list _) rfl
    network _) fun trusted => ?_
  refine bind_same (readAll_keep trusted _) fun _ => ?_
  refine bind_same (Field.elements_same readsKept_interface interfaces _) fun _ => ?_
  exact bind_same (readAll_keep global _) fun _ => rfl

/-- The configuration of a service of either kind: its items and the name of its chain. -/
lemma read_keep_items {α γ : Type} {read : Mapping → String → Reading α}
    {field : SchemaField Schema} {fields : List (SchemaField Schema)}
    (hitem : ∀ data path, read (keepFields (field :: fields) data) path = read data path)
    (default mark : String) (make : List α → String → γ) (value : Value) :
    (do let data ← Scalar.mapping ((Schema.items (.record (field :: fields)) mark).keep value) ""
        let items ← readItems read data
        let chainName ← readChainName default mark data
        return make items chainName) =
      (do let data ← Scalar.mapping value ""
          let items ← readItems read data
          let chainName ← readChainName default mark data
          return make items chainName : Reading γ) := by
  refine bind_kept (keeps_mapping _ _ value "") fun data => ?_
  -- The schema of the items is open here, so that of the whole is not a closed term.
  have hnames : ["network", "chainName"].Nodup := by decide
  have hsingle : ["items"].Nodup := by decide
  have hitems : readItems read (keepFields [.required "network" (.record [.required "items"
      (.list (.record (field :: fields)))]), .optional "chainName" (.chainName mark)] data) =
      readItems read data := by
    refine bind_kept (Field.required_keepFields (by exact hnames) (.head _) (keeps_mapping _ _)
      data "") fun network => ?_
    refine bind_kept (Field.required_keepFields (by exact hsingle) (.head _) (keeps_list _)
      network _) fun items => ?_
    refine bind_kept (Field.elements_map (keeps_mapping _ _) items _) fun mappings => ?_
    exact Field.elements_same hitem mappings _
  refine bind_same hitems fun items => ?_
  exact bind_kept (Field.withDefault_keepFields (by exact hnames) (.tail _ (.head _))
    (keeps_scalar _ _) rfl data "") fun _ => rfl

lemma read_keep_service (value : Value) :
    ServiceConfig.read (Schema.service.keep value) = ServiceConfig.read value := by
  refine read_keep_items (fun data path => ?_) "genericServiceName" ""
    (fun items chainName => ServiceConfig.mk chainName items) value
  refine bind_kept (Field.withDefault_keepFields (by decide) (.head _) (keeps_list _) rfl data path)
    fun sources => ?_
  refine bind_kept (Field.required_keepFields (by decide) (.tail _ (.head _))
    (keeps_scalar _ _) data path) fun _ => ?_
  refine bind_kept (Field.required_keepFields (by decide) (.tail _ (.tail _ (.head _)))
    (keeps_scalar _ _) data path) fun _ => ?_
  refine bind_same (Field.elements_same (readsKept_scalar _ _) sources _) fun _ => ?_
  refine bind_kept (f := Option.map id) (Field.optional_keepFields (by decide)
    (.tail _ (.tail _ (.tail _ (.head _)))) (keeps_scalar _ _) data path) fun _ => ?_
  rw [Option.map_id_fun]
  rfl

lemma read_keep_dns (value : Value) :
    DnsConfig.read (Schema.dns.keep value) = DnsConfig.read value := by
  refine read_keep_items (fun data path => ?_) "dockerDnsService" ChainName.dnsMark
    (fun items chainName => DnsConfig.mk chainName items) value
  refine bind_kept (Field.required_keepFields (by decide) (.head _)
    (keeps_scalar _ _) data path) fun _ => ?_
  refine bind_kept (Field.required_keepFields (by decide) (.tail _ (.head _))
    (keeps_scalar _ _) data path) fun _ => ?_
  refine bind_kept (Field.required_keepFields (by decide) (.tail _ (.tail _ (.head _)))
    (keeps_scalar _ _) data path) fun _ => ?_
  refine bind_kept (Field.required_keepFields (by decide) (.tail _ (.tail _ (.tail _ (.head _))))
    (keeps_scalar _ _) data path) fun _ => ?_
  exact bind_kept (Field.withDefault_keepFields (by decide)
    (.tail _ (.tail _ (.tail _ (.tail _ (.head _))))) (keeps_scalar _ _) rfl data path)
    fun _ => rfl

lemma read_keep_blacklist (value : Value) :
    BlacklistConfig.read (Schema.blacklist.keep value) = BlacklistConfig.read value := by
  refine bind_kept (keeps_mapping _ _ value "") fun data => ?_
  refine bind_kept (Field.required_keepFields (by decide) (.head _) (keeps_mapping _ _) data "")
    fun database => ?_
  refine bind_kept (Field.required_keepFields (by decide) (.head _)
    (keeps_scalar _ _) database _) fun _ => ?_
  refine bind_kept (Field.withDefault_keepFields (by decide) (.tail _ (.head _))
    (keeps_scalar _ _) rfl database _) fun _ => ?_
  exact bind_kept (Field.withDefault_keepFields (by decide) (.tail _ (.tail _ (.head _)))
    (keeps_scalar _ _) rfl database _) fun _ => rfl

/-! ## Configuration documents -/

lemma readsKept_job : ReadsKept JobEntry.read .job := by
  intro value path
  refine bind_kept (keeps_mapping _ _ value path) fun data => ?_
  refine bind_kept (Field.required_keepFields (by decide) (.head _)
    (keeps_scalar _ _) data path) fun _ => ?_
  -- The configuration of the job is kept as a whole.
  have hwhole : ReadsKept Scalar.mapping (.record []) := fun _ _ => rfl
  exact bind_kept (Field.required_keepFields (by decide) (.tail _ (.head _)) hwhole.keeps data path)
    fun _ => rfl

lemma readsKept_host : ReadsKept Host.read .host := by
  intro value path
  refine bind_kept (keeps_mapping _ _ value path) fun data => ?_
  refine bind_kept (Field.required_keepFields (by decide) (.head _) (keeps_list _) data path)
    fun jobs => ?_
  refine bind_same (Field.elements_same readsKept_job jobs _) fun _ => ?_
  exact bind_kept (Field.required_keepFields (by decide) (.tail _ (.head _))
    (keeps_scalar _ _) data path) fun _ => rfl

lemma read_keep_configuration (value : Value) :
    Configuration.read (Schema.configuration.keep value) = Configuration.read value := by
  simp only [Configuration.read, readVersion_eq]
  refine bind_kept (keeps_mapping _ _ value "") fun data => ?_
  refine bind_kept (Field.withDefault_keepFields (by decide) (.head _) (keeps_mapping _ _) rfl
    data "") fun global => ?_
  refine bind_kept (Field.withDefault_keepFields (by decide) (.head _) (keeps_mapping _ _) rfl
    global _) fun network => ?_
  refine bind_kept (Field.withDefault_keepFields (by decide) (.head _) (keeps_list _) rfl
    network _) fun trusted => ?_
  refine bind_kept (Field.required_keepFields (by decide) (.tail _ (.head _)) (keeps_list _) data
    "") fun hosts => ?_
  refine bind_same (Field.elements_same readsKept_host hosts _) fun _ => ?_
  refine bind_kept (Field.required_keepFields (by decide) (.tail _ (.tail _ (.head _)))
    (keeps_scalar _ _) data "") fun _ => ?_
  refine bind_kept (Field.required_keepFields (by decide) (.tail _ (.tail _ (.tail _ (.head _))))
    (keeps_scalar _ _) data "") fun _ => ?_
  exact bind_same (readAll_keep trusted _) fun _ => rfl

end FirewallPolicy
