import FirewallPolicy.Policy.Configuration
import Mathlib.Tactic.Common

/-!
# Schemas of policy documents

A schema says what a document has to look like, whatever the order in which a reader looks at it.

* `PathStep`, `placeText`: places inside a value, and how they are written.
* `Schema`: the shape of a value, down to the readers of single values.
* `Violates`: at which places a value breaks a schema, and how.
* `Violates.within`: such a place is inside the value, except that its last field may be absent.
-/

namespace FirewallPolicy

open FirewallPolicy.Scalar (Mapping)

/-! ## Places -/

/-- A step from a value to a part of it. -/
inductive PathStep where
  | key (name : String)
  | index (i : Nat)
  deriving DecidableEq, Repr

/-- A place in a document: the steps that lead to it. -/
abbrev Place := List PathStep

/-- The location one step below another. -/
def PathStep.below (path : String) : PathStep → String
  | .key name => Location.key path name
  | .index i => Location.index path i

/-- A place as it is written. -/
def placeText (place : Place) : String := place.foldl PathStep.below ""

@[simp] lemma placeText_nil : placeText [] = "" := rfl

@[simp] lemma placeText_key (place : Place) (name : String) :
    placeText (place ++ [.key name]) = Location.key (placeText place) name := by
  rw [placeText, List.foldl_append]
  rfl

@[simp] lemma placeText_index (place : Place) (i : Nat) :
    placeText (place ++ [.index i]) = Location.index (placeText place) i := by
  rw [placeText, List.foldl_append]
  rfl

/-- A place that is inside a value: its indexes are within the lists, and its keys within the
mappings, except that the last key need not be there. -/
inductive Within : Value → Place → Prop
  | here (value : Value) : Within value []
  | absent (entries : Mapping) (name : String) : Within (.map entries) [.key name]
  | field {entries : Mapping} {name : String} {value : Value} {place : Place}
      (h : Field.present? entries name = some value) (hin : Within value place) :
      Within (.map entries) (.key name :: place)
  | element {items : List Value} {i : Nat} {value : Value} {place : Place}
      (h : items[i]? = some value) (hin : Within value place) :
      Within (.list items) (.index i :: place)

/-! ## Schemas -/

/-- Why a value is refused. -/
inductive Refusal where
  | fault (f : Fault)
  /-- The value passes for a number and cannot be read as one, or it cannot be written. -/
  | numeral (cause : Text.NumeralError)

/-- Why a reader of single values refuses a value, if it does. -/
def refusal? {α : Type} (read : Field.Reader α) (value : Value) : Option Refusal :=
  match read value "" with
  | .ok _ => none
  | .error (.violation v) => some (.fault v.fault)
  | .error (.numeral cause) => some (.numeral cause)

/-- A field of a mapping, whose value has a shape. -/
structure SchemaField (Shape : Type) where
  name : String
  isRequired : Bool
  shape : Shape

/-- Reads a version: a number stands for its text, and anything else has to be a text. -/
def Scalar.version (value : Value) (path : String) : Reading String :=
  match value with
  | .int n => (Text.writeInt n).mapError .numeral
  | .float x => .ok (Decimal.text x)
  | value => Scalar.text value path

/-- The shape of a value. -/
inductive Schema where
  /-- A single value. -/
  | scalar (refusal? : Value → Option Refusal)
  /-- A mapping with fields, of which some may be absent; a field is absent if it is null. -/
  | record (fields : List (SchemaField Schema))
  /-- A list of values of one shape. -/
  | list (element : Schema)
  /-- A text of one shape, or something else of another. -/
  | textOr (text other : Schema)

/-- A value of any shape. -/
def Schema.unchecked : Schema := .scalar fun _ => none

/-- A field that has to be there. -/
def SchemaField.required (name : String) (shape : Schema) : SchemaField Schema :=
  ⟨name, true, shape⟩

/-- A field that may be absent. -/
def SchemaField.optional (name : String) (shape : Schema) : SchemaField Schema :=
  ⟨name, false, shape⟩

/-- The places at which a value breaks a schema, and how. -/
inductive Violates : Schema → Value → Place → Refusal → Prop
  | refused {refusal? : Value → Option Refusal} {value : Value} {refusal : Refusal}
      (h : refusal? value = some refusal) : Violates (.scalar refusal?) value [] refusal
  | notMapping {fields : List (SchemaField Schema)} {value : Value}
      (h : ∀ entries, value ≠ .map entries) :
      Violates (.record fields) value [] (.fault (.notMapping value.kind))
  | absent {fields : List (SchemaField Schema)} {entries : Mapping} {field : SchemaField Schema}
      (hfield : field ∈ fields) (hrequired : field.isRequired = true)
      (h : Field.present? entries field.name = none) :
      Violates (.record fields) (.map entries) [.key field.name] (.fault .required)
  | field {fields : List (SchemaField Schema)} {entries : Mapping} {field : SchemaField Schema}
      {value : Value} {place : Place} {refusal : Refusal} (hfield : field ∈ fields)
      (h : Field.present? entries field.name = some value)
      (hin : Violates field.shape value place refusal) :
      Violates (.record fields) (.map entries) (.key field.name :: place) refusal
  | notList {element : Schema} {value : Value} (h : ∀ items, value ≠ .list items) :
      Violates (.list element) value [] (.fault (.notList value.kind))
  | element {element : Schema} {items : List Value} {i : Nat} {value : Value} {place : Place}
      {refusal : Refusal} (h : items[i]? = some value)
      (hin : Violates element value place refusal) :
      Violates (.list element) (.list items) (.index i :: place) refusal
  | text {text other : Schema} {s : String} {place : Place} {refusal : Refusal}
      (hin : Violates text (.text s) place refusal) :
      Violates (.textOr text other) (.text s) place refusal
  | other {text other : Schema} {value : Value} {place : Place} {refusal : Refusal}
      (h : ∀ s, value ≠ .text s) (hin : Violates other value place refusal) :
      Violates (.textOr text other) value place refusal

/-- A violation is inside the value. -/
lemma Violates.within {schema : Schema} {value : Value} {place : Place} {refusal : Refusal}
    (h : Violates schema value place refusal) : Within value place := by
  induction h with
  | refused _ => exact .here _
  | notMapping _ => exact .here _
  | absent _ _ _ => exact .absent _ _
  | field _ h _ ih => exact .field h ih
  | notList _ => exact .here _
  | element h _ ih => exact .element h ih
  | text _ ih => exact ih
  | other _ _ ih => exact ih

/-! ## Schemas of the configurations -/

namespace Schema

/-- A word, of a limited length where there is a limit. -/
def token (limit : Option Int) : Schema := .scalar (refusal? (Scalar.token limit))

/-- A text that is not empty. -/
def plain : Schema := .scalar (refusal? Scalar.text)

/-- A port. -/
def port : Schema := .scalar (refusal? Scalar.port)

/-- A single address. -/
def address : Schema := .scalar (refusal? Scalar.address)

/-- An address or a network. -/
def subject : Schema := .scalar (refusal? Scalar.addressOrNetwork)

/-- A network. -/
def network : Schema := .scalar (refusal? Scalar.network)

/-- A network, or a mapping that describes one. -/
def entry : Schema :=
  .textOr network (.record [.required "value" network, .optional "description" plain])

/-- A version: a number or a text. -/
def version : Schema := .scalar (refusal? Scalar.version)

/-- The rules of one direction of an interface. -/
def chainRules : Schema := .record [.required "defaultAction" (token none)]

/-- An interface of the host. -/
def interface : Schema :=
  .record [
    .required "rules" (.record
      [.required "input" chainRules, .required "output" chainRules]),
    .required "name" (token (some ChainName.interfaceMaxLength)),
    .required "networks" (.list entry)]

/-- The configuration of the base chains. -/
def prepare : Schema :=
  .record [.required "network" (.record [.required "primaryInterfaces" (.list interface),
    .optional "trustedItems" (.list entry)])]

/-- The name of a service's chain, which has to leave room for a mark. -/
def chainName (mark : String) : Schema :=
  token (some (ChainName.maxLength - (ChainName.egress mark).length))

/-- The configuration of a service with items of one shape. -/
def items (item : Schema) (mark : String) : Schema :=
  .record [.required "network" (.record [.required "items" (.list item)]),
    .optional "chainName" (chainName mark)]

/-- A port of a service. -/
def serviceItem : Schema :=
  .record [.optional "sourceNetworks" (.list subject), .required "portNumber" port,
    .required "protocol" (token none), .optional "destinationNetwork" subject]

/-- The configuration of a service. -/
def service : Schema := items serviceItem ""

/-- A forwarding of a name service. -/
def dnsForward : Schema :=
  .record [.required "sourceLinkName" (token (some ChainName.interfaceMaxLength)),
    .required "sourceIpAddress" address, .required "destinationIpAddress" address,
    .required "destinationPortNumber" port, .optional "sourcePortNumber" port]

/-- The configuration of a name service. -/
def dns : Schema := items dnsForward ChainName.dnsMark

/-- The configuration of a blacklist. -/
def blacklist : Schema :=
  .record [.required "database" (.record [
    .required "connectionString" (.scalar (refusal? Scalar.connection)), .optional "table" plain,
    .optional "schema" plain])]

/-- A job of a host. -/
def job : Schema := .record [.required "name" plain, .required "configuration" (.record [])]

/-- A host. -/
def host : Schema := .record [.required "jobs" (.list job), .required "id" plain]

/-- A configuration document. -/
def configuration : Schema :=
  .record [.optional "global" (.record [.optional "network" (.record [
      .optional "trustedItems" (.list entry)])]),
    .required "configurations" (.list host), .required "version" version,
    .required "fileVersion" version]

end Schema

/-! ## Violations of the parts -/

/-- A field of a mapping that breaks its schema. -/
def FieldViolates (entries : Mapping) (field : SchemaField Schema) (place : Place)
    (refusal : Refusal) : Prop :=
  match Field.present? entries field.name with
  | none => field.isRequired = true ∧ place = [.key field.name] ∧ refusal = .fault .required
  | some value => ∃ rest, place = .key field.name :: rest ∧ Violates field.shape value rest refusal

section

variable {place : Place} {refusal : Refusal}

@[simp] lemma violates_scalar_iff {read : Value → Option Refusal} {value : Value} :
    Violates (.scalar read) value place refusal ↔ place = [] ∧ read value = some refusal := by
  constructor
  · intro h
    cases h with
    | refused h => exact ⟨rfl, h⟩
  · rintro ⟨rfl, h⟩
    exact .refused h

/-- A mapping breaks a schema where one of its fields does. -/
lemma violates_record_iff {fields : List (SchemaField Schema)} {entries : Mapping} :
    Violates (.record fields) (.map entries) place refusal ↔
      ∃ field ∈ fields, FieldViolates entries field place refusal := by
  constructor
  · intro h
    cases h with
    | notMapping h => exact absurd rfl (h entries)
    | absent hfield hrequired h => exact ⟨_, hfield, by simp [FieldViolates, hrequired, h]⟩
    | field hfield h hin => exact ⟨_, hfield, by simp [FieldViolates, h, hin]⟩
  · rintro ⟨field, hfield, h⟩
    unfold FieldViolates at h
    split at h
    · rename_i habsent
      obtain ⟨hrequired, rfl, rfl⟩ := h
      exact .absent hfield hrequired habsent
    · rename_i value hpresent
      obtain ⟨rest, rfl, hin⟩ := h
      exact .field hfield hpresent hin

/-- A list breaks a schema where one of its elements does. -/
lemma violates_list_iff {element : Schema} {items : List Value} :
    Violates (.list element) (.list items) place refusal ↔
      ∃ i value rest, items[i]? = some value ∧ place = .index i :: rest ∧
        Violates element value rest refusal := by
  constructor
  · intro h
    cases h with
    | notList h => exact absurd rfl (h items)
    | element h hin => exact ⟨_, _, _, h, rfl, hin⟩
  · rintro ⟨i, value, rest, h, rfl, hin⟩
    exact .element h hin

end

end FirewallPolicy
