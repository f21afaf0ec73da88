import FirewallPolicy.Policy.ConfigurationFile
import FirewallPolicy.Proofs.Policy.DocumentLapses
import FirewallPolicy.Proofs.Text.Encoded
import FirewallPolicy.Proofs.Yaml.Construction
import FirewallPolicy.Proofs.Yaml.NodeFaults
import Mathlib.Tactic.Common

/-!
# The errors of configuration files

Loading a configuration file gives a configuration or a violation, unless an escape stands for no
character, or a single value of the document or a version has no value.

* `LoadError.IsViolation`: the errors that are reported as violations.
* `EscapesBeyond`, `ScalarFails`, `DocumentLapses`, `NoVerdict`: the bytes that end in another way.
* `load_answers_iff`: there are no other bytes that do.
-/

namespace FirewallPolicy

open FirewallPolicy.Files (FileSystem Path)
open FirewallPolicy.Yaml (NodeId Stage Token YamlFault documentOf graphOf tokensOf)

/-- The errors that are reported as violations: the bytes are no UTF-8, the text is no YAML, or the
document breaks the rules of configurations. -/
def LoadError.IsViolation : LoadError → Prop
  | .encoding _ _ | .malformed _ _ | .policy (.violation _) => True
  | _ => False

/-- Some tokens end at an escape for a number that is no character, and nothing in front of it makes
the text no YAML. -/
def EscapesBeyond (ts : List Token) : Prop :=
  ∃ n front, 0x10FFFF < n ∧ ts = front ++ [.bad (.codePoint n)] ∧
    graphOf ts = .error (.codePoint n)

/-- Some tokens make a document, and while its values are made a single value comes up that cannot
be. -/
def ScalarFails (ts : List Token) : Prop :=
  ∃ g st n fault, graphOf ts = .ok (some g) ∧ (Stage.start g).Reaches st ∧
    Stage.MeetsFault st n fault ∧ fault.isMalformed = false

/-- The bytes for which neither a configuration nor a violation comes out. -/
def NoVerdict (bytes : List UInt8) : Prop :=
  EscapesBeyond (scanned bytes) ∨
    (∃ text, Text.decodeFile bytes = .ok text) ∧ (ScalarFails (scanned bytes) ∨
      ∃ value, documentOf (scanned bytes) = .ok value ∧ DocumentLapses value)

lemma endsLexically_scanned (bytes : List UInt8) : Yaml.Lexer.EndsLexically (scanned bytes) := by
  unfold scanned
  split
  · exact Yaml.endsLexically_tokensOf _ _
  · exact Yaml.endsLexically_tokensOf _ _

section

variable {ts : List Token} (hends : Yaml.Lexer.EndsLexically ts)

include hends

/-- The nodes of some tokens fail at an escape just if the tokens end there. -/
lemma escape_iff : (∃ n, graphOf ts = .error (.codePoint n)) ↔ EscapesBeyond ts := by
  constructor
  · rintro ⟨n, hgraph⟩
    obtain ⟨m, front, hfault, hm, htokens⟩ := Yaml.codePoint_of_graphOf hends hgraph rfl
    cases hfault
    exact ⟨n, front, hm, htokens, hgraph⟩
  · rintro ⟨n, front, -, -, hgraph⟩
    exact ⟨n, hgraph⟩

/-- A document is refused for a fault that does not make it no YAML just if an escape or a single
value is to blame. -/
lemma scalarFault_iff : (∃ e, documentOf ts = .error e ∧ e.isMalformed = false) ↔
    EscapesBeyond ts ∨ ScalarFails ts := by
  match hgraph : graphOf ts with
  | .error cause =>
    have hdocument : documentOf ts = .error cause := by
      rw [documentOf, hgraph]
      rfl
    have hnone : ¬ ScalarFails ts := fun ⟨_, _, _, _, h, _⟩ => by
      rw [hgraph] at h
      cases h
    rw [hdocument, or_iff_left hnone, ← escape_iff hends]
    constructor
    · rintro ⟨e, he, hmalformed⟩
      cases he
      obtain ⟨n, front, rfl, -, -⟩ := Yaml.codePoint_of_graphOf hends hgraph hmalformed
      exact ⟨n, hgraph⟩
    · rintro ⟨n, h⟩
      rw [hgraph] at h
      cases h
      exact ⟨_, rfl, rfl⟩
  | .ok none =>
    have hdocument : documentOf ts = .ok .null := by
      rw [documentOf, hgraph]
      rfl
    have hno : ¬ (EscapesBeyond ts ∨ ScalarFails ts) := by
      rintro (⟨_, _, -, -, h⟩ | ⟨_, _, _, _, h, -⟩) <;> rw [hgraph] at h <;> cases h
    rw [hdocument]
    exact iff_of_false nofun hno
  | .ok (some g) =>
    have hdocument : documentOf ts = g.value := by
      rw [documentOf, hgraph]
      rfl
    have hnone : ¬ EscapesBeyond ts := fun ⟨_, _, _, _, h⟩ => by
      rw [hgraph] at h
      cases h
    rw [hdocument, or_iff_right hnone]
    constructor
    · rintro ⟨e, he, hmalformed⟩
      obtain ⟨st, n, hreach, hmeets⟩ := (Yaml.value_eq_error_iff g hmalformed).mp he
      exact ⟨g, st, n, e, hgraph, hreach, hmeets, hmalformed⟩
    · rintro ⟨g', st, n, e, h, hreach, hmeets, hmalformed⟩
      rw [hgraph] at h
      cases h
      exact ⟨e, (Yaml.value_eq_error_iff g hmalformed).mpr ⟨st, n, hreach, hmeets⟩, hmalformed⟩

end

/-- A result that is a configuration or a violation. -/
def Answered (result : Except LoadError Configuration) : Prop :=
  ∀ e, result = .error e → e.IsViolation

@[simp] lemma answered_error_iff {e : LoadError} : Answered (.error e) ↔ e.IsViolation := by
  constructor
  · exact fun h => h e rfl
  · intro h e' he'
    cases he'
    exact h

/-- A document that is read comes to an answer unless a version cannot be written. -/
lemma answered_read_iff (value : Value) :
    Answered ((Configuration.read value).mapError .policy) ↔ ¬ DocumentLapses value := by
  rw [← lapses_configuration_iff]
  match Configuration.read value with
  | .ok configuration => exact iff_of_true nofun (not_lapses_ok _)
  | .error (.violation v) =>
    exact iff_of_true (answered_error_iff.mpr trivial) (not_lapses_refuse v.path v.fault)
  | .error (.numeral cause) =>
    exact iff_of_false (mt answered_error_iff.mp id) (not_not.mpr (lapses_error cause))

/-- The bytes of a file come to an answer in all other cases. -/
lemma answered_bytes_iff (path : Path) (bytes : List UInt8) :
    Answered (readConfiguration path bytes) ↔ ¬ NoVerdict bytes := by
  have hends := endsLexically_scanned bytes
  match htext : Text.decodeFile bytes with
  | .error e =>
    have hverdict : NoVerdict bytes ↔ ∃ n, graphOf (scanned bytes) = .error (.codePoint n) := by
      simp [NoVerdict, htext, escape_iff hends]
    rw [hverdict, readConfiguration, readDocument, htext]
    dsimp only
    split
    · rename_i n hgraph
      exact iff_of_false (mt answered_error_iff.mp id) (not_not.mpr ⟨n, hgraph⟩)
    · rename_i hgraph
      exact iff_of_true (answered_error_iff.mpr trivial) fun ⟨n, h⟩ => hgraph n h
  | .ok text =>
    have hverdict : NoVerdict bytes ↔
        (∃ e, documentOf (scanned bytes) = .error e ∧ e.isMalformed = false) ∨
          ∃ value, documentOf (scanned bytes) = .ok value ∧ DocumentLapses value := by
      simp [NoVerdict, htext, scalarFault_iff hends, or_assoc]
    rw [hverdict]
    match hdocument : documentOf (scanned bytes) with
    | .ok value =>
      have hread : readConfiguration path bytes =
          (Configuration.read value).mapError .policy := by
        rw [readConfiguration, readDocument, htext]
        dsimp only
        rw [hdocument]
        rfl
      rw [hread, answered_read_iff]
      simp
    | .error e =>
      have hread : readConfiguration path bytes =
          .error (if e.isMalformed then .malformed path e else .scalar e) := by
        rw [readConfiguration, readDocument, htext]
        dsimp only
        rw [hdocument]
        rfl
      rw [hread, answered_error_iff]
      cases hmalformed : e.isMalformed with
      | true => simp [LoadError.IsViolation, hmalformed]
      | false => simp [LoadError.IsViolation, hmalformed]

/-- A document whose version is written like a date, in a month that there is not. -/
def misdatedText : List Char := "version: 2001-13-01\n".toList

/-- The tokens of the misdated document. -/
def misdatedTokens : List Token :=
  [.blockMappingStart, .key, .scalar "version" true, .value, .scalar "2001-13-01" true, .blockEnd,
    .streamEnd]

/-- The nodes of the misdated document. -/
def misdatedGraph : Yaml.Graph where
  nodes := #[⟨Yaml.mapTag, .mapping [(1, 2)]⟩, ⟨Yaml.strTag, .single "version"⟩,
    ⟨Yaml.timestampTag, .single "2001-13-01"⟩]
  root := 0

/-- A directory that holds the misdated document alone. -/
def misdatedFiles : FileSystem where
  entries := [(["config.yml"], .file (Text.encodeUtf8 misdatedText) 0o644)]

end FirewallPolicy
