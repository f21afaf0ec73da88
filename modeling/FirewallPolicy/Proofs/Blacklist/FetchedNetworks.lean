import FirewallPolicy.Proofs.Blacklist.CanonicalForm

/-!
# Networks from a database

The values of a database are written as networks where they are fetched, and the job reads what was
written.  It makes no difference whether the job is given the values themselves.

* `readNetworks_texts`: networks are read back as they were written.
* `BlacklistSync.networksOfWritten_eq`: what comes of values that were written as networks before.
-/

namespace FirewallPolicy

open Address (Network)

namespace Blacklist

variable {values : List Value}

/-- Networks are read back as they were written. -/
theorem readNetworks_texts (networks : List Network) :
    readNetworks ((networks.map Network.text).map .text) = .ok networks := by
  induction networks with
  | nil => rfl
  | cons n networks ih =>
    have hn : network? (.text n.text) = some n :=
      network?_eq_some_iff.mpr (entryDenotes_text_iff.mpr rfl)
    simp only [List.map_cons, readNetworks, hn, ih, Except.map]

/-- Values are refused where they are written for the same cause as where they are brought into
one form: the first of them that denotes no network. -/
lemma refused_iff {cause : SourceError} :
    (writeNetworks values = .error cause ↔
      ∃ entry, IsFirstRefused values entry ∧ cause = .notNetwork entry) ∧
    (normalize values = .error cause ↔
      ∃ entry, IsFirstRefused values entry ∧ cause = .notNetwork entry) := by
  rw [← readNetworks_error_iff_isFirstRefused, writeNetworks, normalize]
  cases readNetworks values <;> simp [Except.map]

/-- Values that were written as networks are brought into the form of the values themselves. -/
lemma writeNetworks_bind_normalize (values : List Value) :
    (writeNetworks values >>= fun texts => normalize (texts.map .text)) = normalize values := by
  unfold writeNetworks
  cases hread : readNetworks values with
  | error cause =>
    rw [normalize, hread]
    rfl
  | ok networks =>
    show normalize ((networks.map Network.text).map .text) = normalize values
    rw [normalize, normalize, readNetworks_texts, hread]

/-- What is fetched from a table is what its values are written as. -/
lemma fetch_of_select {file : TableFile} {url table : String} {schema : Option String}
    {path : Option (List Char)} (hreach : reach url = .ok (.file path))
    (hselect : file.select? table schema = some values) :
    fetch (some file) url table schema = (writeNetworks values).mapError .source := by
  simp only [fetch, hreach, Option.bind_some, hselect]
  cases writeNetworks values <;> rfl

end Blacklist

namespace BlacklistSync

open Blacklist

/-- The networks that values are brought into after they have been written as networks. -/
def networksOfWritten (values : List Value) : Except JobError (List String) := do
  let texts ← (writeNetworks values).mapError entryError
  networksOf (texts.map .text)

/-- Values that were written as networks, by themselves or where they were fetched from a table, are
brought into what the values themselves are brought into.  Either way they are refused for the first
of them that denotes no network, if there is one. -/
theorem networksOfWritten_eq (values : List Value) :
    networksOfWritten values = networksOf values ∧
    (∀ cause, (writeNetworks values = .error cause ↔
        ∃ entry, IsFirstRefused values entry ∧ cause = .notNetwork entry) ∧
      (normalize values = .error cause ↔
        ∃ entry, IsFirstRefused values entry ∧ cause = .notNetwork entry)) ∧
    ∀ (file : TableFile) (url table : String) (schema : Option String) (path : Option (List Char)),
      reach url = .ok (.file path) → file.select? table schema = some values →
        (fetch (some file) url table schema >>= fun texts =>
            (normalize (texts.map .text)).mapError .source) =
          (normalize values).mapError .source := by
  have hmapError : ∀ f : SourceError → JobError,
      ((writeNetworks values).mapError f >>= fun texts =>
        (normalize (texts.map .text)).mapError f) = (normalize values).mapError f := by
    intro f
    rw [← writeNetworks_bind_normalize values]
    cases writeNetworks values <;> rfl
  refine ⟨hmapError entryError, fun cause => refused_iff, ?_⟩
  intro file url table schema path hreach hselect
  rw [fetch_of_select hreach hselect]
  exact hmapError .source

/-- A table of two networks, one of them with host bits, and of an entry that is no network but has
another version. -/
def mixedTable : TableFile :=
  ⟨"blacklist_networks", [(.text " 10.9.0.1/255.0.0.0", .int 4), (.null, .int 6),
    (.text "9.9.9.9", .int 4)]⟩

/-- The networks of this table are those of its values. -/
theorem mixedTable_fetched :
    (fetch (some mixedTable) "sqlite:///a.db" "blacklist_networks" none >>= fun texts =>
        (normalize (texts.map .text)).mapError .source) =
      (normalize [.text " 10.9.0.1/255.0.0.0", .text "9.9.9.9"]).mapError .source ∧
    (normalize [.text " 10.9.0.1/255.0.0.0", .text "9.9.9.9"]).toOption =
      some ["9.9.9.9/32", "10.0.0.0/8"] := by
  have hread : Url.Connection.read "sqlite:///a.db" =
      .ok ⟨"sqlite".toList, none, none, none, none, some "a.db".toList, []⟩ := by decide +kernel
  have hreach : reach "sqlite:///a.db" = .ok (.file (some "a.db".toList)) := by
    simp [reach, hread]
  have hselect : mixedTable.select? "blacklist_networks" none =
      some [.text " 10.9.0.1/255.0.0.0", .text "9.9.9.9"] := rfl
  exact ⟨(networksOfWritten_eq _).2.2 mixedTable _ _ _ _ hreach hselect, by decide +kernel⟩

end BlacklistSync

end FirewallPolicy
