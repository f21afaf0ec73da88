import FirewallPolicy.Proofs.Policy.Lapses
import FirewallPolicy.Proofs.Url.ReadBack

/-!
# Connection URLs in their normal form

A policy holds its connection URL in a form that names the driver.  This form is read again to what
the document said, and is a normal form: reading it changes nothing any more.

* `IsKept`: what it means for a URL to be kept so.
* `Field.connection_isKept_iff`: every URL is, unless its host has brackets of its own.
-/

namespace FirewallPolicy

open FirewallPolicy.Scalar (Mapping defaultDriver splitBackend)
open FirewallPolicy.Text (trim isBlank IsTrimmed trim_eq_self)
open FirewallPolicy.Url (Connection byKey)

/-! ## Drivers -/

/-- The driver behind the first plus sign, or else the one used where none is named. -/
def driverOf (u : Connection) : List Char :=
  if (splitBackend u.driver).2.isEmpty then defaultDriver else (splitBackend u.driver).2

/-- Whether a URL is one of a PostgreSQL database. -/
def IsPostgres (u : Connection) : Prop :=
  (splitBackend u.driver).1 = "postgres".toList ∨ (splitBackend u.driver).1 = "postgresql".toList

/-- A URL in the form that names its driver. -/
def normalForm (u : Connection) : Connection :=
  { u with driver := "postgresql+".toList ++ driverOf u }

lemma driverOf_ne_nil (u : Connection) : driverOf u ≠ [] := by
  rw [driverOf]
  split_ifs with hempty
  · decide
  · simpa using hempty

/-- The name of a driver is the default one or comes from the URL. -/
lemma mem_driverOf {u : Connection} {c : Char} (h : c ∈ driverOf u) :
    c ∈ defaultDriver ∨ c ∈ u.driver := by
  rw [driverOf] at h
  split_ifs at h
  · exact .inl h
  · rw [splitBackend] at h
    cases hcut : Text.cutAt? '+' u.driver with
    | none => rw [hcut] at h; cases h
    | some pair =>
      rw [hcut] at h
      rw [(Text.cutAt?_eq_some_iff.mp hcut).1]
      exact .inr (List.mem_append_right _ (List.mem_cons_of_mem _ h))

/-- The normal form names a PostgreSQL database and its driver. -/
lemma splitBackend_normalForm (u : Connection) :
    splitBackend (normalForm u).driver = ("postgresql".toList, driverOf u) := by
  have hplus : '+' ∉ "postgresql".toList := by decide
  have hcut := Text.cutAt?_append hplus (driverOf u)
  have hdriver : (normalForm u).driver = "postgresql".toList ++ '+' :: driverOf u := rfl
  rw [splitBackend, hdriver, hcut, Option.getD_some]

lemma isRead_normalForm {u : Connection} (h : u.IsRead) : (normalForm u).IsRead := by
  have hnamed : ("postgresql+".toList ++ defaultDriver).all Url.isDriverChar := by decide +kernel
  rw [List.all_eq_true, List.forall_mem_append] at hnamed
  have hne : (normalForm u).driver ≠ [] := List.append_ne_nil_of_right_ne_nil _ (driverOf_ne_nil u)
  have hchars : ∀ c ∈ (normalForm u).driver, Url.isDriverChar c := by
    intro c hc
    rcases List.mem_append.mp hc with hc | hc
    · exact hnamed.1 c hc
    · exact (mem_driverOf hc).elim (hnamed.2 c) (h.driver.2 c)
  exact ⟨⟨hne, hchars⟩, h.user, h.host, h.atSign, h.port, h.query⟩

/-! ## Reading -/

instance (u : Connection) : Decidable (IsPostgres u) := inferInstanceAs (Decidable (_ ∨ _))

/-- A URL that is read is handed on in its normal form, if it is one of a PostgreSQL database. -/
lemma Scalar.connection_of_read {t path : String} {u : Connection}
    (hread : Connection.read (trim t) = .ok u) :
    Scalar.connection (.text t) path =
      if IsPostgres u then .ok (normalForm u).text
      else refuse path (.scheme (String.ofList u.driver)) := by
  have hne : (trim t).isEmpty = false := by
    rw [Bool.eq_false_iff, ne_eq, String.isEmpty_iff]
    intro hempty
    rw [hempty] at hread
    cases hread
  have htext : Scalar.text (.text t) path = .ok (trim t) :=
    Scalar.text_eq_ok_iff.mpr ⟨t, rfl, rfl, hne⟩
  rw [Scalar.connection, htext]
  simp only [bind, Except.bind, hread]
  rfl

/-- What a text is read to if it is accepted as a connection URL. -/
lemma Field.exists_of_connection {data : Mapping} {key path r : String}
    (h : required Scalar.connection data key path = .ok r) :
    ∃ t u, present? data key = some (.text t) ∧ Connection.read (trim t) = .ok u ∧
      IsPostgres u ∧ r = (normalForm u).text := by
  unfold required at h
  cases hvalue : present? data key with
  | none => rw [hvalue] at h; cases h
  | some value =>
    rw [hvalue] at h
    obtain ⟨s, hs, hrest⟩ := exists_of_bind_eq_ok h
    obtain ⟨t, rfl, rfl, -⟩ := Scalar.text_eq_ok_iff.mp hs
    cases hread : Connection.read (trim t) with
    | error e => cases e <;> (rw [hread] at hrest; cases hrest)
    | ok u =>
      have hconnection := h
      simp only [Scalar.connection_of_read hread] at hconnection
      split_ifs at hconnection with hpostgres
      · exact ⟨t, u, rfl, hread, hpostgres, (Except.ok.inj hconnection).symm⟩
      · cases hconnection

/-! ## Normal forms -/

/-- Two URLs with the same user, password, host, port and database, and the same values of each key
of the query.  The drivers may differ, and the order of the keys. -/
structure SameParts (u v : Connection) : Prop where
  user : v.user = u.user
  password : v.password = u.password
  host : v.host = u.host
  port : v.port = u.port
  database : v.database = u.database
  query : v.query.Perm u.query

/-- A text that a URL is kept as: reading it as a field gives the text itself, and it stands for a
URL with the same parts, whose driver is the one that the first URL names. -/
structure IsKept (u : Connection) (r : String) : Prop where
  again : ∀ data key path, Field.present? data key = some (.text r) →
    Field.required Scalar.connection data key path = .ok r
  parts : ∃ v, Connection.read r = .ok v ∧ SameParts u v ∧
    v.driver = "postgresql+".toList ++ driverOf u

/-- Nothing is left to be done about a normal form. -/
lemma normalForm_normalForm (u : Connection) : normalForm (normalForm u) = normalForm u := by
  have hdriver : driverOf (normalForm u) = driverOf u := by
    have hempty : ¬ (driverOf u).isEmpty = true := by simpa using driverOf_ne_nil u
    rw [driverOf, splitBackend_normalForm, if_neg hempty]
  exact congrArg (fun d => ({ u with driver := "postgresql+".toList ++ d } : Connection)) hdriver

/-- There is never a blank in front of a normal form. -/
lemma trim_text_normalForm {u : Connection}
    (hlast : ∀ c ∈ (normalForm u).text.toList.getLast?, isBlank c = false) :
    trim (normalForm u).text = (normalForm u).text := by
  refine trim_eq_self ⟨?_, hlast⟩
  have hdriver : (normalForm u).driver = 'p' :: ("ostgresql+".toList ++ driverOf u) := rfl
  rw [Connection.text, String.toList_ofList, Connection.chars_eq, hdriver, List.cons_append,
    List.head?_cons]
  rintro c ⟨⟩
  rfl

/-- The normal form of a URL without brackets in its host is kept. -/
lemma isKept_normalForm {u : Connection} (h : u.IsRead) (hnot : ¬ u.HasBracketedHost)
    (hlast : ∀ c ∈ (normalForm u).text.toList.getLast?, isBlank c = false) :
    IsKept u (normalForm u).text := by
  set v : Connection := { normalForm u with query := byKey u.query } with hv
  have hread : Connection.read (normalForm u).text = .ok v := (isRead_normalForm h).read_text hnot
  have hpostgres : IsPostgres v := .inr (congrArg Prod.fst (splitBackend_normalForm u))
  have htext : (normalForm v).text = (normalForm u).text := by
    have hnormal : normalForm v = { normalForm (normalForm u) with query := byKey u.query } := rfl
    rw [hnormal, normalForm_normalForm]
    exact Connection.text_byKey (normalForm u)
  refine ⟨fun data key path hpresent => ?_, v, hread, ?_, rfl⟩
  · rw [Field.required, hpresent]
    have htrim : Connection.read (trim (normalForm u).text) = .ok v :=
      (congrArg Connection.read (trim_text_normalForm hlast)).trans hread
    exact (Scalar.connection_of_read htrim).trans (by rw [if_pos hpostgres, htext])
  · exact ⟨rfl, rfl, rfl, rfl, rfl, Url.byKey_perm u.query⟩

/-- A connection URL is kept in its normal form exactly if its host has no brackets of its own. -/
theorem Field.connection_isKept_iff {data : Mapping} {key path r : String}
    (h : required Scalar.connection data key path = .ok r)
    (hlast : ∀ c ∈ r.toList.getLast?, isBlank c = false) :
    ∃ t u, present? data key = some (.text t) ∧ Connection.read (trim t) = .ok u ∧
      (IsKept u r ↔ ¬ u.HasBracketedHost) := by
  obtain ⟨t, u, hpresent, hread, -, rfl⟩ := exists_of_connection h
  have hisRead := Connection.isRead_of_read hread
  refine ⟨t, u, hpresent, hread, fun hkept hbracketed => ?_, fun hnot =>
    isKept_normalForm hisRead hnot hlast⟩
  obtain ⟨v, hv, hsame, -⟩ := hkept.parts
  exact (isRead_normalForm hisRead).host_ne_of_read hbracketed hv hsame.host

/-- A loopback address keeps the brackets that a port needs. -/
theorem Field.loopbackConnection_isKept :
    required Scalar.connection [(.text "url", .text "postgres://[::1]:5432")] "url" "" =
      .ok "postgresql+psycopg://[::1]:5432" ∧
    ∃ t u, present? [(.text "url", .text "postgres://[::1]:5432")] "url" = some (.text t) ∧
      Connection.read (trim t) = .ok u ∧
      (IsKept u "postgresql+psycopg://[::1]:5432" ↔ ¬ u.HasBracketedHost) :=
  have hread : required Scalar.connection [(.text "url", .text "postgres://[::1]:5432")] "url" "" =
      .ok "postgresql+psycopg://[::1]:5432" := Except.eq_ok_of_toOption (by decide +kernel)
  have htrimmed : IsTrimmed "postgresql+psycopg://[::1]:5432".toList := by decide
  ⟨hread, connection_isKept_iff hread htrimmed.last⟩

/-- Of two pairs of brackets one is lost each time that a URL is read. -/
theorem Field.bracketedConnection_not_kept :
    required Scalar.connection [(.text "url", .text "postgres://[[x]]")] "url" "" =
      .ok "postgresql+psycopg://[x]" ∧
    required Scalar.connection [(.text "url", .text "postgresql+psycopg://[x]")] "url" "" =
      .ok "postgresql+psycopg://x" ∧
    (Connection.read "postgres://[[x]]").map (·.host) = .ok (some ['[', 'x', ']']) ∧
    (Connection.read "postgresql+psycopg://[x]").map (·.host) = .ok (some ['x']) := by
  refine ⟨Except.eq_ok_of_toOption ?_, Except.eq_ok_of_toOption ?_, ?_, ?_⟩
  all_goals decide +kernel

end FirewallPolicy
