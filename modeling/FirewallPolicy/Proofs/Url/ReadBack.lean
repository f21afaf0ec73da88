import FirewallPolicy.Proofs.Text.WrittenNumbers
import FirewallPolicy.Proofs.Url.Parts
import FirewallPolicy.Proofs.Url.Queries

/-!
# Connection URLs that are read back

* `Connection.IsRead`: what holds of every URL that was read from a text (`isRead_of_read`).
* `Connection.read_text`: such a URL is read from its own text, only that the keys of the query are
  in order.
* `Connection.HasBracketedHost`: the hosts for which this fails.  One with brackets of its own and
  without a colon is written as it is, and `host_ne_of_read` says that another one is read.
-/

namespace FirewallPolicy.Url

open FirewallPolicy.Text

namespace Connection

variable {c : Char} {u v : Connection} {s : String}

/-! ## Reading -/

/-- The number behind the colon of a port. -/
def readPort : Option (List Char) → Except ConnectionError (Option Int)
  | none => .ok none
  | some digits =>
    match readInt (String.ofList digits) with
    | .ok n => .ok (some n)
    | .error e => .error (.port e)

lemma isWritable_of_readPort {part : Option (List Char)} {port : Option Int}
    (h : readPort part = .ok port) : ∀ n ∈ port, isWritable n := by
  cases part with
  | none =>
    cases h
    exact fun _ hn => nomatch hn
  | some digits =>
    rw [readPort] at h
    cases hread : readInt (String.ofList digits) with
    | error e => rw [hread] at h; cases h
    | ok n =>
      rw [hread] at h
      cases h
      rintro n' ⟨⟩
      exact isWritable_of_readInt hread

section

variable {driver rest₁ rest₂ rest₃ rest₄ rest₅ rest₆ : List Char}
  {user password host port database query : Option (List Char)}

/-- A URL is read from its parts, which are split off one after the other. -/
lemma read_of_split (hdriver : splitDriver? s.toList = some (driver, rest₁))
    (huser : splitUser rest₁ = (user, password, rest₂)) (hhost : splitHost rest₂ = (host, rest₃))
    (hport : splitPart ':' isHostChar rest₃ = (port, rest₄))
    (hdatabase : splitPart '/' (· != '?') rest₄ = (database, rest₅))
    (hquery : splitPart '?' (· != '\n') rest₅ = (query, rest₆)) :
    Connection.read s = (readPort port).map fun port =>
      { driver, host, port
        user := user.map decode
        password := password.map decode
        database := database.map decode
        query := (query.map readQuery).getD [] } := by
  unfold isHostChar at hport
  simp only [Connection.read, hdriver, huser, hhost, hport, hdatabase, hquery]
  cases port with
  | none => rfl
  | some digits =>
    simp only [readPort]
    cases readInt (String.ofList digits) <;> rfl

/-- What is read has the driver, the user and the host that were split off. -/
lemma exists_of_read (h : Connection.read s = .ok u)
    (hdriver : splitDriver? s.toList = some (driver, rest₁))
    (huser : splitUser rest₁ = (user, password, rest₂)) (hhost : splitHost rest₂ = (host, rest₃)) :
    ∃ part port database query, readPort part = .ok port ∧ u =
      { driver, host, port, database
        user := user.map decode
        password := password.map decode
        query := (Option.map readQuery query).getD [] } := by
  rcases hport : splitPart ':' isHostChar rest₃ with ⟨part, rest₄⟩
  rcases hdatabase : splitPart '/' (· != '?') rest₄ with ⟨database, rest₅⟩
  rcases hquery : splitPart '?' (· != '\n') rest₅ with ⟨query, rest₆⟩
  rw [read_of_split hdriver huser hhost hport hdatabase hquery] at h
  cases hnumber : readPort part with
  | error e => rw [hnumber] at h; cases h
  | ok port =>
    rw [hnumber] at h
    exact ⟨part, port, _, query, hnumber, (Except.ok.inj h).symm⟩

end

/-- What holds of a URL that was read from a text. -/
structure IsRead (u : Connection) : Prop where
  driver : u.driver ≠ [] ∧ ∀ c ∈ u.driver, isDriverChar c
  user : u.password ≠ none → u.user ≠ none
  host : ∀ host ∈ u.host, host ≠ [] ∧ ∀ c ∈ host, isHostChar c
  /-- An at sign in the host would be the one behind the user. -/
  atSign : u.password = none → ∀ host ∈ u.host, '@' ∉ host
  port : ∀ n ∈ u.port, isWritable n
  query : IsQuery u.query

theorem isRead_of_read (h : Connection.read s = .ok u) : u.IsRead := by
  rcases hdriver : splitDriver? s.toList with _ | ⟨driver, rest₁⟩
  · rw [Connection.read, hdriver] at h
    cases h
  rcases huser : splitUser rest₁ with ⟨user, password, rest₂⟩
  rcases hhost : splitHost rest₂ with ⟨host, rest₃⟩
  obtain ⟨part, port, database, query, hport, rfl⟩ := exists_of_read h hdriver huser hhost
  have hmem : ∀ name, host = some name →
      name ≠ [] ∧ ∀ c ∈ name, isHostChar c ∧ c ∈ rest₂.takeWhile (· != '/') :=
    fun name hname => mem_of_splitHost (by rw [hhost]; exact hname)
  refine ⟨isDriverChar_of_splitDriver? hdriver, fun hpassword => ?_, fun name hname => ?_,
    fun hpassword name hname hat => ?_, isWritable_of_readPort hport, ?_⟩
  · cases password with
    | none => exact absurd rfl hpassword
    | some word => simpa using user_ne_none_of_splitUser huser
  · exact ⟨(hmem name hname).1, fun c hc => ((hmem name hname).2 c hc).1⟩
  · cases password with
    | none => exact atSign_notMem_of_splitUser huser ((hmem name hname).2 _ hat).2
    | some word => cases hpassword
  · cases query with
    | none => exact isQuery_nil
    | some cs => exact isQuery_readQuery cs

/-! ## The parts as they are written -/

/-- What is written up to the host. -/
def userText (u : Connection) : List Char :=
  match u.user with
  | none => []
  | some name => code [' ', '+'] name ++ marked ':' (u.password.map (code [' ', '+'])) ++ ['@']

/-- The host as it is written, if there is one. -/
def hostPart (u : Connection) : List Char := (u.host.map hostText).getD []

/-- The digits of the port, if there is one. -/
def portPart (u : Connection) : Option (List Char) := u.port.map fun n => (decimalText n).toList

/-- The name of the database as it is written, if there is one. -/
def databasePart (u : Connection) : Option (List Char) := u.database.map (code [' ', '+', '/'])

/-- The query as it is written, if there is anything in it. -/
def queryPart (u : Connection) : Option (List Char) :=
  if u.query.isEmpty then none else some (queryText u.query)

/-- What is written behind the host. -/
def tailText (u : Connection) : List Char :=
  marked ':' u.portPart ++ (marked '/' u.databasePart ++ marked '?' u.queryPart)

lemma chars_eq (u : Connection) :
    u.chars = u.driver ++ ':' :: '/' :: '/' ::
      (userText u ++ (hostPart u ++ tailText u)) := by
  obtain ⟨driver, user, password, host, port, database, query⟩ := u
  simp only [Connection.chars, userText, hostPart, tailText, portPart, databasePart, queryPart]
  cases user <;> cases password <;> cases port <;> cases database <;> cases query.isEmpty <;>
    simp [marked]

lemma isUnreserved_of_mem_decimalText {n : Int} (h : c ∈ (decimalText n).toList) :
    isUnreserved c := by
  rw [toList_decimalText, List.mem_append] at h
  rcases h with h | h
  · split_ifs at h
    · rw [List.mem_singleton.mp h]
      rfl
    · cases h
  · obtain ⟨d, -, hd, -⟩ :=
      Address.exists_digit (Address.isAsciiDigit_of_mem_toDigits h)
    simp [isUnreserved, hd]

/-- The digits of a port are never coded. -/
lemma isUnreserved_of_mem_portPart {digits : List Char} (h : digits ∈ u.portPart)
    (hc : c ∈ digits) : isUnreserved c := by
  obtain ⟨n, -, rfl⟩ := Option.map_eq_some_iff.mp h
  exact isUnreserved_of_mem_decimalText hc

lemma mem_databasePart {name : List Char} (h : name ∈ u.databasePart) (hc : c ∈ name) :
    isUnreserved c ∨ c ∈ [' ', '+', '/'] ∨ c = '%' := by
  obtain ⟨database, -, rfl⟩ := Option.map_eq_some_iff.mp h
  exact mem_code hc

lemma mem_queryPart {query : List Char} (h : query ∈ u.queryPart) (hc : c ∈ query) :
    isUnreserved c ∨ c = '+' ∨ c = '%' ∨ c = '=' ∨ c = '&' := by
  rw [queryPart, Option.mem_def] at h
  split_ifs at h
  cases h
  exact mem_queryText hc

/-- The characters behind the host. -/
lemma mem_tailText (h : c ∈ tailText u) :
    isUnreserved c ∨ c ∈ [':', '/', '?', ' ', '+', '%', '=', '&'] := by
  rw [tailText, List.mem_append, List.mem_append] at h
  rcases h with h | h | h
  · rcases mem_marked h with rfl | ⟨digits, hdigits, hc⟩
    · exact .inr (by decide)
    · exact .inl (isUnreserved_of_mem_portPart hdigits hc)
  · rcases mem_marked h with rfl | ⟨name, hname, hc⟩
    · exact .inr (by decide)
    · rcases mem_databasePart hname hc with hc | hc | rfl
      · exact .inl hc
      · simp only [List.mem_cons, List.not_mem_nil, or_false] at hc
        rcases hc with rfl | rfl | rfl <;> exact .inr (by decide)
      · exact .inr (by decide)
  · rcases mem_marked h with rfl | ⟨query, hquery, hc⟩
    · exact .inr (by decide)
    · rcases mem_queryPart hquery hc with hc | rfl | rfl | rfl | rfl
      · exact .inl hc
      all_goals exact .inr (by decide)

/-- Behind the host the URL ends or goes on with the mark of a part. -/
lemma mem_head?_tailText (h : c ∈ (tailText u).head?) : c = ':' ∨ c = '/' ∨ c = '?' := by
  rcases mem_head?_marked_append h with hc | hc
  · exact .inl hc
  · rcases mem_head?_marked_append hc with hc | hc
    · exact .inr (.inl hc)
    · exact .inr (.inr (eq_of_mem_head?_marked hc))

lemma followsHost_tailText (u : Connection) : FollowsHost (tailText u) := by
  constructor
  · intro c hc
    rcases mem_head?_tailText hc with rfl | rfl | rfl
    · exact .inr rfl
    · exact .inl rfl
    · exact .inl rfl
  · intro hmem
    rcases mem_tailText ((List.takeWhile_prefix _).subset hmem) with h | h <;>
      exact absurd h (by decide)

lemma mem_hostPart (h : c ∈ hostPart u) : c = '[' ∨ c = ']' ∨ ∃ host ∈ u.host, c ∈ host := by
  rw [hostPart] at h
  cases hhost : u.host with
  | none => rw [hhost] at h; cases h
  | some host =>
    rw [hhost] at h
    change c ∈ hostText host at h
    rw [hostText] at h
    split_ifs at h
    · rw [List.mem_append, List.mem_cons, List.mem_singleton] at h
      rcases h with (h | h) | h
      · exact .inl h
      · exact .inr (.inr ⟨host, rfl, h⟩)
      · exact .inr (.inl h)
    · exact .inr (.inr ⟨host, rfl, h⟩)

/-- Without a password, the only at sign of a URL stands behind the user. -/
lemma IsRead.atSign_notMem (h : u.IsRead) (hpassword : u.password = none) :
    '@' ∉ hostPart u ++ tailText u := by
  rw [List.mem_append, not_or]
  constructor
  · intro hmem
    rcases mem_hostPart hmem with hat | hat | ⟨host, hhost, hat⟩
    · exact absurd hat (by decide)
    · exact absurd hat (by decide)
    · exact h.atSign hpassword host hhost hat
  · intro hmem
    rcases mem_tailText hmem with hat | hat <;> exact absurd hat (by decide)

/-- The user and the password are found as they were written. -/
lemma IsRead.splitUser_userText (h : u.IsRead) :
    splitUser (userText u ++ (hostPart u ++ tailText u)) =
      (u.user.map (code [' ', '+']), u.password.map (code [' ', '+']),
        hostPart u ++ tailText u) := by
  have hcoded : ∀ name, ∀ c ∈ code [' ', '+'] name, isUserChar c := by
    intro name c hc
    have hcolon : ':' ∉ code [' ', '+'] name := notMem_code rfl (by decide) (by decide)
    have hslash : '/' ∉ code [' ', '+'] name := notMem_code rfl (by decide) (by decide)
    rw [isUserChar, Bool.and_eq_true, bne_iff_ne, bne_iff_ne]
    exact ⟨fun heq => hcolon (heq ▸ hc), fun heq => hslash (heq ▸ hc)⟩
  cases hpassword : u.password with
  | none =>
    have hat := h.atSign_notMem hpassword
    cases huser : u.user with
    | none =>
      simp only [userText, huser, List.nil_append]
      exact splitUser_of_notMem hat
    | some name =>
      simp only [userText, huser, hpassword, Option.map_none, marked, List.append_nil,
        List.append_assoc, List.singleton_append]
      exact splitUser_name (hcoded name) hat
  | some word =>
    obtain ⟨name, huser⟩ := Option.ne_none_iff_exists'.mp (h.user (by simp [hpassword]))
    have hat : '@' ∉ code [' ', '+'] word := notMem_code rfl (by decide) (by decide)
    simp only [userText, huser, hpassword, Option.map_some, marked, List.append_assoc,
      List.cons_append]
    exact splitUser_password (hcoded name) hat _

/-! ## Reading what was written -/

/-- A host with brackets of its own that is written without other ones. -/
def HasBracketedHost (u : Connection) : Prop := ∃ host ∈ u.host, ':' ∉ host ∧ Bracketed host

lemma isBareHostChar_of_isRead {host : List Char} (h : u.IsRead) (hhost : host ∈ u.host)
    (hcolon : ':' ∉ host) : ∀ c ∈ host, isBareHostChar c := fun c hc =>
  isBareHostChar_iff.mpr ⟨(h.host host hhost).2 c hc, fun heq => hcolon (heq ▸ hc)⟩

/-- The host is found as it was written, if it has no brackets of its own. -/
lemma IsRead.splitHost_hostPart (h : u.IsRead) (hnot : ¬ u.HasBracketedHost) :
    splitHost (hostPart u ++ tailText u) = (u.host, tailText u) := by
  have htail := followsHost_tailText u
  cases hhost : u.host with
  | none =>
    simp only [hostPart, hhost]
    exact splitHost_bare (fun c hc => nomatch hc) (by decide) htail
  | some host =>
    obtain ⟨hne, hchars⟩ := h.host host hhost
    by_cases hcolon : ':' ∈ host
    · have hcontains : host.contains ':' = true := List.contains_iff_mem.mpr hcolon
      simp only [hostPart, hhost, Option.map_some, Option.getD_some, hostText, hcontains, if_true,
        List.append_assoc, List.cons_append]
      exact splitHost_brackets hne hchars htail
    · have hcontains : ¬ host.contains ':' = true := fun hmem =>
        hcolon (List.contains_iff_mem.mp hmem)
      have hempty : host.isEmpty = false := by simpa using hne
      simp only [hostPart, hhost, Option.map_some, Option.getD_some, hostText, if_neg hcontains]
      rw [splitHost_bare (isBareHostChar_of_isRead h hhost hcolon)
        (fun hbracketed => hnot ⟨host, hhost, hcolon, hbracketed⟩) htail, hempty]
      rfl

lemma IsRead.splitDriver?_text (h : u.IsRead) :
    splitDriver? u.text.toList = some (u.driver, userText u ++ (hostPart u ++ tailText u)) := by
  rw [Connection.text, String.toList_ofList, chars_eq]
  exact splitDriver?_append h.driver.1 h.driver.2 _

/-- The number of the port is read as it was written. -/
lemma IsRead.readPort_portPart (h : u.IsRead) : readPort u.portPart = .ok u.port := by
  rw [portPart]
  cases hport : u.port with
  | none => rfl
  | some n =>
    rw [Option.map_some, readPort, String.ofList_toList, readInt_decimalText (h.port n hport)]

lemma splitPart_portPart (u : Connection) :
    splitPart ':' isHostChar (tailText u) =
      (u.portPart, marked '/' u.databasePart ++ marked '?' u.queryPart) := by
  refine splitPart_marked (fun digits hdigits c hc => ?_) fun c hc => ?_
  · have hunreserved := isUnreserved_of_mem_portPart hdigits hc
    rw [isHostChar_iff]
    constructor <;> rintro rfl <;> exact absurd hunreserved (by decide)
  · rcases mem_head?_marked_append hc with rfl | hc
    · exact ⟨rfl, by decide⟩
    · rw [eq_of_mem_head?_marked hc]
      exact ⟨rfl, by decide⟩

lemma splitPart_databasePart (u : Connection) :
    splitPart '/' (· != '?') (marked '/' u.databasePart ++ marked '?' u.queryPart) =
      (u.databasePart, marked '?' u.queryPart) := by
  refine splitPart_marked (fun name hname c hc => ?_) fun c hc => ?_
  · rw [bne_iff_ne]
    rintro rfl
    rcases mem_databasePart hname hc with h | h | h <;> exact absurd h (by decide)
  · rw [eq_of_mem_head?_marked hc]
    exact ⟨rfl, by decide⟩

lemma splitPart_queryPart (u : Connection) :
    splitPart '?' (· != '\n') (marked '?' u.queryPart) = (u.queryPart, []) := by
  rw [← List.append_nil (marked '?' _)]
  refine splitPart_marked (fun query hquery c hc => ?_) fun c hc => nomatch hc
  rw [bne_iff_ne]
  rintro rfl
  rcases mem_queryPart hquery hc with h | h | h | h | h <;> exact absurd h (by decide)

/-- The values of the query are read as they were written, the keys in order. -/
lemma IsRead.readQuery_queryPart (h : u.IsRead) :
    (u.queryPart.map readQuery).getD [] = byKey u.query := by
  rw [queryPart]
  split_ifs with hempty
  · rw [List.isEmpty_iff.mp hempty, byKey, List.mergeSort_nil]
    rfl
  · exact readQuery_queryText h.query

/-- What was coded is read back, if there was anything. -/
lemma map_decode_map_code {safe : List Char} (hsafe : IsSafeSet safe) (part : Option (List Char)) :
    (part.map (code safe)).map decode = part := by
  cases part with
  | none => rfl
  | some cs => rw [Option.map_some, Option.map_some, decode_code hsafe]

/-- A URL is read from its own text, the keys of the query in order, unless its host has brackets of
its own. -/
theorem IsRead.read_text (h : u.IsRead) (hnot : ¬ u.HasBracketedHost) :
    Connection.read u.text = .ok { u with query := byKey u.query } := by
  rw [read_of_split h.splitDriver?_text h.splitUser_userText (h.splitHost_hostPart hnot)
    (splitPart_portPart u) (splitPart_databasePart u) (splitPart_queryPart u),
    h.readPort_portPart, h.readQuery_queryPart, databasePart, map_decode_map_code (by decide),
    map_decode_map_code (by decide), map_decode_map_code (by decide)]
  rfl

/-- A URL is written with the keys of the query in order, whatever order they have. -/
lemma text_byKey (u : Connection) :
    ({ u with query := byKey u.query } : Connection).text = u.text := by
  have hpart : ({ u with query := byKey u.query } : Connection).queryPart = u.queryPart := by
    rw [queryPart, queryPart, queryText_byKey, (byKey_perm u.query).isEmpty_eq]
  rw [Connection.text, Connection.text, chars_eq, chars_eq, tailText, tailText, hpart]
  rfl

/-- No URL with the same host is read from the text of one whose host has brackets of its own. -/
theorem IsRead.host_ne_of_read (h : u.IsRead) (hbracketed : u.HasBracketedHost)
    (hread : Connection.read u.text = .ok v) : v.host ≠ u.host := by
  obtain ⟨host, hhost, hcolon, hbracketed⟩ := hbracketed
  have hcontains : ¬ host.contains ':' = true := fun hmem =>
    hcolon (List.contains_iff_mem.mp hmem)
  have hpart : hostPart u = host := by
    rw [hostPart, Option.mem_def.mp hhost, Option.map_some, Option.getD_some, hostText,
      if_neg hcontains]
  obtain ⟨inner, hinner, hlength⟩ := splitHost_bracketed (isBareHostChar_of_isRead h hhost hcolon)
    hbracketed (followsHost_tailText u)
  rw [← hpart] at hinner
  obtain ⟨part, port, database, query, -, rfl⟩ :=
    exists_of_read hread h.splitDriver?_text h.splitUser_userText rfl
  intro heq
  have hsame : some inner = some host := hinner.symm.trans (heq.trans hhost)
  cases hsame
  exact absurd hlength (Nat.lt_irrefl _)

end Connection

end FirewallPolicy.Url
