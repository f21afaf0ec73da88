import FirewallPolicy.Proofs.Text.Cuts
import FirewallPolicy.Url.Connection
import Mathlib.Data.List.TakeWhile
import Mathlib.Tactic.Common

/-!
# The parts of a connection URL

A part ends where a character stands that it may not hold, so it is found again if such a character,
or nothing, stands behind it.

* `splitDriver?_append`, `splitUser_name`, `splitUser_password`, `splitPart_marked`: parts are found
  as they were put together.
* `splitHost_brackets`, `splitHost_bare`: so is a host, between brackets or without them, in the
  second case unless it has brackets of its own (`Bracketed`).
* `atSign_notMem_of_splitUser`, `mem_of_splitHost`: without a password there is no at sign in what
  is left behind the user, up to the first slash, and that is where the host comes from.
-/

namespace FirewallPolicy.Url

open FirewallPolicy.Text

variable {c : Char} {cs rest name word host tail : List Char} {p q : Char → Bool}

/-! ## Runs -/

/-- A run goes up to a character that does not belong to it. -/
lemma takeWhile_append_of_head? (hcs : ∀ c ∈ cs, p c) (hrest : ∀ c ∈ rest.head?, p c = false) :
    (cs ++ rest).takeWhile p = cs ∧ (cs ++ rest).dropWhile p = rest := by
  rw [List.takeWhile_append_of_pos hcs, List.dropWhile_append_of_pos hcs]
  cases rest with
  | nil => simp
  | cons c rest =>
    have hc := hrest c rfl
    rw [List.takeWhile_cons_of_neg (by simp [hc]), List.dropWhile_cons_of_neg (by simp [hc]),
      List.append_nil]
    exact ⟨rfl, rfl⟩

/-- A run of more kinds of characters goes further. -/
lemma takeWhile_subset_takeWhile (h : ∀ c, p c → q c) : cs.takeWhile p ⊆ cs.takeWhile q := by
  induction cs with
  | nil => exact List.Subset.refl []
  | cons c cs ih =>
    by_cases hp : p c
    · rw [List.takeWhile_cons_of_pos hp, List.takeWhile_cons_of_pos (h c hp)]
      exact List.cons_subset_cons c ih
    · rw [List.takeWhile_cons_of_neg hp]
      exact List.nil_subset _

/-! ## Cuts at the last separator -/

lemma cutAtLast?_eq_none_iff {sep : Char} : cutAtLast? sep cs = none ↔ sep ∉ cs := by
  rw [cutAtLast?, Option.map_eq_none_iff, cutAt?_eq_none_iff, List.mem_reverse]

lemma cutAtLast?_eq_some_iff {sep : Char} {before after : List Char} :
    cutAtLast? sep cs = some (before, after) ↔ cs = before ++ sep :: after ∧ sep ∉ after := by
  rw [cutAtLast?, Option.map_eq_some_iff]
  constructor
  · rintro ⟨⟨after', before'⟩, hcut, heq⟩
    cases heq
    obtain ⟨hcs, hafter⟩ := cutAt?_eq_some_iff.mp hcut
    refine ⟨?_, by simpa using hafter⟩
    rw [← List.reverse_reverse cs, hcs]
    simp
  · rintro ⟨rfl, hafter⟩
    refine ⟨(after.reverse, before.reverse), cutAt?_eq_some_iff.mpr ⟨by simp, ?_⟩, by simp⟩
    simpa using hafter

/-! ## Drivers -/

/-- Whether a character may stand in the name of a driver. -/
def isDriverChar (c : Char) : Bool := isWordChar c || c == '+'

lemma splitDriver?_eq (cs : List Char) :
    splitDriver? cs = match cs.dropWhile isDriverChar with
      | ':' :: '/' :: '/' :: rest =>
        if (cs.takeWhile isDriverChar).isEmpty then none
        else some (cs.takeWhile isDriverChar, rest)
      | _ => none := rfl

lemma isDriverChar_colon : isDriverChar ':' = false := by decide +kernel

lemma splitDriver?_append {driver : List Char} (hne : driver ≠ [])
    (hdriver : ∀ c ∈ driver, isDriverChar c) (rest : List Char) :
    splitDriver? (driver ++ ':' :: '/' :: '/' :: rest) = some (driver, rest) := by
  have hcolon : ∀ c ∈ (':' :: '/' :: '/' :: rest).head?, isDriverChar c = false := by
    simpa using isDriverChar_colon
  obtain ⟨htake, hdrop⟩ := takeWhile_append_of_head? hdriver hcolon
  rw [splitDriver?_eq, htake, hdrop]
  simpa using hne

/-- A driver has a name, made of characters that may stand there. -/
lemma isDriverChar_of_splitDriver? {driver : List Char}
    (h : splitDriver? cs = some (driver, rest)) :
    driver ≠ [] ∧ ∀ c ∈ driver, isDriverChar c := by
  rw [splitDriver?_eq] at h
  split at h
  · split_ifs at h with hempty
    cases h
    exact ⟨by simpa using hempty, fun c hc => List.mem_takeWhile_imp hc⟩
  · cases h

/-! ## Users -/

/-- Whether a character may stand in a user name that is followed by a password. -/
def isUserChar (c : Char) : Bool := c != ':' && c != '/'

/-- A password with what follows its at sign, if there is one. -/
def password? : List Char → Option (List Char × List Char)
  | ':' :: cs => cutAt? '@' cs
  | _ => none

lemma splitUser_eq (cs : List Char) :
    splitUser cs = match password? (cs.dropWhile isUserChar) with
      | some (word, rest) => (some (cs.takeWhile isUserChar), some word, rest)
      | none => match cutAtLast? '@' (cs.takeWhile isUserChar) with
        | some (name, rest) => (some name, none, rest ++ cs.dropWhile isUserChar)
        | none => (none, none, cs) := rfl

lemma password?_of_notMem (h : '@' ∉ cs) : password? cs = none := by
  unfold password?
  split
  · rw [List.mem_cons, not_or] at h
    exact cutAt?_of_notMem h.2
  · rfl

lemma splitUser_of_notMem (h : '@' ∉ cs) : splitUser cs = (none, none, cs) := by
  have hrun : '@' ∉ cs.takeWhile isUserChar := fun hmem =>
    h ((List.takeWhile_prefix _).subset hmem)
  have hrest : '@' ∉ cs.dropWhile isUserChar := fun hmem =>
    h ((List.dropWhile_suffix _).subset hmem)
  rw [splitUser_eq, password?_of_notMem hrest, cutAtLast?_eq_none_iff.mpr hrun]

/-- A user name without a password reaches to the last at sign. -/
lemma splitUser_name (hname : ∀ c ∈ name, isUserChar c) (hrest : '@' ∉ rest) :
    splitUser (name ++ '@' :: rest) = (some name, none, rest) := by
  have htake : (name ++ '@' :: rest).takeWhile isUserChar =
      name ++ '@' :: rest.takeWhile isUserChar := by
    rw [List.takeWhile_append_of_pos hname, List.takeWhile_cons_of_pos rfl]
  have hdrop : (name ++ '@' :: rest).dropWhile isUserChar = rest.dropWhile isUserChar := by
    rw [List.dropWhile_append_of_pos hname, List.dropWhile_cons_of_pos rfl]
  have hpassword : password? (rest.dropWhile isUserChar) = none :=
    password?_of_notMem fun hmem => hrest ((List.dropWhile_suffix _).subset hmem)
  have hcut : cutAtLast? '@' (name ++ '@' :: rest.takeWhile isUserChar) =
      some (name, rest.takeWhile isUserChar) :=
    cutAtLast?_eq_some_iff.mpr ⟨rfl, fun hmem => hrest ((List.takeWhile_prefix _).subset hmem)⟩
  simp only [splitUser_eq, htake, hdrop, hpassword, hcut, List.takeWhile_append_dropWhile]

/-- A password reaches to the first at sign. -/
lemma splitUser_password (hname : ∀ c ∈ name, isUserChar c) (hword : '@' ∉ word)
    (rest : List Char) :
    splitUser (name ++ ':' :: (word ++ '@' :: rest)) = (some name, some word, rest) := by
  have hcolon : ∀ c ∈ (':' :: (word ++ '@' :: rest)).head?, isUserChar c = false := by
    rintro c ⟨⟩
    rfl
  obtain ⟨htake, hdrop⟩ := takeWhile_append_of_head? hname hcolon
  rw [splitUser_eq, htake, hdrop, password?, cutAt?_append hword]

/-- There is no password without a user name. -/
lemma user_ne_none_of_splitUser {user : Option (List Char)}
    (h : splitUser cs = (user, some word, rest)) : user ≠ none := by
  rw [splitUser_eq] at h
  split at h
  · cases h
    exact Option.some_ne_none _
  · split at h <;> cases h

/-- Behind the characters of a user there is nothing, a slash, or a colon.  No at sign follows the
colon if there is no password. -/
lemma atSign_notMem_of_password? (hhead : ∀ c ∈ cs.head?, isUserChar c = false)
    (h : password? cs = none) : '@' ∉ cs.takeWhile (· != '/') := by
  cases cs with
  | nil => exact List.not_mem_nil
  | cons c cs =>
    have hc : c = ':' ∨ c = '/' := by
      have hc := hhead c rfl
      simpa [isUserChar, Decidable.imp_iff_not_or] using hc
    rcases hc with rfl | rfl
    · have hcs : '@' ∉ cs := cutAt?_eq_none_iff.mp h
      intro hmem
      rcases List.mem_cons.mp ((List.takeWhile_prefix _).subset hmem) with hat | hat
      · exact absurd hat (by decide)
      · exact hcs hat
    · rw [List.takeWhile_cons_of_neg (by decide)]
      exact List.not_mem_nil

/-- Without a password there is no at sign left up to the first slash. -/
lemma atSign_notMem_of_splitUser {user : Option (List Char)}
    (h : splitUser cs = (user, none, rest)) : '@' ∉ rest.takeWhile (· != '/') := by
  set run := cs.takeWhile isUserChar with hrun
  set behind := cs.dropWhile isUserChar with hbehind
  have hcs : run ++ behind = cs := List.takeWhile_append_dropWhile
  have hslash : ∀ c ∈ run, (c != '/') = true := by
    intro c hc
    have huser : isUserChar c := List.mem_takeWhile_imp hc
    rw [isUserChar, Bool.and_eq_true] at huser
    exact huser.2
  rw [splitUser_eq, ← hrun, ← hbehind] at h
  cases hpassword : password? behind with
  | some pair => rw [hpassword] at h; cases h
  | none =>
    have hnone : '@' ∉ behind.takeWhile (· != '/') := by
      refine atSign_notMem_of_password? (fun c hc => ?_) hpassword
      have hnot := List.head?_dropWhile_not isUserChar cs
      rw [← hbehind, Option.mem_def.mp hc] at hnot
      exact hnot
    rw [hpassword] at h
    cases hcut : cutAtLast? '@' run with
    | none =>
      rw [hcut] at h
      cases h
      rw [← hcs, List.takeWhile_append_of_pos hslash, List.mem_append, not_or]
      exact ⟨cutAtLast?_eq_none_iff.mp hcut, hnone⟩
    | some pair =>
      obtain ⟨name, after⟩ := pair
      obtain ⟨hsplit, hafter⟩ := cutAtLast?_eq_some_iff.mp hcut
      rw [hcut] at h
      cases h
      have hslash' : ∀ c ∈ after, (c != '/') = true := fun c hc =>
        hslash c (hsplit ▸ List.mem_append_right _ (List.mem_cons_of_mem _ hc))
      rw [List.takeWhile_append_of_pos hslash', List.mem_append, not_or]
      exact ⟨hafter, hnone⟩

/-! ## Hosts -/

/-- Whether a character may stand in a host between brackets. -/
def isHostChar (c : Char) : Bool := c != '/' && c != '?'

lemma isHostChar_iff : isHostChar c ↔ c ≠ '/' ∧ c ≠ '?' := by simp [isHostChar]

/-- A host that starts with an opening bracket, and has a closing one further on, with something
between them. -/
def Bracketed (host : List Char) : Prop := host.head? = some '[' ∧ ']' ∈ host.drop 2

instance (host : List Char) : Decidable (Bracketed host) :=
  inferInstanceAs (Decidable (host.head? = some '[' ∧ ']' ∈ host.drop 2))

/-- What may stand behind a host: a character first that ends every host, and no closing bracket
that could be the one of a host. -/
structure FollowsHost (tail : List Char) : Prop where
  head : ∀ c ∈ tail.head?, isHostChar c = false ∨ c = ':'
  bracket : ']' ∉ tail.takeWhile isHostChar

lemma splitBracketed?_eq (cs : List Char) :
    splitBracketed? ('[' :: cs) = match cutAtLast? ']' (cs.takeWhile isHostChar) with
      | some (host, rest) =>
        if host.isEmpty then none else some (host, rest ++ cs.dropWhile isHostChar)
      | none => none := rfl

/-- Only what starts with an opening bracket has brackets. -/
lemma splitBracketed?_of_head? (h : cs.head? ≠ some '[') : splitBracketed? cs = none := by
  unfold splitBracketed?
  split
  · exact absurd rfl h
  · rfl

/-- Between brackets there is something. -/
lemma splitBracketed?_eq_none_iff :
    splitBracketed? ('[' :: cs) = none ↔ ']' ∉ (cs.takeWhile isHostChar).drop 1 := by
  rw [splitBracketed?_eq]
  cases hcut : cutAtLast? ']' (cs.takeWhile isHostChar) with
  | none =>
    have hnot := cutAtLast?_eq_none_iff.mp hcut
    exact iff_of_true rfl fun hmem => hnot (List.mem_of_mem_drop hmem)
  | some pair =>
    obtain ⟨host, after⟩ := pair
    obtain ⟨hrun, hafter⟩ := cutAtLast?_eq_some_iff.mp hcut
    rw [hrun]
    cases host with
    | nil => simpa using hafter
    | cons c host => simp

/-- A host between brackets. -/
lemma splitBracketed?_brackets (hne : host ≠ []) (hhost : ∀ c ∈ host, isHostChar c)
    (hbracket : ']' ∉ tail.takeWhile isHostChar) :
    splitBracketed? ('[' :: (host ++ ']' :: tail)) = some (host, tail) := by
  have htake : (host ++ ']' :: tail).takeWhile isHostChar =
      host ++ ']' :: tail.takeWhile isHostChar := by
    rw [List.takeWhile_append_of_pos hhost, List.takeWhile_cons_of_pos rfl]
  have hdrop : (host ++ ']' :: tail).dropWhile isHostChar = tail.dropWhile isHostChar := by
    rw [List.dropWhile_append_of_pos hhost, List.dropWhile_cons_of_pos rfl]
  have hempty : host.isEmpty = false := by simpa using hne
  rw [splitBracketed?_eq, htake, hdrop, cutAtLast?_eq_some_iff.mpr ⟨rfl, hbracket⟩]
  simp only [hempty, Bool.false_eq_true, if_false, List.takeWhile_append_dropWhile]

/-- What is found between brackets is not empty, and ends at the last closing bracket. -/
lemma exists_of_splitBracketed? (h : splitBracketed? ('[' :: cs) = some (host, rest)) :
    host ≠ [] ∧ ∃ after, cs.takeWhile isHostChar = host ++ ']' :: after ∧ ']' ∉ after := by
  rw [splitBracketed?_eq] at h
  cases hcut : cutAtLast? ']' (cs.takeWhile isHostChar) with
  | none => rw [hcut] at h; cases h
  | some pair =>
    obtain ⟨host', after⟩ := pair
    rw [hcut] at h
    simp only at h
    split_ifs at h with hempty
    cases h
    exact ⟨by simpa using hempty, after, cutAtLast?_eq_some_iff.mp hcut⟩

/-- Whether a character may stand in a host without brackets. -/
def isBareHostChar (c : Char) : Bool := c != '/' && c != ':' && c != '?'

lemma isBareHostChar_iff : isBareHostChar c ↔ isHostChar c ∧ c ≠ ':' := by
  simp [isBareHostChar, isHostChar, and_assoc, and_comm, and_left_comm]

lemma splitHost_of_some (h : splitBracketed? cs = some (host, rest)) :
    splitHost cs = (some host, rest) := by
  rw [splitHost, h]

lemma splitHost_of_none (h : splitBracketed? cs = none) :
    splitHost cs =
      (if (cs.takeWhile isBareHostChar).isEmpty then none else some (cs.takeWhile isBareHostChar),
        cs.dropWhile isBareHostChar) := by
  rw [splitHost, h]
  rfl

lemma splitHost_brackets (hne : host ≠ []) (hhost : ∀ c ∈ host, isHostChar c)
    (htail : FollowsHost tail) : splitHost ('[' :: (host ++ ']' :: tail)) = (some host, tail) :=
  splitHost_of_some (splitBracketed?_brackets hne hhost htail.bracket)

/-- The characters of a bare host, with those that are taken for the host behind an opening
bracket. -/
lemma takeWhile_isHostChar_append (hhost : ∀ c ∈ host, isBareHostChar c) (tail : List Char) :
    (host ++ tail).takeWhile isHostChar = host ++ tail.takeWhile isHostChar :=
  List.takeWhile_append_of_pos fun c hc => (isBareHostChar_iff.mp (hhost c hc)).1

lemma splitHost_bare (hhost : ∀ c ∈ host, isBareHostChar c) (hnot : ¬ Bracketed host)
    (htail : FollowsHost tail) :
    splitHost (host ++ tail) = (if host.isEmpty then none else some host, tail) := by
  have hhead : ∀ c ∈ tail.head?, isBareHostChar c = false := by
    intro c hc
    rw [Bool.eq_false_iff, ne_eq, isBareHostChar_iff, not_and_or, Bool.not_eq_true, not_not]
    exact htail.head c hc
  have hbrackets : splitBracketed? (host ++ tail) = none := by
    cases host with
    | nil =>
      refine splitBracketed?_of_head? fun hopen => ?_
      exact absurd (htail.head '[' hopen) (by decide)
    | cons c host =>
      by_cases hopen : c = '['
      · subst hopen
        rw [List.forall_mem_cons] at hhost
        rw [List.cons_append, splitBracketed?_eq_none_iff, takeWhile_isHostChar_append hhost.2,
          List.drop_append, List.mem_append, not_or]
        exact ⟨fun hmem => hnot ⟨rfl, hmem⟩, fun hmem => htail.bracket (List.mem_of_mem_drop hmem)⟩
      · exact splitBracketed?_of_head? (by simpa using hopen)
  obtain ⟨htake, hdrop⟩ := takeWhile_append_of_head? hhost hhead
  rw [splitHost_of_none hbrackets, htake, hdrop]

/-- A bare host with brackets of its own is taken for less than it is. -/
lemma splitHost_bracketed (hhost : ∀ c ∈ host, isBareHostChar c) (h : Bracketed host)
    (htail : FollowsHost tail) :
    ∃ inner, (splitHost (host ++ tail)).1 = some inner ∧ inner.length < host.length := by
  obtain ⟨host', rfl⟩ : ∃ host', host = '[' :: host' := by
    cases host with
    | nil => cases h.1
    | cons c host => exact ⟨host, by rw [Option.some.inj h.1]⟩
  rw [List.forall_mem_cons] at hhost
  have hrun := takeWhile_isHostChar_append hhost.2 tail
  cases hfound : splitBracketed? ('[' :: (host' ++ tail)) with
  | none =>
    rw [splitBracketed?_eq_none_iff, hrun, List.drop_append, List.mem_append, not_or] at hfound
    exact absurd h.2 hfound.1
  | some pair =>
    obtain ⟨inner, rest⟩ := pair
    refine ⟨inner, by rw [List.cons_append, splitHost_of_some hfound], ?_⟩
    obtain ⟨-, after, hcut, -⟩ := exists_of_splitBracketed? hfound
    rw [hrun] at hcut
    rcases List.append_eq_append_iff.mp hcut with ⟨more, rfl, hmore⟩ | ⟨more, rfl, -⟩
    · exact absurd (hmore ▸ List.mem_append_right _ List.mem_cons_self) htail.bracket
    · simp only [List.length_cons, List.length_append]
      omega

/-- A host is not empty, and stands before the first slash. -/
lemma mem_of_splitHost (h : (splitHost cs).1 = some host) :
    host ≠ [] ∧ ∀ c ∈ host, isHostChar c ∧ c ∈ cs.takeWhile (· != '/') := by
  have hslash : ∀ c, isHostChar c → (c != '/') = true := fun c hc => by
    simpa using (isHostChar_iff.mp hc).1
  cases hbrackets : splitBracketed? cs with
  | none =>
    rw [splitHost_of_none hbrackets] at h
    simp only at h
    split_ifs at h with hempty
    cases h
    refine ⟨by simpa using hempty, fun c hc => ?_⟩
    have hbare : isBareHostChar c := List.mem_takeWhile_imp hc
    exact ⟨(isBareHostChar_iff.mp hbare).1, takeWhile_subset_takeWhile
      (fun d hd => hslash d (isBareHostChar_iff.mp hd).1) hc⟩
  | some pair =>
    obtain ⟨host', rest⟩ := pair
    rw [splitHost_of_some hbrackets] at h
    cases h
    obtain ⟨cs', rfl⟩ : ∃ cs', cs = '[' :: cs' := by
      unfold splitBracketed? at hbrackets
      split at hbrackets
      · exact ⟨_, rfl⟩
      · cases hbrackets
    obtain ⟨hne, after, hrun, -⟩ := exists_of_splitBracketed? hbrackets
    refine ⟨hne, fun c hc => ?_⟩
    have hmem : c ∈ cs'.takeWhile isHostChar := hrun ▸ List.mem_append_left _ hc
    refine ⟨List.mem_takeWhile_imp hmem, ?_⟩
    rw [List.takeWhile_cons_of_pos rfl]
    exact List.mem_cons_of_mem _ (takeWhile_subset_takeWhile hslash hmem)

/-! ## Parts behind a mark -/

/-- A part as it stands behind its mark. -/
def marked (mark : Char) : Option (List Char) → List Char
  | none => []
  | some part => mark :: part

lemma mem_marked {mark : Char} {part : Option (List Char)} (h : c ∈ marked mark part) :
    c = mark ∨ ∃ cs ∈ part, c ∈ cs := by
  cases part with
  | none => cases h
  | some cs => exact (List.mem_cons.mp h).imp id fun hc => ⟨cs, rfl, hc⟩

lemma mem_head?_marked_append {mark : Char} {part : Option (List Char)}
    (h : c ∈ (marked mark part ++ rest).head?) : c = mark ∨ c ∈ rest.head? := by
  cases part with
  | none => exact .inr h
  | some cs => exact .inl (Option.some.inj h).symm

lemma eq_of_mem_head?_marked {mark : Char} {part : Option (List Char)}
    (h : c ∈ (marked mark part).head?) : c = mark := by
  rw [← List.append_nil (marked mark part)] at h
  rcases mem_head?_marked_append h with hc | hc
  · exact hc
  · cases hc

/-- A part is found if what follows it starts with neither its mark nor a character that belongs to
it. -/
lemma splitPart_marked {mark : Char} {part : Option (List Char)}
    (hpart : ∀ cs ∈ part, ∀ c ∈ cs, p c) (hrest : ∀ c ∈ rest.head?, p c = false ∧ c ≠ mark) :
    splitPart mark p (marked mark part ++ rest) = (part, rest) := by
  cases part with
  | none =>
    cases rest with
    | nil => rfl
    | cons c rest => exact if_neg (hrest c rfl).2
  | some cs =>
    obtain ⟨htake, hdrop⟩ :=
      takeWhile_append_of_head? (hpart cs rfl) fun c hc => (hrest c hc).1
    rw [marked, List.cons_append, splitPart, if_pos rfl, htake, hdrop]

end FirewallPolicy.Url
