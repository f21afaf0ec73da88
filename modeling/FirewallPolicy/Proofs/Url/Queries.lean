import FirewallPolicy.Proofs.Text.Cuts
import FirewallPolicy.Proofs.Url.PercentCoding
import FirewallPolicy.Url.Connection
import Mathlib.Data.List.Nodup
import Mathlib.Data.List.Perm.Basic

/-!
# Queries that are read back

* `IsQuery`: entries with no key twice and no value left empty.
* `isQuery_readQuery`: a query is always read to such entries.
* `readQuery_queryText`: they are read back as they were written, in the order of their keys.
-/

namespace FirewallPolicy.Url

open FirewallPolicy.Text

/-- The values of each key of a query. -/
abbrev Entries := List (List Char × List (List Char))

variable {c : Char} {key value : List Char} {values : List (List Char)} {entries query : Entries}

/-! ## Entries -/

/-- No key is there twice, and every key has a value that is not empty, and no other ones. -/
structure IsQuery (query : Entries) : Prop where
  nodup : (query.map Prod.fst).Nodup
  values : ∀ entry ∈ query, entry.2 ≠ [] ∧ [] ∉ entry.2

lemma isQuery_nil : IsQuery [] := ⟨List.nodup_nil, fun _ h => nomatch h⟩

/-- The keys stay as they are, or there is a new one behind them. -/
lemma keys_addValue (key value : List Char) (entries : Entries) :
    (addValue key value entries).map Prod.fst =
      if key ∈ entries.map Prod.fst then entries.map Prod.fst
      else entries.map Prod.fst ++ [key] := by
  induction entries with
  | nil => rfl
  | cons entry entries ih =>
    rw [addValue]
    by_cases hkey : entry.1 = key
    · simp [hkey]
    · have hkey' : key ≠ entry.1 := Ne.symm hkey
      rw [if_neg hkey, List.map_cons, ih, List.map_cons]
      simp only [List.mem_cons, hkey', false_or]
      split_ifs <;> rfl

/-- An entry that was there before, or one that the value was put to. -/
lemma mem_addValue {entry : List Char × List (List Char)}
    (h : entry ∈ addValue key value entries) :
    entry ∈ entries ∨ entry = (key, [value]) ∨
      ∃ values, (key, values) ∈ entries ∧ entry = (key, values ++ [value]) := by
  induction entries with
  | nil => exact .inr (.inl (List.mem_singleton.mp h))
  | cons first entries ih =>
    rw [addValue] at h
    split_ifs at h with hkey
    · rcases List.mem_cons.mp h with rfl | h
      · rw [← hkey]
        exact .inr (.inr ⟨first.2, List.mem_cons_self, rfl⟩)
      · exact .inl (List.mem_cons_of_mem _ h)
    · rcases List.mem_cons.mp h with rfl | h
      · exact .inl List.mem_cons_self
      · rcases ih h with h | h | ⟨values, hmem, h⟩
        · exact .inl (List.mem_cons_of_mem _ h)
        · exact .inr (.inl h)
        · exact .inr (.inr ⟨values, List.mem_cons_of_mem _ hmem, h⟩)

lemma isQuery_addValue (h : IsQuery entries) (hvalue : value ≠ []) :
    IsQuery (addValue key value entries) := by
  constructor
  · rw [keys_addValue]
    split_ifs with hkey
    · exact h.nodup
    · exact List.nodup_append.mpr ⟨h.nodup, by simp, by
        rintro k hk k' hk' rfl
        exact hkey (List.mem_singleton.mp hk' ▸ hk)⟩
  · intro entry hentry
    rcases mem_addValue hentry with hentry | rfl | ⟨values, hmem, rfl⟩
    · exact h.values entry hentry
    · simpa using Ne.symm hvalue
    · simpa [(h.values _ hmem).2] using Ne.symm hvalue

/-- The value of a pair is not empty. -/
lemma value_ne_nil_of_queryPair? {piece : List Char} {pair : List Char × List Char}
    (h : queryPair? piece = some pair) : pair.2 ≠ [] := by
  unfold queryPair? at h
  split at h
  · rename_i key value hcut
    split_ifs at h with hempty
    cases h
    refine decode_ne_nil ?_
    simpa using hempty
  · cases h

/-- The pairs of a query are put to the entries one after the other. -/
lemma readQuery_eq (cs : List Char) :
    readQuery cs = ((fieldsOf '&' cs).filterMap queryPair?).foldl
      (fun entries pair => addValue pair.1 pair.2 entries) [] := rfl

/-- A query is read to entries with keys of their own and values that are not empty. -/
theorem isQuery_readQuery (cs : List Char) : IsQuery (readQuery cs) := by
  have hfold : ∀ (pairs : List (List Char × List Char)) (entries : Entries), IsQuery entries →
      (∀ pair ∈ pairs, pair.2 ≠ []) →
      IsQuery (pairs.foldl (fun entries pair => addValue pair.1 pair.2 entries) entries) := by
    intro pairs
    induction pairs with
    | nil => exact fun entries h _ => h
    | cons pair pairs ih =>
      intro entries h hpairs
      rw [List.forall_mem_cons] at hpairs
      exact ih _ (isQuery_addValue h hpairs.1) hpairs.2
  rw [readQuery_eq]
  refine hfold _ _ isQuery_nil fun pair hpair => ?_
  obtain ⟨piece, -, hpiece⟩ := List.mem_filterMap.mp hpair
  exact value_ne_nil_of_queryPair? hpiece

/-! ## The order of the keys -/

/-- The first character that differs decides. -/
lemma charsLe_cons_iff {d : Char} {cs ds : List Char} :
    charsLe (c :: cs) (d :: ds) ↔ c < d ∨ c = d ∧ charsLe cs ds := by
  rw [charsLe]
  by_cases hcd : c = d
  · simp [hcd]
  · simp [hcd]

lemma charsLe_total (cs ds : List Char) : charsLe cs ds || charsLe ds cs := by
  rw [Bool.or_eq_true]
  induction cs generalizing ds with
  | nil => exact .inl rfl
  | cons c cs ih =>
    cases ds with
    | nil => exact .inr rfl
    | cons d ds =>
      rw [charsLe_cons_iff, charsLe_cons_iff]
      rcases Std.lt_trichotomy c d with h | rfl | h
      · exact .inl (.inl h)
      · exact (ih ds).imp (fun h => .inr ⟨rfl, h⟩) fun h => .inr ⟨rfl, h⟩
      · exact .inr (.inl h)

lemma charsLe_trans (cs ds es : List Char) (h₁ : charsLe cs ds) (h₂ : charsLe ds es) :
    charsLe cs es := by
  induction cs generalizing ds es with
  | nil => rfl
  | cons c cs ih =>
    cases ds with
    | nil => cases h₁
    | cons d ds =>
      cases es with
      | nil => cases h₂
      | cons e es =>
        rw [charsLe_cons_iff] at h₁ h₂ ⊢
        rcases h₁ with h₁ | ⟨rfl, h₁⟩
        · rcases h₂ with h₂ | ⟨rfl, -⟩
          · exact .inl (Char.lt_trans h₁ h₂)
          · exact .inl h₁
        · rcases h₂ with h₂ | ⟨rfl, h₂⟩
          · exact .inl h₂
          · exact .inr ⟨rfl, ih ds es h₁ h₂⟩

/-- The entries in the order of their keys. -/
def byKey (query : Entries) : Entries := query.mergeSort fun a b => charsLe a.1 b.1

lemma byKey_perm (query : Entries) : (byKey query).Perm query := List.mergeSort_perm _ _

lemma byKey_byKey (query : Entries) : byKey (byKey query) = byKey query :=
  List.mergeSort_of_pairwise <| List.pairwise_mergeSort
    (fun a b c => charsLe_trans a.1 b.1 c.1) (fun a b => charsLe_total a.1 b.1) query

lemma isQuery_byKey (h : IsQuery query) : IsQuery (byKey query) :=
  ⟨((byKey_perm query).map Prod.fst).nodup_iff.mpr h.nodup, fun entry hentry =>
    h.values entry ((byKey_perm query).mem_iff.mp hentry)⟩

/-! ## Reading what was written -/

/-- A value is read back with its key. -/
lemma queryPair?_queryItem (key : List Char) (hvalue : value ≠ []) :
    queryPair? (queryItem key value) = some (key, value) := by
  have hkey : '=' ∉ codeQuery key := by
    intro hmem
    rcases mem_codeQuery hmem with h | h | h <;> exact absurd h (by decide)
  have hcoded : (codeQuery value).isEmpty = false := by
    simpa using codeQuery_ne_nil hvalue
  rw [queryPair?, queryItem, cutAt?_append hkey]
  simp only [hcoded, Bool.false_eq_true, if_false, decodeQuery_codeQuery]

/-- The characters of a pair. -/
lemma mem_queryItem (h : c ∈ queryItem key value) :
    isUnreserved c ∨ c = '+' ∨ c = '%' ∨ c = '=' := by
  rw [queryItem, List.mem_append, List.mem_cons] at h
  rcases h with h | h | h
  · rcases mem_codeQuery h with h | h | h <;> simp [h]
  · simp [h]
  · rcases mem_codeQuery h with h | h | h <;> simp [h]

/-- A new key is put behind the others. -/
lemma addValue_of_notMem (h : key ∉ entries.map Prod.fst) :
    addValue key value entries = entries ++ [(key, [value])] := by
  induction entries with
  | nil => rfl
  | cons entry entries ih =>
    rw [List.map_cons, List.mem_cons, not_or] at h
    rw [addValue, if_neg (Ne.symm h.1), ih h.2, List.cons_append]

/-- Values of the last key are put behind those that it has. -/
lemma foldl_addValue (h : key ∉ entries.map Prod.fst) (more : List (List Char)) :
    more.foldl (fun entries v => addValue key v entries) (entries ++ [(key, values)]) =
      entries ++ [(key, values ++ more)] := by
  have hone : ∀ values value, addValue key value (entries ++ [(key, values)]) =
      entries ++ [(key, values ++ [value])] := by
    intro values value
    induction entries with
    | nil => simp [addValue]
    | cons entry entries ih =>
      rw [List.map_cons, List.mem_cons, not_or] at h
      rw [List.cons_append, addValue, if_neg (Ne.symm h.1), ih h.2, List.cons_append]
  induction more generalizing values with
  | nil => rw [List.foldl_nil, List.append_nil]
  | cons value more ih =>
    rw [List.foldl_cons, hone, ih, List.append_assoc, List.singleton_append]

/-- The pairs of a key and a value that stand for entries. -/
def pairsOf (query : Entries) : List (List Char × List Char) :=
  query.flatMap fun entry => entry.2.map (entry.1, ·)

/-- Pairs make up the entries again that they stand for. -/
lemma foldl_addValue_pairsOf (hnodup : ((entries ++ query).map Prod.fst).Nodup)
    (hvalues : ∀ entry ∈ query, entry.2 ≠ []) :
    (pairsOf query).foldl (fun entries pair => addValue pair.1 pair.2 entries) entries =
      entries ++ query := by
  induction query generalizing entries with
  | nil => simp [pairsOf]
  | cons entry query ih =>
    rw [List.forall_mem_cons] at hvalues
    have hkey : entry.1 ∉ entries.map Prod.fst := by
      rw [List.map_append, List.nodup_append] at hnodup
      exact fun hmem => hnodup.2.2 _ hmem _ List.mem_cons_self rfl
    have hentry : (entry.2.map (entry.1, ·)).foldl
        (fun entries pair => addValue pair.1 pair.2 entries) entries = entries ++ [entry] := by
      obtain ⟨value, more, hcons⟩ := List.exists_cons_of_ne_nil hvalues.1
      rw [hcons, List.foldl_map, List.foldl_cons, addValue_of_notMem hkey, foldl_addValue hkey,
        List.singleton_append, ← hcons]
    rw [pairsOf, List.flatMap_cons, List.foldl_append, hentry, ← pairsOf, ih _ hvalues.2]
    · rw [List.append_assoc, List.singleton_append]
    · rwa [List.append_assoc, List.singleton_append]

/-- A written query is cut into the pairs that stand for its entries. -/
lemma filterMap_queryText (h : IsQuery query) :
    (fieldsOf '&' (queryText query)).filterMap queryPair? = pairsOf (byKey query) := by
  set items := (pairsOf (byKey query)).map fun pair => queryItem pair.1 pair.2 with hitems
  have htext : queryText query = joinWith '&' items := by
    simp only [queryText, hitems, pairsOf, List.map_flatMap, List.map_map]
    rfl
  have hread : items.filterMap queryPair? = pairsOf (byKey query) := by
    rw [hitems, List.filterMap_map]
    refine (List.filterMap_congr fun pair hpair => ?_).trans List.filterMap_some
    obtain ⟨entry, hentry, hpair⟩ := List.mem_flatMap.mp hpair
    obtain ⟨value, hvalue, rfl⟩ := List.mem_map.mp hpair
    have hne : value ≠ [] := fun hnil =>
      ((isQuery_byKey h).values entry hentry).2 (hnil ▸ hvalue)
    exact queryPair?_queryItem entry.1 hne
  have hsep : ∀ item ∈ items, '&' ∉ item := by
    intro item hitem hmem
    obtain ⟨pair, -, rfl⟩ := List.mem_map.mp hitem
    rcases mem_queryItem hmem with h | h | h | h <;> exact absurd h (by decide)
  rw [htext]
  by_cases hnil : items = []
  · rw [← hread, hnil]
    rfl
  · rw [fieldsOf_joinWith hnil hsep, hread]

/-- What was written is read back, in the order of the keys. -/
theorem readQuery_queryText (h : IsQuery query) : readQuery (queryText query) = byKey query := by
  have hkeys := isQuery_byKey h
  rw [readQuery_eq, filterMap_queryText h, foldl_addValue_pairsOf hkeys.nodup fun entry hentry =>
    (hkeys.values entry hentry).1]
  rfl

/-- A query is written as the entries are in the order of their keys. -/
lemma queryText_byKey (query : Entries) : queryText (byKey query) = queryText query := by
  have horder := byKey_byKey query
  simp only [byKey] at horder
  simp only [queryText, byKey, horder]

/-- The characters of a written query. -/
lemma mem_queryText (h : c ∈ queryText query) :
    isUnreserved c ∨ c = '+' ∨ c = '%' ∨ c = '=' ∨ c = '&' := by
  rw [queryText] at h
  refine forall_mem_joinWith (p := fun c => isUnreserved c ∨ c = '+' ∨ c = '%' ∨ c = '=' ∨ c = '&')
    (by simp) ?_ c h
  intro item hitem d hd
  obtain ⟨entry, -, hentry⟩ := List.mem_flatMap.mp hitem
  obtain ⟨value, -, rfl⟩ := List.mem_map.mp hentry
  rcases mem_queryItem hd with h | h | h | h <;> simp [h]

end FirewallPolicy.Url
