import FirewallPolicy.Country.Dump
import FirewallPolicy.Proofs.Address.Cover
import FirewallPolicy.Proofs.Text.EndedLines
import Mathlib.Tactic.Common

/-!
# Dumps cover the ranges of the countries exactly

* `IsExactCover`: networks that begin and end with a range, leave no gap, do not overlap, and are as
  few as possible.
* `isExactCover_networks`: the networks of a range are an exact cover of it.
* `fieldsOf_dump`: a dump is cut at its line feeds into the statements, the rows and the line behind
  them; no column spreads over a second line.
* `columnsOf_rowText`: the columns of a row are read back from its line.
* `dump_covers_ranges`: the rows of a dump are, range by range, the networks that cover it exactly.
-/

namespace FirewallPolicy.Country

open FirewallPolicy.Address
open FirewallPolicy.Calendar (DateTime)
open FirewallPolicy.Text (fieldsOf joinWith)

/-! ## Networks of a range -/

/-- The networks that cover the addresses from one to another exactly. -/
structure IsExactCover (first last : IPv4) (blocks : List Network) : Prop where
  aligned : ∀ n ∈ blocks, blockSize (32 - n.length) ∣ n.address
  starts : blocks.head?.map Network.address = some first.value
  adjacent : blocks.IsChain fun m n => n.address = m.last + 1
  ends : blocks.getLast?.map Network.last = some last.value
  shortest : ∀ others : List Network,
    (∀ a : IPv4, (∃ n ∈ others, n.contains a) ↔ first.value ≤ a.value ∧ a.value ≤ last.value) →
      blocks.length ≤ others.length

/-- The networks of a range cover it exactly. -/
theorem isExactCover_networks (range : Range) (h : range.first.value ≤ range.last.value) :
    IsExactCover range.first range.last range.networks := by
  have hlast := range.last.value_lt
  have hsum : range.first.value + (range.last.value + 1 - range.first.value) =
      range.last.value + 1 := by omega
  have htiles : Tiles range.first.value (range.last.value + 1) range.networks := by
    rw [← hsum]
    exact tiles_cover (by omega)
  have hne : range.networks ≠ [] := by
    intro hnil
    rw [hnil] at htiles
    have hempty : range.first.value = range.last.value + 1 := htiles
    omega
  obtain ⟨hstarts, hadjacent, hends⟩ := htiles.spec hne
  refine ⟨fun n _ => n.aligned, hstarts, hadjacent, ?_, fun others hothers => ?_⟩
  · obtain ⟨n, hn, hnext⟩ := Option.map_eq_some_iff.mp hends
    rw [hn, Option.map_some, Nat.succ.inj hnext]
  · apply length_cover_le
    rw [hsum]
    exact Fills.of_contains hothers

/-! ## Columns -/

/-- What a column stands for: behind a backslash a `t` is a tab, an `n` is a line feed, and any
other character is itself. -/
def unescape : List Char → List Char
  | [] => []
  | '\\' :: 't' :: cs => '\t' :: unescape cs
  | '\\' :: 'n' :: cs => '\n' :: unescape cs
  | '\\' :: c :: cs => c :: unescape cs
  | c :: cs => c :: unescape cs

/-- The columns that are read from a line. -/
def columnsOf (line : List Char) : List String :=
  (fieldsOf '\t' line).map fun column => String.ofList (unescape column)

/-- A character is read back as it was before it was put into a column. -/
lemma unescape_escapeChar (c : Char) (cs : List Char) :
    unescape (escapeChar c ++ cs) = c :: unescape cs := by
  unfold escapeChar
  split_ifs with hbackslash htab hline
  · subst hbackslash
    rfl
  · subst htab
    rfl
  · subst hline
    rfl
  · rw [List.singleton_append, unescape]
    · exact fun _ h => absurd h hbackslash
    · exact fun _ h => absurd h hbackslash
    · exact fun _ _ h => absurd h hbackslash

/-- A column is read back as the text that was put into it. -/
lemma unescape_escape (s : String) : unescape (escape s).toList = s.toList := by
  unfold escape
  rw [String.toList_ofList]
  induction s.toList with
  | nil => rfl
  | cons c cs ih => rw [List.flatMap_cons, unescape_escapeChar, ih]

/-- Neither a tab nor a line feed stands in a column. -/
lemma notMem_escape {c : Char} (h : c = '\t' ∨ c = '\n') (s : String) :
    c ∉ (escape s).toList := by
  unfold escape
  rw [String.toList_ofList, List.mem_flatMap]
  rintro ⟨d, -, hd⟩
  unfold escapeChar at hd
  -- Every character of an escaped one is a backslash, a letter or the character itself.
  split_ifs at hd with hbackslash htab hline
  · rcases h with rfl | rfl <;> simp at hd
  · rcases h with rfl | rfl <;> simp at hd
  · rcases h with rfl | rfl <;> simp at hd
  · rw [List.mem_singleton] at hd
    subst hd
    exact h.elim htab hline

/-! ## Rows -/

/-- The line of a row is joined from the written columns. -/
lemma toList_rowText (columns : List String) :
    (rowText columns).toList = joinWith '\t' (columns.map fun column => (escape column).toList) := by
  unfold rowText
  rw [Shell.toList_intercalate '\t' rfl, List.map_map]
  rfl

/-- The line of a row is cut into the written columns. -/
lemma fieldsOf_rowText {columns : List String} (h : columns ≠ []) :
    fieldsOf '\t' (rowText columns).toList = columns.map fun column => (escape column).toList := by
  rw [toList_rowText]
  apply Text.fieldsOf_joinWith (by simpa using h)
  intro piece hpiece
  obtain ⟨column, -, rfl⟩ := List.mem_map.mp hpiece
  exact notMem_escape (.inl rfl) column

/-- The columns of a row are read back from its line. -/
lemma columnsOf_rowText {columns : List String} (h : columns ≠ []) :
    columnsOf (rowText columns).toList = columns := by
  have hback : ∀ s : String, String.ofList (unescape (escape s).toList) = s := by
    intro s
    rw [unescape_escape, String.ofList_toList]
  unfold columnsOf
  rw [fieldsOf_rowText h, List.map_map]
  exact (List.map_congr_left fun s _ => hback s).trans (List.map_id _)

/-- No line feed stands in a row. -/
lemma notMem_rowText (columns : List String) : '\n' ∉ (rowText columns).toList := by
  have hall : ∀ c ∈ (rowText columns).toList, c ≠ '\n' := by
    rw [toList_rowText]
    refine Text.forall_mem_joinWith (p := fun c => c ≠ '\n') (by decide) ?_
    intro piece hpiece c hc hline
    obtain ⟨column, -, rfl⟩ := List.mem_map.mp hpiece
    subst hline
    exact notMem_escape (.inr rfl) column hc
  exact fun hmem => hall '\n' hmem rfl

/-- The statements are plain lines. -/
lemma plain_of_mem_dumpHeader :
    ∀ line ∈ dumpHeader, ∀ c ∈ line.toList, c ≠ '\\' ∧ c ≠ '\n' ∧ c ≠ '\r' := by
  have hall : ∀ line ∈ dumpHeader, line.toList.all fun c => c ≠ '\\' ∧ c ≠ '\n' ∧ c ≠ '\r' := by
    decide +kernel
  simpa only [List.all_eq_true, decide_eq_true_eq] using hall

/-- The lines of a dump: the statements, the rows, the line behind them, and nothing more. -/
lemma fieldsOf_dump (uuid : Nat → String) (inserted : DateTime) (ranges : List Range) :
    fieldsOf '\n' (dump uuid inserted ranges).toList =
      (dumpHeader ++ (rows uuid inserted ranges).map rowText ++ [dumpEnd]).map String.toList ++
        [[]] := by
  have hlines : ∀ line ∈ dumpHeader ++ (rows uuid inserted ranges).map rowText ++ [dumpEnd],
      '\n' ∉ line.toList := by
    intro line hline
    simp only [List.mem_append, List.mem_map, List.mem_singleton] at hline
    rcases hline with (hline | ⟨columns, -, rfl⟩) | rfl
    · exact fun hfeed => (plain_of_mem_dumpHeader line hline _ hfeed).2.1 rfl
    · exact notMem_rowText columns
    · decide
  have hne : dumpHeader ++ (rows uuid inserted ranges).map rowText ++ [dumpEnd] ≠ [] := by simp
  unfold dump
  rw [← Text.joinLines_eq_intercalate hne, Text.fieldsOf_joinLines hlines]

/-- What does not depend on the identifiers of the rows is found range by range. -/
lemma map_rows {α : Type*} (uuid : Nat → String) (inserted : DateTime) (ranges : List Range)
    {f : List String → α} {g : Range → Network → α}
    (h : ∀ n range network, f (row (uuid n) inserted range network) = g range network) :
    (rows uuid inserted ranges).map f =
      ranges.flatMap fun range => range.networks.map fun network => g range network := by
  unfold rows
  generalize hblocks : (ranges.flatMap fun range =>
    range.networks.map fun network => (range, network)) = blocks
  have hrow : (blocks.zipIdx 1).map (f ∘ fun block =>
      row (uuid block.2) inserted block.1.1 block.1.2) =
      ((blocks.zipIdx 1).map Prod.fst).map fun block => g block.1 block.2 := by
    rw [List.map_map]
    exact List.map_congr_left fun block _ => h _ _ _
  rw [List.map_map]
  refine hrow.trans ?_
  rw [List.zipIdx_map_fst, ← hblocks, List.map_flatMap]
  simp only [List.map_map]
  rfl

/-- The rows without their identifiers: one for each network of each range. -/
lemma map_tail_rows (uuid : Nat → String) (inserted : DateTime) (ranges : List Range) :
    (rows uuid inserted ranges).map List.tail = ranges.flatMap fun range =>
      range.networks.map fun network =>
        [network.text, range.registry, range.shortCode, range.longCode, range.country,
          range.assigned.text, inserted.text] :=
  map_rows uuid inserted ranges fun _ _ _ => rfl

/-- The identifiers of the rows are taken in their order. -/
lemma map_head?_rows (uuid : Nat → String) (inserted : DateTime) (ranges : List Range) :
    (rows uuid inserted ranges).map List.head? =
      (List.range (rows uuid inserted ranges).length).map fun n => some (uuid (n + 1)) := by
  unfold rows
  generalize (ranges.flatMap fun range =>
    range.networks.map fun network => (range, network)) = blocks
  have hheads : (blocks.zipIdx 1).map (fun block =>
      (row (uuid block.2) inserted block.1.1 block.1.2).head?) =
      ((blocks.zipIdx 1).map Prod.snd).map fun n => some (uuid n) := by
    rw [List.map_map]
    rfl
  rw [List.map_map]
  refine hheads.trans ?_
  rw [List.zipIdx_map_snd, List.range'_eq_map_range, List.map_map, List.length_map,
    List.length_zipIdx]
  exact List.map_congr_left fun n _ => by rw [Function.comp_apply, Nat.add_comm]

/-- No row is empty. -/
lemma ne_nil_of_mem_rows {uuid : Nat → String} {inserted : DateTime} {ranges : List Range}
    {columns : List String} (h : columns ∈ rows uuid inserted ranges) : columns ≠ [] := by
  obtain ⟨block, -, rfl⟩ := List.mem_map.mp h
  exact List.cons_ne_nil _ _

/-- The rows are read back from their lines. -/
lemma map_columnsOf_rowText (uuid : Nat → String) (inserted : DateTime) (ranges : List Range) :
    (((rows uuid inserted ranges).map rowText).map String.toList).map columnsOf =
      rows uuid inserted ranges := by
  rw [List.map_map, List.map_map]
  conv_rhs => rw [← List.map_id (rows uuid inserted ranges)]
  exact List.map_congr_left fun columns h => columnsOf_rowText (ne_nil_of_mem_rows h)

/-- Every range is covered exactly, and a dump has one row for each network of each range. -/
theorem dump_covers_ranges (uuid : Nat → String) (inserted : DateTime) :
    (∀ range : Range, range.first.value ≤ range.last.value →
      IsExactCover range.first range.last range.networks) ∧
    ∀ ranges : List Range, ∃ lines : List (List Char),
      fieldsOf '\n' (dump uuid inserted ranges).toList =
        dumpHeader.map String.toList ++ lines ++ [dumpEnd.toList, []] ∧
      (lines.map columnsOf).map List.head? =
        (List.range lines.length).map (fun n => some (uuid (n + 1))) ∧
      (lines.map columnsOf).map List.tail =
        ranges.flatMap fun range => range.networks.map fun network =>
          [network.text, range.registry, range.shortCode, range.longCode, range.country,
            range.assigned.text, inserted.text] := by
  refine ⟨isExactCover_networks, fun ranges =>
    ⟨((rows uuid inserted ranges).map rowText).map String.toList, ?_, ?_, ?_⟩⟩
  · rw [fieldsOf_dump]
    simp
  · rw [map_columnsOf_rowText, map_head?_rows, List.length_map, List.length_map]
  · rw [map_columnsOf_rowText, map_tail_rows]

/-- The hosts of a subnet of eight addresses, which are no network themselves. -/
def hostRange : Range where
  first := ⟨0x0A000001, by decide⟩
  last := ⟨0x0A000006, by decide⟩
  registry := "ripencc"
  assigned := ⟨⟨2012, 2, 29⟩, 0, 0, 0, 0, some 0⟩
  shortCode := "DE"
  longCode := "DEU"
  country := "Germany"

example : hostRange.networks.map Network.text =
    ["10.0.0.1/32", "10.0.0.2/31", "10.0.0.4/31", "10.0.0.6/32"] := by decide +kernel

theorem hostRange_covered :
    hostRange.first.value ≤ hostRange.last.value ∧
      IsExactCover hostRange.first hostRange.last hostRange.networks :=
  ⟨by decide, (dump_covers_ranges uuidText hostRange.assigned).1 hostRange (by decide)⟩

end FirewallPolicy.Country
