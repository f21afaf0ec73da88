import FirewallPolicy.Files.FileSystem
import Mathlib.Tactic.Common

/-!
# Writing files

A file that was written holds what was written, and nothing on the way to it has changed.

* `FileSystem.entry?_put`: what stands at some names after an entry was put at others.
* `FileSystem.resolve_put`: a path leads where it led if no directory was put in its way.
* `IsWritable`: the files that can be written, the directories on the way to them made.
* `writeText_cases`: such a file, when it was written, holds what was written, and no other file can
  be written.
-/

namespace FirewallPolicy.Files

namespace FileSystem

variable {fs fs' : FileSystem} {names here target : List String} {e : Entry} {p : Path}
  {bytes : List UInt8}

/-! ## Entries -/

/-- What stands at some names after an entry was put at others. -/
lemma entry?_put (hnames : names ≠ []) (fs : FileSystem) (e : Entry) (here : List String) :
    entry? (fs.put names e) here = if here = names then some e else fs.entry? here := by
  rcases Decidable.eq_or_ne here [] with rfl | hhere
  · rw [if_neg hnames.symm]
    rfl
  have hempty : ¬ here.isEmpty := by simpa using hhere
  unfold entry? put
  simp only [if_neg hempty]
  split
  · rename_i hthere
    -- The keys stay as they are, so what is found is the changed entry that was found before.
    have hkeys : ∀ x : List String × Entry, (if x.1 == names then (names, e) else x).1 = x.1 := by
      intro x
      split
      · rename_i hx
        exact (beq_iff_eq.mp hx).symm
      · rfl
    have hfind : ((fun x : List String × Entry => x.1 == here) ∘ fun x =>
        if x.1 == names then (names, e) else x) = fun x => x.1 == here := by
      funext x
      rw [Function.comp_apply, hkeys]
    rw [List.find?_map, hfind]
    cases hfound : fs.entries.find? (·.1 == here) with
    | none =>
      have hne : here ≠ names := by
        rintro rfl
        obtain ⟨x, hx, hkey⟩ := List.any_eq_true.mp hthere
        exact List.find?_eq_none.mp hfound x hx hkey
      rw [if_neg hne]
      rfl
    | some x =>
      have hkey : x.1 = here := by simpa using List.find?_some hfound
      subst hkey
      by_cases hx : x.1 = names <;> simp [hx]
  · rename_i hnew
    rw [List.find?_append, Option.map_or]
    by_cases hne : here = names
    · subst hne
      have hnone : fs.entries.find? (·.1 == here) = none := by
        rw [List.find?_eq_none]
        intro x hx hkey
        exact hnew (List.any_eq_true.mpr ⟨x, hx, hkey⟩)
      simp [hnone]
    · simp [hne, Ne.symm hne]

/-- At the empty names there is always the root. -/
lemma ne_nil_of_notDirectory (h : fs.entry? names ≠ some .directory) : names ≠ [] := by
  rintro rfl
  exact h rfl

/-! ## Paths -/

/-- Following names passes through directories alone, so what is no directory is only met at the
end. -/
lemma follow_put (hnot : fs.entry? target ≠ some .directory) (e : Entry) {path : List String}
    (h : fs.follow here path = .ok target) : (fs.put target e).follow here path = .ok target := by
  induction path generalizing here with
  | nil => exact h
  | cons name rest ih =>
    rw [follow] at h ⊢
    split at h
    · rename_i hdirectory
      have hne : here ≠ target := by
        rintro rfl
        exact hnot hdirectory
      rw [entry?_put (ne_nil_of_notDirectory hnot), if_neg hne, hdirectory]
      dsimp only
      split at h
      · cases h
      · rename_i hlimit
        rw [if_neg hlimit]
        exact ih h
    · cases h
    · cases h

/-- A path leads where it led after something was put there. -/
lemma resolve_put (hnot : fs.entry? target ≠ some .directory) (e : Entry)
    (h : fs.resolve p = .ok target) : (fs.put target e).resolve p = .ok target := by
  have hhere : (fs.put target e).here = fs.here := by
    unfold put
    split <;> rfl
  unfold resolve at *
  rw [hhere]
  exact follow_put hnot e h

/-! ## Writing and reading -/

/-- A file is written where its path leads, and where there is no directory. -/
lemma write_eq_ok_iff : fs.write p bytes = .ok fs' ↔ ∃ names mode, fs.resolve p = .ok names ∧
    fs.entry? names ≠ some .directory ∧ fs' = fs.put names (.file bytes mode) ∧
      mode = match fs.entry? names with
        | some (.file _ mode) => mode
        | _ => defaultMode := by
  unfold write
  cases hnames : fs.resolve p with
  | error fault => simp [fail]
  | ok names =>
    dsimp only
    cases hentry : fs.entry? names with
    | none => simp [hentry, eq_comm]
    | some entry => cases entry <;> simp [hentry, fail, eq_comm]

/-- A file that was put where a path leads is read from there. -/
lemma read_put_file (hnot : fs.entry? names ≠ some .directory) (h : fs.resolve p = .ok names)
    (bytes : List UInt8) (mode : Nat) : (fs.put names (.file bytes mode)).read p = .ok bytes := by
  unfold read
  rw [resolve_put hnot _ h]
  dsimp only
  rw [entry?_put (ne_nil_of_notDirectory hnot), if_pos rfl]

/-- A file holds what was written to it. -/
theorem read_write (h : fs.write p bytes = .ok fs') : fs'.read p = .ok bytes := by
  obtain ⟨names, mode, hnames, hnot, rfl, -⟩ := write_eq_ok_iff.mp h
  exact read_put_file hnot hnames bytes mode

/-- Other permissions change nothing of what a file holds. -/
lemma read_setMode (mode : Nat) (h : fs.read p = .ok bytes) :
    (fs.setMode p mode).read p = .ok bytes := by
  have hread := h
  unfold read at h
  unfold setMode
  cases hnames : fs.resolve p with
  | error fault => exact hread
  | ok names =>
    rw [hnames] at h
    dsimp only at h ⊢
    cases hentry : fs.entry? names with
    | none => simpa [hentry] using hread
    | some entry =>
      rw [hentry] at h
      cases entry with
      | directory => simpa [hentry] using hread
      | file bytes' mode' =>
        cases h
        exact read_put_file (by simp [hentry]) hnames bytes mode

end FileSystem

/-- A file that can be written, the directories on the way to it made where they are not there. -/
def IsWritable (fs : FileSystem) (p : Path) : Prop := ∀ bytes, (writeText fs p bytes).2 = none

variable {fs : FileSystem} {p : Path} {bytes : List UInt8}

/-- Whether a file can be written does not depend on what is written. -/
lemma isWritable_iff (fs : FileSystem) (p : Path) (bytes : List UInt8) :
    IsWritable fs p ↔ (writeText fs p bytes).2 = none := by
  refine ⟨fun h => h bytes, fun h bytes' => ?_⟩
  unfold writeText at *
  cases hmade : fs.makeDirectories p.parent p.names.length with
  | error e => simp [hmade] at h
  | ok made =>
    rw [hmade] at h
    dsimp only at h ⊢
    cases hwrite : made.write p bytes with
    | error e => simp [hwrite] at h
    | ok written =>
      obtain ⟨names, mode, hnames, hnot, -, hmode⟩ := FileSystem.write_eq_ok_iff.mp hwrite
      have hwrite' : made.write p bytes' = .ok (made.put names (.file bytes' mode)) :=
        FileSystem.write_eq_ok_iff.mpr ⟨names, mode, hnames, hnot, rfl, hmode⟩
      rw [hwrite']

/-- A file that was written holds what was written. -/
theorem read_writeText (h : (writeText fs p bytes).2 = none) :
    (writeText fs p bytes).1.read p = .ok bytes := by
  unfold writeText at *
  cases hmade : fs.makeDirectories p.parent p.names.length with
  | error e => simp [hmade] at h
  | ok made =>
    rw [hmade] at h
    dsimp only at h ⊢
    cases hwrite : made.write p bytes with
    | error e => simp [hwrite] at h
    | ok written => exact FileSystem.read_write hwrite

/-- Writing either succeeds, and the file holds what was written, or the file cannot be written. -/
lemma writeText_cases (fs : FileSystem) (p : Path) (bytes : List UInt8) :
    (∃ after, writeText fs p bytes = (after, none) ∧ IsWritable fs p ∧
      after.read p = .ok bytes) ∨
    (∃ after e, writeText fs p bytes = (after, some e) ∧ ¬ IsWritable fs p) := by
  have hwritable := isWritable_iff fs p bytes
  have hread := @read_writeText fs p bytes
  generalize writeText fs p bytes = written at hwritable hread ⊢
  obtain ⟨after, failure⟩ := written
  cases failure with
  | none => exact .inl ⟨after, rfl, hwritable.mpr rfl, hread rfl⟩
  | some e => exact .inr ⟨after, e, rfl, by simp [hwritable]⟩

end FirewallPolicy.Files
