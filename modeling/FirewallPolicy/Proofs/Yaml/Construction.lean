import FirewallPolicy.Proofs.Yaml.Merging
import FirewallPolicy.Yaml.Document
import Mathlib.Logic.Relation
import Mathlib.Tactic.Common

/-!
# Steps of the construction

Making the values of a document is taken apart into steps: the next part of a collection is made, or
the next collection is begun.

* `Stage.Step`, `Stage.Fails`: what a step does, and what it fails with.
* `Construction.pending`: what is still to be made and filled.  No step adds to it, and beginning a
  collection takes from it, so the bound for their number is never met.
* `construct_eq_error_iff`: a document is refused for a fault just if some steps lead to it.
* `Stage.MeetsFault`: the faults that do not make a text no YAML are those of single values.
-/

namespace FirewallPolicy.Yaml

/-- Where the construction stands: what has been made, and the parts that are next. -/
structure Stage where
  state : Construction
  parts : List Part

namespace Stage

/-- Where the construction of a document begins. -/
def start (g : Graph) : Stage := ⟨.ofNodes g.nodes, [.item g.root]⟩

/-- The next part is made, or the next collection is begun. -/
inductive Step : Stage → Stage → Prop where
  | add {s s' : Construction} {p : Part} {ps : List Part} :
    s.add p = .ok s' → Step ⟨s, p :: ps⟩ ⟨s', ps⟩
  | fill {s s' : Construction} {n : NodeId} {waiting : List NodeId} {ps : List Part} :
    s.waiting = n :: waiting → ({ s with waiting } : Construction).parts n = .ok (ps, s') →
    Step ⟨s, []⟩ ⟨s', ps⟩

/-- The next part cannot be made, or the next collection cannot be begun. -/
inductive Fails : Stage → YamlFault → Prop where
  | add {s : Construction} {p : Part} {ps : List Part} {e : YamlFault} :
    s.add p = .error e → Fails ⟨s, p :: ps⟩ e
  | fill {s : Construction} {n : NodeId} {waiting : List NodeId} {e : YamlFault} :
    s.waiting = n :: waiting → ({ s with waiting } : Construction).parts n = .error e →
    Fails ⟨s, []⟩ e

/-- Some steps lead from a stage to another. -/
abbrev Reaches : Stage → Stage → Prop := Relation.ReflTransGen Step

/-- Goes on from a stage to the end. -/
def run (st : Stage) (left : Nat) : Except YamlFault Construction :=
  st.state.addAll st.parts >>= fun s => s.fillAll left

end Stage

/-! ## What is still to be done -/

/-- How many nodes nothing has been made of. -/
def Cells.unmade (cells : Cells) : Nat := cells.made.countP (·.isNone)

/-- How many nodes are still to be made, or made and still to be filled. -/
def Construction.pending (s : Construction) : Nat := s.cells.unmade + s.waiting.length

lemma Cells.unmade_setMade {cells : Cells} {n : NodeId} {cell : Cell} (h : cells[n]? = some cell)
    (hmade : cell.made = none) (made : Made) :
    (cells.setMade n made).unmade + 1 = cells.unmade := by
  obtain ⟨hn, rfl⟩ := Array.getElem?_eq_some_iff.mp h
  have hn' : n < cells.made.size := by simpa [Cells.made] using hn
  have hnone : cells.made[n].isNone = true := by simp [Cells.made, hmade]
  have hset : (cells.setMade n made).made = cells.made.set n (some made) := by
    refine Array.ext_getElem? fun i => ?_
    simp only [Cells.made, Cells.setMade, Array.getElem?_map, Array.getElem?_modify,
      Array.getElem?_set]
    split_ifs with hi
    · subst hi
      rw [h]
      rfl
    · rfl
  have hpos : 0 < cells.made.countP (·.isNone) :=
    Array.countP_pos_iff.mpr ⟨_, Array.getElem_mem hn', hnone⟩
  rw [Cells.unmade, Cells.unmade, hset, Array.countP_set hn', if_pos hnone]
  simp only [Option.isNone_some, Bool.false_eq_true, if_false]
  omega

namespace Construction

variable {s s' : Construction}

/-- What making a node does: nothing, or the node is made, and waits if it is a collection. -/
lemma pending_of_make {n : NodeId} (h : s.make n = .ok s') : s'.pending ≤ s.pending := by
  unfold make at h
  split at h
  · cases h
  · rename_i cell hcell
    split_ifs at h with hmade hkind
    · cases h
      exact Nat.le_refl _
    · have hnone : cell.made = none := Option.not_isSome_iff_eq_none.mp hmade
      have hunmade := Cells.unmade_setMade hcell hnone .collection
      cases h
      simp only [pending, List.length_append, List.length_singleton]
      omega
    · match hsingle : s.cells.single n cell with
      | .ok v =>
        have hunmade :=
          Cells.unmade_setMade hcell (Option.not_isSome_iff_eq_none.mp hmade) (.single v)
        rw [hsingle] at h
        cases h
        simp only [pending]
        omega
      | .error e =>
        rw [hsingle] at h
        cases h

lemma pending_of_add {p : Part} (h : s.add p = .ok s') : s'.pending ≤ s.pending := by
  cases p with
  | item n => exact pending_of_make h
  | key n =>
    rw [add] at h
    match hmake : s.make n with
    | .ok made =>
      rw [hmake] at h
      have hle := pending_of_make hmake
      change (if _ then _ else _) = _ at h
      split_ifs at h
      cases h
      exact hle
    | .error e =>
      rw [hmake] at h
      cases h
  | misfit => cases h

/-- Beginning a collection makes nothing of a node and lets all others wait on, or is refused as a
misfit. -/
lemma parts_cases (s : Construction) (n : NodeId) :
    (∃ ps s', s.parts n = .ok (ps, s') ∧ s'.pending = s.pending) ∨
      s.parts n = .error .construction := by
  have hflatten : ∀ f : List Entry → List Part,
      let result : Except YamlFault (List Part × Construction) :=
        (flatten n).run s.cells >>= fun r => pure (f r.1, { s with cells := r.2 })
      (∃ ps s', result = .ok (ps, s') ∧ s'.pending = s.pending) ∨
        result = .error .construction := by
    intro f
    have hin := takesIn_flatten n s.cells
    cases hrun : (flatten n).run s.cells with
    | error e =>
      rw [hrun] at hin
      exact .inr (congrArg Except.error hin)
    | ok r =>
      rw [hrun] at hin
      refine .inl ⟨f r.1, { s with cells := r.2 }, rfl, ?_⟩
      simp only [pending, Cells.unmade, hin.1.made]
  unfold parts
  split
  · exact .inl ⟨_, _, rfl, rfl⟩
  · split
    · exact .inl ⟨_, _, rfl, rfl⟩
    · exact .inl ⟨_, _, rfl, rfl⟩
    · exact hflatten _
    · exact hflatten _
    · exact .inl ⟨_, _, rfl, rfl⟩

lemma pending_of_parts {n : NodeId} {ps : List Part} (h : s.parts n = .ok (ps, s')) :
    s'.pending = s.pending := by
  obtain ⟨ps', s'', hparts, hpending⟩ | hparts := parts_cases s n
  · cases hparts.symm.trans h
    exact hpending
  · cases hparts.symm.trans h

end Construction

lemma pending_start (g : Graph) : (Stage.start g).state.pending ≤ g.nodes.size := by
  have hsize : (Construction.ofNodes g.nodes).cells.made.size = g.nodes.size := by
    simp [Construction.ofNodes, Cells.made]
  calc (Stage.start g).state.pending
      = (Construction.ofNodes g.nodes).cells.made.countP (·.isNone) := Nat.add_zero _
    _ ≤ (Construction.ofNodes g.nodes).cells.made.size := Array.countP_le_size
    _ = g.nodes.size := hsize

/-! ## Runs and steps -/

namespace Stage

variable {st st' : Stage} {e : YamlFault}

lemma run_add {s s' : Construction} {p : Part} {ps : List Part} (h : s.add p = .ok s')
    (left : Nat) : run ⟨s, p :: ps⟩ left = run ⟨s', ps⟩ left := by
  simp only [run, Construction.addAll, h]
  rfl

lemma run_fill {s s' : Construction} {n : NodeId} {waiting : List NodeId} {ps : List Part}
    (hwaiting : s.waiting = n :: waiting)
    (h : ({ s with waiting } : Construction).parts n = .ok (ps, s')) (left : Nat) :
    run ⟨s, []⟩ (left + 1) = run ⟨s', ps⟩ left := by
  show s.fillAll (left + 1) = _
  simp only [Construction.fillAll, hwaiting, h]
  rfl

/-- A run that has room for all that is pending comes to the fault that some steps lead to. -/
lemma run_of_reaches (h : st.Reaches st') (hfails : st'.Fails e) :
    ∀ left, st.state.pending ≤ left → st.run left = .error e := by
  induction h using Relation.ReflTransGen.head_induction_on with
  | refl =>
    intro left hleft
    cases hfails with
    | add h =>
      simp only [run, Construction.addAll, h]
      rfl
    | @fill s n waiting _ hwaiting h =>
      cases left with
      | zero =>
        have hpos : 0 < s.waiting.length := by rw [hwaiting]; exact Nat.succ_pos _
        simp only [Construction.pending] at hleft
        omega
      | succ left =>
        show s.fillAll (left + 1) = _
        simp only [Construction.fillAll, hwaiting, h]
        rfl
  | head hstep _ ih =>
    intro left hleft
    cases hstep with
    | add h =>
      rw [run_add h]
      exact ih left (Nat.le_trans (Construction.pending_of_add h) hleft)
    | @fill s s' n waiting ps hwaiting h =>
      have hpending := Construction.pending_of_parts h
      have hlength : s.waiting.length = waiting.length + 1 := by rw [hwaiting]; rfl
      simp only [Construction.pending] at hpending hleft
      cases left with
      | zero => omega
      | succ left =>
        rw [run_fill hwaiting h]
        refine ih left ?_
        simp only [Construction.pending]
        omega

/-- Some steps lead to the fault of a run. -/
lemma reaches_of_addAll {s : Construction} {ps : List Part} (h : s.addAll ps = .error e) :
    ∃ st, Reaches ⟨s, ps⟩ st ∧ st.Fails e := by
  induction ps generalizing s with
  | nil => cases h
  | cons p ps ih =>
    rw [Construction.addAll] at h
    match hadd : s.add p with
    | .error cause =>
      rw [hadd] at h
      cases h
      exact ⟨_, .refl, .add hadd⟩
    | .ok s' =>
      rw [hadd] at h
      obtain ⟨st, hreach, hfails⟩ := ih h
      exact ⟨st, .head (.add hadd) hreach, hfails⟩

lemma reaches_done {s s' : Construction} {ps : List Part} (h : s.addAll ps = .ok s') :
    Reaches ⟨s, ps⟩ ⟨s', []⟩ := by
  induction ps generalizing s with
  | nil =>
    cases h
    exact .refl
  | cons p ps ih =>
    rw [Construction.addAll] at h
    match hadd : s.add p with
    | .error cause =>
      rw [hadd] at h
      cases h
    | .ok next =>
      rw [hadd] at h
      exact .head (.add hadd) (ih h)

lemma reaches_of_run {left : Nat} (h : st.run left = .error e) :
    ∃ st', st.Reaches st' ∧ st'.Fails e := by
  induction left generalizing st with
  | zero =>
    match hadd : st.state.addAll st.parts with
    | .error cause =>
      rw [run, hadd] at h
      cases h
      exact reaches_of_addAll hadd
    | .ok s =>
      rw [run, hadd] at h
      cases h
  | succ left ih =>
    match hadd : st.state.addAll st.parts with
    | .error cause =>
      rw [run, hadd] at h
      cases h
      exact reaches_of_addAll hadd
    | .ok s =>
      have hdone : Reaches st ⟨s, []⟩ := reaches_done hadd
      have hfill : s.fillAll (left + 1) = .error e := by rwa [run, hadd] at h
      match hwaiting : s.waiting with
      | [] =>
        simp only [Construction.fillAll, hwaiting] at hfill
        cases hfill
      | n :: waiting =>
        match hparts : ({ s with waiting } : Construction).parts n with
        | .error cause =>
          simp only [Construction.fillAll, hwaiting, hparts] at hfill
          cases hfill
          exact ⟨_, hdone, .fill hwaiting hparts⟩
        | .ok (ps, begun) =>
          obtain ⟨st', hreach, hfails⟩ := ih ((run_fill hwaiting hparts left).symm.trans hfill)
          exact ⟨st', (hdone.tail (.fill hwaiting hparts)).trans hreach, hfails⟩

end Stage

/-- A document is refused for a fault just if some steps of its construction lead to that fault. -/
theorem construct_eq_error_iff (g : Graph) (e : YamlFault) :
    g.construct = .error e ↔ ∃ st, (Stage.start g).Reaches st ∧ st.Fails e :=
  ⟨fun h => (Stage.start g).reaches_of_run h, fun ⟨_, hreach, hfails⟩ =>
    Stage.run_of_reaches hreach hfails _ (pending_start g)⟩

/-! ## Faults of single values -/

/-- The next part is a node of which nothing has been made, whose tag asks for a single value, and
which has none. -/
structure Stage.MeetsFault (st : Stage) (n : NodeId) (e : YamlFault) : Prop where
  next : st.parts.head? = some (.item n) ∨ st.parts.head? = some (.key n)
  fault : ∃ cell, st.state.cells[n]? = some cell ∧ cell.made = none ∧ kind? cell.tag = none ∧
    st.state.cells.single n cell = .error e

namespace Construction

variable {s : Construction} {n : NodeId} {e : YamlFault}

/-- A node is not made for the fault of its value, or there is no such node. -/
lemma make_eq_error_iff (he : e.isMalformed = false) : s.make n = .error e ↔
    ∃ cell, s.cells[n]? = some cell ∧ cell.made = none ∧ kind? cell.tag = none ∧
      s.cells.single n cell = .error e := by
  unfold make
  match hcell : s.cells[n]? with
  | none =>
    refine iff_of_false (fun h => ?_) fun ⟨_, h, _⟩ => nomatch h
    cases h
    cases he
  | some cell =>
    have hcells : (∃ c, some cell = some c ∧ c.made = none ∧ kind? c.tag = none ∧
        s.cells.single n c = .error e) ↔
        cell.made = none ∧ kind? cell.tag = none ∧ s.cells.single n cell = .error e := by
      simp
    rw [hcells]
    dsimp only
    split_ifs with hmade hkind
    · refine iff_of_false nofun fun ⟨h, _⟩ => ?_
      rw [h] at hmade
      cases hmade
    · refine iff_of_false nofun fun ⟨_, h, _⟩ => ?_
      rw [h] at hkind
      cases hkind
    · rw [Option.not_isSome_iff_eq_none] at hmade hkind
      match hsingle : s.cells.single n cell with
      | .ok v => exact iff_of_false nofun fun ⟨_, _, h⟩ => nomatch h
      | .error cause => simp [hmade, hkind, Except.map]

lemma add_key_eq_error_iff (he : e.isMalformed = false) :
    s.add (.key n) = .error e ↔ s.make n = .error e := by
  rw [add]
  match hmake : s.make n with
  | .error cause => exact Iff.rfl
  | .ok made =>
    refine iff_of_false (fun h => ?_) nofun
    change (if _ then _ else _) = _ at h
    split_ifs at h
    · cases h
    · cases h
      cases he

lemma parts_ne_error (he : e.isMalformed = false) : s.parts n ≠ .error e := by
  intro h
  obtain ⟨ps, s', hparts, -⟩ | hparts := parts_cases s n
  · cases hparts.symm.trans h
  · cases hparts.symm.trans h
    cases he

end Construction

/-- A stage fails with a fault that does not make a text no YAML just if that is the fault of the
single value that is next. -/
lemma Stage.fails_iff {st : Stage} {e : YamlFault} (he : e.isMalformed = false) :
    st.Fails e ↔ ∃ n, st.MeetsFault n e := by
  constructor
  · intro h
    cases h with
    | @add s p ps _ h =>
      cases p with
      | item n => exact ⟨n, .inl rfl, (Construction.make_eq_error_iff he).mp h⟩
      | key n =>
        rw [Construction.add_key_eq_error_iff he] at h
        exact ⟨n, .inr rfl, (Construction.make_eq_error_iff he).mp h⟩
      | misfit =>
        cases h
        cases he
    | fill _ h => exact absurd h (Construction.parts_ne_error he)
  · obtain ⟨s, ps⟩ := st
    rintro ⟨n, hnext, hfault⟩
    rw [← Construction.make_eq_error_iff he] at hfault
    rcases hnext with hnext | hnext
    · obtain ⟨ps, rfl⟩ := List.head?_eq_some_iff.mp hnext
      exact .add hfault
    · obtain ⟨ps, rfl⟩ := List.head?_eq_some_iff.mp hnext
      exact .add ((Construction.add_key_eq_error_iff he).mpr hfault)

/-- The value of a document fails with a fault that does not make a text no YAML just if the steps
of its construction lead to a single value with that fault. -/
theorem value_eq_error_iff (g : Graph) {e : YamlFault} (he : e.isMalformed = false) :
    g.value = .error e ↔ ∃ st n, (Stage.start g).Reaches st ∧ st.MeetsFault n e := by
  have hvalue : g.value = .error e ↔ g.construct = .error e := by
    rw [Graph.value]
    match g.construct with
    | .ok s => exact iff_of_false nofun nofun
    | .error cause => simp [bind, Except.bind]
  rw [hvalue, construct_eq_error_iff]
  refine exists_congr fun st => ?_
  rw [Stage.fails_iff he, exists_and_left]

end FirewallPolicy.Yaml
