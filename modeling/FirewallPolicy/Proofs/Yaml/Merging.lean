import FirewallPolicy.Yaml.Construct
import Mathlib.Tactic.Common

/-!
# Taking in the entries of mappings

Taking in entries is bounded by the number of keys `<<` that are left.  Each of them is taken out
before what it stands for is looked at, and what is taken in holds none, so the bound is never met.

* `Settles`: what taking in entries does to the nodes.
* `SettlesWith`: a result that settles the nodes and comes with a fact, or a misfit.
  `SettlesWith.bind` says it of one step after another.
* `TakesIn`, `TakesOut`: the fact is that there is no key `<<` in what is brought, or besides none
  left in a mapping.
* `takesOut_takeAll`: taking all of them out is of this kind, by induction on the bound.
* `flatten_leaves_none`: no key `<<` is left in a mapping whose entries have been taken in.
-/

namespace FirewallPolicy.Yaml

/-! ## Nodes that are changed -/

/-- What has been made of the nodes. -/
def Cells.made (cells : Cells) : Array (Option Made) := cells.map (·.made)

/-- The keys `<<` among some entries. -/
def Cells.merges (cells : Cells) (es : List Entry) : Nat := es.countP cells.isMerge

/-- What taking in entries does to the nodes: nothing is made of them, the keys `<<` stay such keys,
and there are no more of them than before. -/
structure Settles (cells cells' : Cells) : Prop where
  made : cells'.made = cells.made
  merge : ∀ n, cells'.hasTag mergeTag n = cells.hasTag mergeTag n
  count : cells'.mergeCount ≤ cells.mergeCount

namespace Settles

variable {cells cells' cells'' : Cells}

lemma refl (cells : Cells) : Settles cells cells := ⟨rfl, fun _ => rfl, Nat.le_refl _⟩

lemma trans (h : Settles cells cells') (h' : Settles cells' cells'') : Settles cells cells'' :=
  ⟨h'.made.trans h.made, fun n => (h'.merge n).trans (h.merge n), Nat.le_trans h'.count h.count⟩

lemma isMerge_eq (h : Settles cells cells') : cells'.isMerge = cells.isMerge :=
  funext fun e => h.merge e.1

lemma merges_eq (h : Settles cells cells') (es : List Entry) :
    cells'.merges es = cells.merges es := by
  rw [Cells.merges, h.isMerge_eq, Cells.merges]

end Settles

section

variable {cells : Cells} {n : NodeId} {es : List Entry}

lemma Cells.getElem?_setEntries (i : Nat) : (cells.setEntries n es)[i]? =
    cells[i]?.map fun c => if n = i then { c with content := .mapping es } else c := by
  rw [Cells.setEntries, Array.getElem?_modify]
  split_ifs <;> simp

lemma Cells.getElem?_asText (e : Entry) (i : Nat) : (asText cells e)[i]? =
    cells[i]?.map fun c => if e.1 = i ∧ c.tag = valueTag then { c with tag := strTag } else c := by
  unfold asText Cells.hasTag
  by_cases hi : e.1 = i
  · subst hi
    cases h : cells[e.1]? with
    | none => simp [h]
    | some c =>
      by_cases htag : c.tag = valueTag
      · simp [h, htag, Cells.setTag, Array.getElem?_modify]
      · simp [h, htag]
  · split_ifs <;> simp [hi, Cells.setTag, Array.getElem?_modify]

lemma Cells.hasTag_setEntries (tag : String) (i : NodeId) :
    (cells.setEntries n es).hasTag tag i = cells.hasTag tag i := by
  rw [Cells.hasTag, Cells.getElem?_setEntries, Option.any_map, Cells.hasTag]
  split_ifs <;> rfl

lemma Cells.made_setEntries : (cells.setEntries n es).made = cells.made := by
  refine Array.ext_getElem? fun i => ?_
  rw [Cells.made, Cells.made, Array.getElem?_map, Array.getElem?_map, Cells.getElem?_setEntries,
    Option.map_map]
  split_ifs <;> rfl

lemma countP_flatMap_modify (p : Entry → Bool) (f : Cell → List Entry) (g : Cell → Cell)
    {l : List Cell} {c : Cell} (h : l[n]? = some c) :
    ((l.modify n g).flatMap f).countP p + (f c).countP p =
      (l.flatMap f).countP p + (f (g c)).countP p := by
  induction l generalizing n with
  | nil => cases h
  | cons d l ih =>
    cases n with
    | zero =>
      cases h
      simp only [List.modify_zero_cons, List.flatMap_cons, List.countP_append]
      omega
    | succ n =>
      have hrest := ih h
      simp only [List.modify_succ_cons, List.flatMap_cons, List.countP_append]
      omega

/-- The keys `<<` of the old entries of a mapping make room for those of the new ones. -/
lemma Cells.mergeCount_setEntries {c : Cell} (h : cells[n]? = some c) (es : List Entry) :
    (cells.setEntries n es).mergeCount + cells.merges (cells.entries n) =
      cells.mergeCount + cells.merges es := by
  have hmerge : (cells.setEntries n es).isMerge = cells.isMerge :=
    funext fun e => Cells.hasTag_setEntries mergeTag e.1
  have hentries : cells.entries n = c.content.entries := by
    simp [Cells.entries, Cells.content?, h]
  rw [Cells.mergeCount, Cells.mergeCount, hmerge, hentries, Cells.setEntries, Array.toList_modify]
  exact countP_flatMap_modify cells.isMerge (fun c => c.content.entries)
    (fun c => { c with content := .mapping es }) (Array.getElem?_toList.trans h)

/-- Entries without a key `<<` settle a mapping. -/
lemma settles_setEntries (h : cells.merges es = 0) : Settles cells (cells.setEntries n es) := by
  refine ⟨Cells.made_setEntries, fun i => Cells.hasTag_setEntries mergeTag i, ?_⟩
  cases hcell : cells[n]? with
  | none =>
    have hsame : cells.setEntries n es = cells := Array.ext_getElem? fun i => by
      rw [Cells.getElem?_setEntries]
      split_ifs with hi
      · rw [← hi, hcell, Option.map_none]
      · exact Option.map_id'
    exact Nat.le_of_eq (congrArg Cells.mergeCount hsame)
  | some c =>
    have hcount := Cells.mergeCount_setEntries hcell es
    omega

lemma settles_asText (cells : Cells) (e : Entry) : Settles cells (asText cells e) := by
  have hmade : (asText cells e).made = cells.made := Array.ext_getElem? fun i => by
    rw [Cells.made, Cells.made, Array.getElem?_map, Array.getElem?_map, Cells.getElem?_asText,
      Option.map_map]
    congr 1
    funext c
    rw [Function.comp_apply]
    split_ifs <;> rfl
  have hmerge : ∀ i, (asText cells e).hasTag mergeTag i = cells.hasTag mergeTag i := fun i => by
    rw [Cells.hasTag, Cells.getElem?_asText, Option.any_map, Cells.hasTag]
    congr 1
    funext c
    split_ifs with htag
    · rw [htag.2]
      show (strTag == mergeTag) = (valueTag == mergeTag)
      decide
    · rfl
  have hcontent : ∀ i, (asText cells e).toList[i]?.map (fun c : Cell => c.content) =
      cells.toList[i]?.map (fun c : Cell => c.content) := fun i => by
    rw [Array.getElem?_toList, Array.getElem?_toList, Cells.getElem?_asText, Option.map_map]
    congr 1
    funext c
    rw [Function.comp_apply]
    split_ifs <;> rfl
  have hcontents : (asText cells e).toList.map (fun c : Cell => c.content) =
      cells.toList.map (fun c : Cell => c.content) :=
    List.ext_getElem? fun i => by simpa only [List.getElem?_map] using hcontent i
  have hisMerge : (asText cells e).isMerge = cells.isMerge := funext fun e => hmerge e.1
  refine ⟨hmade, hmerge, Nat.le_of_eq ?_⟩
  have hentries := congrArg (fun l => (l.flatMap Content.entries).countP cells.isMerge) hcontents
  rw [List.flatMap_map, List.flatMap_map] at hentries
  rw [Cells.mergeCount, Cells.mergeCount, hisMerge]
  exact hentries

lemma settles_foldl_asText (cells : Cells) (es : List Entry) :
    Settles cells (es.foldl asText cells) := by
  induction es generalizing cells with
  | nil => exact .refl cells
  | cons e es ih => exact (settles_asText cells e).trans (ih _)

end

/-! ## Keys that are taken out -/

/-- A result that settles the nodes, and that comes with a fact, or a misfit. -/
def SettlesWith {α : Type} (cells : Cells) (P : α → Cells → Prop) :
    Except YamlFault (α × Cells) → Prop
  | .ok (a, cells') => Settles cells cells' ∧ P a cells'
  | .error e => e = .construction

namespace SettlesWith

variable {α β : Type} {m : Taking α} {f : α → Taking β} {cells : Cells} {P : α → Cells → Prop}
  {Q : β → Cells → Prop}

lemma bind (h : SettlesWith cells P (m.run cells))
    (hf : ∀ a cells', Settles cells cells' → P a cells' → SettlesWith cells' Q ((f a).run cells')) :
    SettlesWith cells Q ((m >>= f).run cells) := by
  rw [StateT.run_bind]
  cases hrun : m.run cells with
  | error e =>
    rw [hrun] at h
    exact h
  | ok r =>
    obtain ⟨a, cells'⟩ := r
    rw [hrun] at h
    obtain ⟨hsettles, ha⟩ := h
    have hrest := hf a cells' hsettles ha
    show SettlesWith cells Q ((f a).run cells')
    cases hrun' : (f a).run cells' with
    | error e =>
      rw [hrun'] at hrest
      exact hrest
    | ok r =>
      rw [hrun'] at hrest
      exact ⟨hsettles.trans hrest.1, hrest.2⟩

lemma get {g : Cells → Taking β} (h : SettlesWith cells Q ((g cells).run cells)) :
    SettlesWith cells Q ((MonadState.get >>= g : Taking β).run cells) := h

lemma pure {a : α} (h : P a cells) : SettlesWith cells P ((Pure.pure a : Taking α).run cells) :=
  ⟨.refl cells, h⟩

end SettlesWith

/-- A result that settles the nodes and brings no key `<<`, or a misfit. -/
abbrev TakesIn (cells : Cells) : Except YamlFault (List Entry × Cells) → Prop :=
  SettlesWith cells fun es cells' => cells'.merges es = 0

/-- A result that besides leaves no key `<<` in a mapping. -/
abbrev TakesOut (cells : Cells) (n : NodeId) : Except YamlFault (List Entry × Cells) → Prop :=
  SettlesWith cells fun es cells' => cells'.merges es = 0 ∧ cells'.merges (cells'.entries n) = 0

lemma run_takeOut (n : NodeId) (cells : Cells) : (takeOut n).run cells =
    match (cells.entries n).find? cells.isMerge with
    | none => .ok (none, cells)
    | some (_, source) =>
      .ok (some source, cells.setEntries n ((cells.entries n).eraseP cells.isMerge)) := by
  simp only [takeOut, StateT.run_bind, StateT.run_get, pure_bind]
  cases (cells.entries n).find? cells.isMerge <;> rfl

/-- Taking out a key `<<` leaves one less. -/
lemma settles_takeOut {cells : Cells} {n : NodeId} {e : Entry}
    (h : (cells.entries n).find? cells.isMerge = some e) :
    Settles cells (cells.setEntries n ((cells.entries n).eraseP cells.isMerge)) ∧
      (cells.setEntries n ((cells.entries n).eraseP cells.isMerge)).mergeCount + 1 =
        cells.mergeCount := by
  obtain ⟨c, hc⟩ : ∃ c, cells[n]? = some c := by
    cases hcell : cells[n]? with
    | none => simp [Cells.entries, Cells.content?, hcell] at h
    | some c => exact ⟨c, rfl⟩
  obtain ⟨e', front, back, -, he', hentries, herase⟩ :=
    List.exists_of_eraseP (List.mem_of_find?_eq_some h) (List.find?_some h)
  have hone : cells.merges (cells.entries n) =
      cells.merges ((cells.entries n).eraseP cells.isMerge) + 1 := by
    rw [herase, hentries]
    simp only [Cells.merges, List.countP_append, List.countP_cons, he', if_true]
    omega
  have hcount := Cells.mergeCount_setEntries hc ((cells.entries n).eraseP cells.isMerge)
  have hless : (cells.setEntries n ((cells.entries n).eraseP cells.isMerge)).mergeCount + 1 =
      cells.mergeCount := by omega
  exact ⟨⟨Cells.made_setEntries, fun i => Cells.hasTag_setEntries mergeTag i, by omega⟩, hless⟩

/-- What stands in a mapping when entries have been put in. -/
lemma takesIn_putIn {cells : Cells} {n : NodeId} {taken : List Entry}
    (htaken : cells.merges taken = 0) (hown : cells.merges (cells.entries n) = 0) :
    TakesIn cells ((putIn n taken).run cells) := by
  have hall : cells.merges (taken ++ cells.entries n) = 0 := by
    rw [Cells.merges, List.countP_append]
    exact Nat.add_eq_zero_iff.mpr ⟨htaken, hown⟩
  let es := taken ++ cells.entries n
  have hsettles : Settles cells (es.foldl asText (cells.setEntries n es)) :=
    (settles_setEntries hall).trans (settles_foldl_asText _ _)
  exact ⟨hsettles, (hsettles.merges_eq es).trans hall⟩

section

variable {left : Nat} {takeAll : NodeId → Taking (List Entry)}
  (htakeAll : ∀ n cells, cells.mergeCount ≤ left → TakesOut cells n ((takeAll n).run cells))

include htakeAll

lemma takesIn_flattenBy (n : NodeId) {cells : Cells} (hcount : cells.mergeCount ≤ left) :
    TakesIn cells ((flattenBy takeAll n).run cells) := by
  refine SettlesWith.get ?_
  split
  · exact (htakeAll n cells hcount).bind fun _ _ _ hnone => takesIn_putIn hnone.1 hnone.2
  · rfl

lemma takesIn_flattenAll (items : List NodeId) {cells : Cells} (hcount : cells.mergeCount ≤ left) :
    SettlesWith cells (fun lists cells' => ∀ es ∈ lists, cells'.merges es = 0)
      ((items.mapM (flattenBy takeAll)).run cells) := by
  induction items generalizing cells with
  | nil => exact .pure nofun
  | cons item items ih =>
    rw [List.mapM_cons]
    refine (takesIn_flattenBy htakeAll item hcount).bind fun es _ hsettles hes => ?_
    refine (ih (Nat.le_trans hsettles.count hcount)).bind fun lists _ hsettles' hlists => ?_
    exact .pure (List.forall_mem_cons.mpr ⟨by rw [hsettles'.merges_eq, hes], hlists⟩)

lemma takesIn_entriesBy (source : NodeId) (cells : Cells) (hcount : cells.mergeCount ≤ left) :
    TakesIn cells ((entriesBy takeAll source).run cells) := by
  refine SettlesWith.get ?_
  split
  · rename_i items _
    refine (takesIn_flattenAll htakeAll items hcount).bind fun lists _ _ hlists => .pure ?_
    refine List.countP_eq_zero.mpr fun e he => ?_
    obtain ⟨es, hes, he⟩ := List.mem_flatten.mp he
    exact List.countP_eq_zero.mp (hlists es (List.mem_reverse.mp hes)) e he
  · exact takesIn_flattenBy htakeAll source hcount

end

lemma takesOut_nil {cells : Cells} {n : NodeId}
    (h : (cells.entries n).find? cells.isMerge = none) : TakesOut cells n (.ok ([], cells)) :=
  ⟨.refl cells, rfl, List.countP_eq_zero.mpr (List.find?_eq_none.mp h)⟩

/-- Within its bound, taking out the keys `<<` of a mapping leaves none. -/
lemma takesOut_takeAll (left : Nat) (n : NodeId) (cells : Cells)
    (hcount : cells.mergeCount ≤ left) : TakesOut cells n ((takeAll left n).run cells) := by
  induction left generalizing n cells with
  | zero =>
    refine takesOut_nil (Option.eq_none_iff_forall_ne_some.mpr fun e hfind => ?_)
    have hless := (settles_takeOut hfind).2
    omega
  | succ left ih =>
    rw [takeAll]
    cases hfind : (cells.entries n).find? cells.isMerge with
    | none =>
      rw [StateT.run_bind, run_takeOut, hfind]
      exact takesOut_nil hfind
    | some e =>
      obtain ⟨htaken, hless⟩ := settles_takeOut hfind
      have hout : SettlesWith cells (fun source next => source = some e.2 ∧
          next.mergeCount + 1 = cells.mergeCount) ((takeOut n).run cells) := by
        rw [run_takeOut, hfind]
        exact ⟨htaken, rfl, hless⟩
      refine hout.bind fun _ next _ ⟨hsource, hless⟩ => ?_
      rw [hsource]
      refine (takesIn_entriesBy ih e.2 next (by omega)).bind fun front between hbetween hfront => ?_
      have hcount' : between.mergeCount ≤ left := by
        have := hbetween.count
        omega
      refine (ih n between hcount').bind fun rest last hlast hrest => .pure ⟨?_, hrest.2⟩
      rw [Cells.merges, List.countP_append]
      exact Nat.add_eq_zero_iff.mpr ⟨(hlast.merges_eq front).trans hfront, hrest.1⟩

/-- Taking in entries settles the nodes, or fails at a misfit. -/
lemma takesIn_flatten (n : NodeId) (cells : Cells) : TakesIn cells ((flatten n).run cells) :=
  SettlesWith.get (takesIn_flattenBy (takesOut_takeAll _) n (Nat.le_refl _))

/-- No key `<<` is among the entries of a mapping with those that it takes in. -/
theorem flatten_leaves_none {cells cells' : Cells} {n : NodeId} {es : List Entry}
    (h : (flatten n).run cells = .ok (es, cells')) : ∀ e ∈ es, ¬ cells'.isMerge e := by
  have hin := takesIn_flatten n cells
  rw [h] at hin
  exact List.countP_eq_zero.mp hin.2

end FirewallPolicy.Yaml
