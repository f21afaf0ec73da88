import FirewallPolicy.Text.Utf8
import Mathlib.Data.List.TakeWhile
import Mathlib.Tactic.Common

/-!
# Texts with halves of characters

What is written for a row of code points is read back as that row, and a text has bytes just if
there is no half in it.

* `points_written`: the code points of what is written for them.
* `encode_eq_ok_iff`: which texts have bytes, and which bytes these are.
* `encode_marked`: characters that were marked have the bytes they had.
-/

namespace FirewallPolicy.Text

/-! ## Code points -/

/-- A code point, a half or a character. -/
def IsPoint (n : Nat) : Prop := n < 0x110000

lemma isHalf_eq_false_iff {n : Nat} : isHalf n = false ↔ n < 0xD800 ∨ 0xDFFF < n := by
  simp only [isHalf, Bool.and_eq_false_iff, decide_eq_false_iff_not]
  omega

lemma toNat_ofNat {n : Nat} (h : IsPoint n) (hhalf : isHalf n = false) :
    (Char.ofNat n).toNat = n := by
  have hvalid : n.isValidChar := by
    rw [isHalf_eq_false_iff] at hhalf
    unfold IsPoint at h
    unfold Nat.isValidChar
    omega
  rw [Char.toNat, Char.ofNat, dif_pos hvalid]
  rfl

lemma isPoint_toNat (c : Char) : IsPoint c.toNat := by
  have := c.valid
  unfold IsPoint Char.toNat
  unfold UInt32.isValidChar Nat.isValidChar at this
  omega

lemma isHalf_toNat (c : Char) : isHalf c.toNat = false := by
  have := c.valid
  rw [isHalf_eq_false_iff]
  unfold UInt32.isValidChar Nat.isValidChar at this
  unfold Char.toNat
  omega

/-- A half is written as the mark and the character that stands for it. -/
lemma points_half {n : Nat} (h : isHalf n = true) (cs : List Char) :
    points (halfMark :: Char.ofNat (n + halfShift) :: cs) = n :: points cs := by
  have hbounds : 0xD800 ≤ n ∧ n ≤ 0xDFFF := by simpa [isHalf] using h
  have hchar : (Char.ofNat (n + halfShift)).toNat = n + halfShift := by
    refine toNat_ofNat ?_ ?_
    · unfold IsPoint halfShift
      omega
    · rw [isHalf_eq_false_iff, halfShift]
      omega
  have hne : Char.ofNat (n + halfShift) ≠ halfMark := by
    intro heq
    have hmark : n + halfShift = halfMark.toNat := by rw [← hchar, heq]
    have : halfMark.toNat = 0x10FFFF := rfl
    unfold halfShift at hmark
    omega
  rw [points, if_neg (fun h => hne h.2), hchar, Nat.add_sub_cancel, if_pos ⟨rfl, h⟩]

/-- What is written for a code point is read back as that code point, whatever follows it. -/
lemma points_written_append {n : Nat} (h : IsPoint n) (cs : List Char) :
    points (written n ++ cs) = n :: points cs := by
  unfold written
  split
  · rename_i hhalf
    exact points_half hhalf cs
  split
  · rename_i hmark
    subst hmark
    exact if_pos ⟨rfl, rfl⟩
  · rename_i hhalf hmark
    have hn : (Char.ofNat n).toNat = n := toNat_ofNat h (by simpa using hhalf)
    have hne : Char.ofNat n ≠ halfMark := fun heq => hmark (by rw [← hn, heq])
    rw [List.singleton_append]
    cases cs with
    | nil =>
      show [(Char.ofNat n).toNat] = [n]
      rw [hn]
    | cons d cs => rw [points, if_neg (fun h => hne h.1), if_neg (fun h => hne h.1), hn]

/-- What is written for a row of code points is read back as that row. -/
theorem points_written {ns : List Nat} (h : ∀ n ∈ ns, IsPoint n) :
    points (ns.flatMap written) = ns := by
  induction ns with
  | nil => rfl
  | cons n ns ih =>
    rw [List.forall_mem_cons] at h
    rw [List.flatMap_cons, points_written_append h.1, ih h.2]

/-- The code points of marked characters are those of the characters. -/
lemma points_marked (cs : List Char) : points (marked cs) = cs.map Char.toNat := by
  have hwritten : marked cs = (cs.map Char.toNat).flatMap written := by
    rw [marked, List.flatMap_map]
  rw [hwritten, points_written]
  simp only [List.forall_mem_map]
  exact fun c _ => isPoint_toNat c

/-! ## Bytes -/

/-- A text without any half. -/
def IsWhole (cs : List Char) : Prop := ∀ n ∈ points cs, isHalf n = false

/-- A text has bytes just if it has no half, and they are those of its characters. -/
theorem encode_eq_ok_iff {cs : List Char} {bytes : List UInt8} :
    encode cs = .ok bytes ↔ IsWhole cs ∧ bytes = encodeUtf8 ((points cs).map Char.ofNat) := by
  have hsplit := List.takeWhile_append_dropWhile (p := (!isHalf ·)) (l := points cs)
  unfold encode IsWhole
  dsimp only
  match hrest : (points cs).dropWhile (!isHalf ·) with
  | [] =>
    have hwhole : ∀ n ∈ points cs, isHalf n = false := by
      simpa using List.dropWhile_eq_nil_iff.mp hrest
    rw [hrest, List.append_nil] at hsplit
    rw [hsplit, and_iff_right hwhole, Except.ok.injEq, eq_comm]
  | half :: rest =>
    have hhalf : isHalf half = true := by
      have := List.head_dropWhile_not (l := points cs) (!isHalf ·) (by simp [hrest])
      simpa [hrest] using this
    have hmem : half ∈ points cs := by
      rw [← hsplit, hrest]
      exact List.mem_append_right _ List.mem_cons_self
    refine iff_of_false nofun fun h => ?_
    rw [h.1 half hmem] at hhalf
    cases hhalf

/-- Characters that were marked have the bytes that they had before. -/
theorem encode_marked (cs : List Char) : encode (marked cs) = .ok (encodeUtf8 cs) := by
  rw [encode_eq_ok_iff, IsWhole, points_marked]
  refine ⟨?_, ?_⟩
  · simp only [List.forall_mem_map]
    exact fun c _ => isHalf_toNat c
  · rw [List.map_map]
    congr 1
    refine (List.map_id'' (fun c => ?_) cs).symm
    exact Char.ofNat_toNat c

end FirewallPolicy.Text
