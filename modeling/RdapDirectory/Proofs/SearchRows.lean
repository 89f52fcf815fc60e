import Mathlib
import RdapDirectory.Registry.Entries
import RdapDirectory.Registry.Halving

namespace RdapDirectory.Registry

theorem lastPlace_spec {p : Nat → Bool} {m base size : Nat}
    (h : ∀ i, base ≤ i → i < base + size → (p i = true ↔ i < m)) :
    base ≤ lastPlace p base size ∧
      (base < lastPlace p base size → lastPlace p base size < m) ∧
      ∀ i, lastPlace p base size < i → i < base + size → m ≤ i := by
  fun_induction lastPlace p base size with
  | case1 base size hsize => exact ⟨le_refl _, by omega, by omega⟩
  | case2 base size hsize ih =>
    have hmid := h (base + size / 2) (by omega) (by omega)
    by_cases hp : p (base + size / 2) = true
    · simp only [hp, dite_true, if_true] at ih ⊢
      obtain ⟨hbase, hmember, hrest⟩ := ih fun i hi hlt => h i (by omega) (by omega)
      have hlt := hmid.1 hp
      refine ⟨by omega, fun _ => ?_, fun i hi hend => hrest i hi (by omega)⟩
      rcases Nat.eq_or_lt_of_le hbase with he | hlater
      · omega
      · exact hmember hlater
    · simp only [hp, Bool.false_eq_true, dite_false, if_false] at ih ⊢
      obtain ⟨hbase, hmember, hrest⟩ := ih fun i hi hlt => h i hi (by omega)
      refine ⟨hbase, hmember, fun i hi hend => ?_⟩
      have hle : m ≤ base + size / 2 := Nat.le_of_not_lt fun hlt => hp (hmid.2 hlt)
      by_cases hfirst : i < base + (size - size / 2)
      · exact hrest i hi hfirst
      · omega

theorem countFront_append {α : Type} {p : α → Bool} {front back : List α}
    (hfront : ∀ x ∈ front, p x = true) (hback : ∀ x ∈ back, p x = false) :
    countFront p (front ++ back).toArray = front.length := by
  have hmember : ∀ i, i < (front ++ back).length →
      (((front ++ back)[i]?).any p = true ↔ i < front.length) := by
    intro i hi
    by_cases hlt : i < front.length
    · rw [List.getElem?_append_left hlt, List.getElem?_eq_getElem hlt]
      simp [hlt, hfront]
    · rw [List.length_append] at hi
      rw [List.getElem?_append_right (by omega), List.getElem?_eq_getElem (by omega)]
      simp [hlt, hback]
  have hle : front.length ≤ (front ++ back).length := by simp
  unfold countFront
  simp only [List.getElem?_toArray, List.size_toArray]
  obtain ⟨-, hlast, hrest⟩ := @lastPlace_spec (fun i => ((front ++ back)[i]?).any p)
    front.length 0 (front ++ back).length (by simpa using hmember)
  generalize lastPlace (fun i => ((front ++ back)[i]?).any p) 0 (front ++ back).length = place at *
  split
  · rename_i hp
    have hplace : place < (front ++ back).length := by
      apply Nat.lt_of_not_le
      intro hout
      simp [List.getElem?_eq_none hout] at hp
    have hlt := (hmember place hplace).1 hp
    by_cases hnext : place + 1 < (front ++ back).length
    · have := hrest (place + 1) (by omega) (by omega)
      omega
    · omega
  · rename_i hp
    have hzero : ¬ place < front.length := fun hlt => hp ((hmember place (by omega)).2 hlt)
    by_cases hfirst : 0 < place
    · exact absurd (hlast hfirst) hzero
    · omega

theorem countFront_map {α β : Type} {p : β → Bool} {g : α → β} {front back : List α}
    (hfront : ∀ x ∈ front, p (g x) = true) (hback : ∀ x ∈ back, p (g x) = false) :
    countFront p ((front ++ back).map g).toArray = front.length := by
  rw [List.map_append, countFront_append (List.forall_mem_map.2 hfront)
    (List.forall_mem_map.2 hback), List.length_map]

theorem exists_parting {α : Type} (place : α → Nat) (n : Nat) {row : List α}
    (h : row.Pairwise fun x y => place x ≤ place y) : ∃ front back, row = front ++ back ∧
      (∀ x ∈ front, place x < n) ∧ ∀ x ∈ back, n ≤ place x := by
  induction row with
  | nil => exact ⟨[], [], rfl, nofun, nofun⟩
  | cons x row ih =>
    obtain ⟨hfirst, hrow⟩ := List.pairwise_cons.1 h
    by_cases hx : place x < n
    · obtain ⟨front, back, rfl, hfront, hback⟩ := ih hrow
      exact ⟨x :: front, back, rfl, List.forall_mem_cons.2 ⟨hx, hfront⟩, hback⟩
    · refine ⟨[], x :: row, rfl, nofun, List.forall_mem_cons.2 ⟨not_lt.1 hx, fun y hy => ?_⟩⟩
      exact (not_lt.1 hx).trans (hfirst y hy)

theorem pairwise_mergeSort_stable {α : Type} {le : α → α → Bool}
    (htrans : ∀ a b c, le a b = true → le b c = true → le a c = true)
    (htotal : ∀ a b, (le a b || le b a) = true) {S : α → α → Prop} {row : List α}
    (h : row.Pairwise S) :
    (row.mergeSort le).Pairwise fun a b => le a b = true ∧ (le b a = true → S a b) := by
  rw [← List.mergeSort_zipIdx, List.pairwise_map]
  have hsorted := List.pairwise_mergeSort (List.zipIdxLE_trans htrans) (List.zipIdxLE_total htotal)
    row.zipIdx
  have hperm := List.mergeSort_perm row.zipIdx (List.zipIdxLE le)
  have hplaces : ((row.zipIdx.mergeSort (List.zipIdxLE le)).map Prod.snd).Nodup :=
    (hperm.map Prod.snd).nodup_iff.2 (List.nodup_zipIdx_map_snd row)
  refine (hsorted.and (List.pairwise_map.1 hplaces)).imp_of_mem ?_
  rintro ⟨a, i⟩ ⟨b, j⟩ ha hb ⟨hle, hne⟩
  obtain ⟨hi, hrow⟩ := List.getElem?_eq_some_iff.1
    (List.mem_zipIdx_iff_getElem?.1 (List.mem_mergeSort.1 ha))
  obtain ⟨hj, hrow'⟩ := List.getElem?_eq_some_iff.1
    (List.mem_zipIdx_iff_getElem?.1 (List.mem_mergeSort.1 hb))
  -- Numbered elements that sort alike are in the order of their numbers.
  unfold List.zipIdxLE at hle
  dsimp only at hi hj hrow hrow' hle hne ⊢
  split at hle
  · rename_i hab
    refine ⟨hab, fun hba => ?_⟩
    rw [if_pos hba] at hle
    have hlt : i < j := Nat.lt_of_le_of_ne (of_decide_eq_true hle) hne
    rw [← hrow, ← hrow']
    exact List.pairwise_iff_getElem.1 h i j hi hj hlt
  · cases hle

/-- What the items of a file stand for, each beside its item, in the order of `place`. -/
def rowOf {α : Type} (read : Item → Option α) (place : α → Nat) (items : List Item) :
    List (Item × α) :=
  (items.filterMap fun i => (read i).map (i, ·)).mergeSort fun x y => place x.2 ≤ place y.2

section Rows

variable {α : Type} (read : Item → Option α) (place : α → Nat)

theorem map_snd_rowOf (items : List Item) : (rowOf read place items).map Prod.snd =
    (items.filterMap read).mergeSort fun a b => place a ≤ place b := by
  have hread : (items.filterMap fun i => (read i).map (i, ·)).map Prod.snd =
      items.filterMap read := by
    rw [List.map_filterMap]
    congr 1
    funext i
    cases read i <;> rfl
  unfold rowOf
  rw [List.map_mergeSort (s := fun a b => decide (place a ≤ place b)) fun _ _ _ _ => rfl, hread]

theorem mem_rowOf {items : List Item} {i : Item} {a : α} :
    (i, a) ∈ rowOf read place items ↔ i ∈ items ∧ read i = some a := by
  unfold rowOf
  rw [List.mem_mergeSort, List.mem_filterMap]
  constructor
  · rintro ⟨j, hj, h⟩
    obtain ⟨b, hb, he⟩ := Option.map_eq_some_iff.1 h
    obtain ⟨rfl, rfl⟩ := Prod.mk.inj he
    exact ⟨hj, hb⟩
  · rintro ⟨hi, ha⟩
    exact ⟨i, hi, by rw [ha]; rfl⟩

theorem pairwise_rowOf (e : Entries) : (rowOf read place e.items).Pairwise fun x y =>
    place x.2 ≤ place y.2 ∧ (place x.2 = place y.2 → x.1.1 < y.1.1) := by
  have hkeys : (e.items.filterMap fun i => (read i).map (i, ·)).Pairwise
      fun x y => x.1.1 < y.1.1 := by
    refine e.sorted.filterMap _ fun i j hij x hx y hy => ?_
    obtain ⟨a, -, rfl⟩ := Option.map_eq_some_iff.1 hx
    obtain ⟨b, -, rfl⟩ := Option.map_eq_some_iff.1 hy
    exact hij
  have hsorted := @pairwise_mergeSort_stable _ (fun x y : Item × α => place x.2 ≤ place y.2)
    (fun a b c hab hbc => by simp only [decide_eq_true_eq] at *; omega)
    (fun a b => by simp only [Bool.or_eq_true, decide_eq_true_eq]; omega) _ _ hkeys
  refine hsorted.imp fun {x y} h => ?_
  simp only [decide_eq_true_eq] at h
  exact ⟨h.1, fun he => h.2 he.ge⟩

end Rows

end RdapDirectory.Registry
