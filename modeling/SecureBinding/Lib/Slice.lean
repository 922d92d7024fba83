import Mathlib.Data.List.Basic
import Mathlib.Data.List.Count

/-!
# Lib.Slice

Slices of a shared array. A slice is a length and the array behind it; whoever holds another
slice of the array sees what is done through this one.

`delete` removes an element in place: what follows it moves down, and the place that becomes
free is cleared. The array is then what it was before only if there was nothing but cleared
places from the element on (`delete_array_of_cleared`), and what one deletion has changed no
later one restores: `weight` never grows, and is the same only for a deletion that changes
nothing (`weight_delete_eq_iff`).
-/

namespace SecureBinding.Lib

variable {α : Type}

/-- A slice that starts with its array. -/
structure Slice (α : Type) where
  array : List α
  len : Nat
  len_le : len ≤ array.length

namespace Slice

def toList (s : Slice α) : List α := s.array.take s.len

def ofList (l : List α) : Slice α := ⟨l, l.length, Nat.le_refl _⟩

instance : EmptyCollection (Slice α) := ⟨ofList []⟩

@[simp] theorem toList_ofList (l : List α) : (ofList l).toList = l := List.take_length

@[simp] theorem length_toList (s : Slice α) : s.toList.length = s.len := by
  rw [toList, List.length_take, Nat.min_eq_left s.len_le]

theorem toList_append_drop (s : Slice α) : s.toList ++ s.array.drop s.len = s.array :=
  List.take_append_drop ..

section Delete

variable [Inhabited α]

/-- The element at `i` is removed in place. -/
def delete (s : Slice α) (i : Nat) : Slice α :=
  if h : i < s.len then
    { array := s.toList.eraseIdx i ++ default :: s.array.drop s.len
      len := s.len - 1
      len_le := by
        rw [List.length_append, List.length_eraseIdx_of_lt (by rwa [length_toList]), length_toList]
        exact Nat.le_add_right _ _ }
  else s

theorem array_delete {s : Slice α} {i : Nat} (h : i < s.len) :
    (s.delete i).array = s.toList.eraseIdx i ++ default :: s.array.drop s.len := by
  rw [delete, dif_pos h]

@[simp] theorem toList_delete (s : Slice α) (i : Nat) :
    (s.delete i).toList = s.toList.eraseIdx i := by
  by_cases h : i < s.len
  · have hlen : (s.delete i).len = (s.toList.eraseIdx i).length := by
      rw [delete, dif_pos h, List.length_eraseIdx_of_lt (by rwa [length_toList]), length_toList]
    rw [toList, array_delete h, hlen, List.take_left]
  · rw [delete, dif_neg h, List.eraseIdx_of_length_le]
    rw [length_toList]
    exact Nat.le_of_not_lt h

/-- From `i` on there are only cleared places. -/
def Cleared (s : Slice α) (i : Nat) : Prop := ∀ x ∈ s.toList.drop i, x = default

end Delete

end Slice

/-! ### Weights -/

section Weight

variable [Inhabited α] [DecidableEq α]

/-- The places of a list that are not cleared. -/
def occupied (l : List α) : Nat := l.countP fun x => decide (x ≠ default)

/-- The places that are not cleared, each as often as its number. -/
def weight : List α → Nat
  | [] => 0
  | x :: l => occupied (x :: l) + weight l

theorem occupied_append (l l' : List α) : occupied (l ++ l') = occupied l + occupied l' :=
  List.countP_append ..

theorem occupied_eq_zero_iff {l : List α} : occupied l = 0 ↔ ∀ x ∈ l, x = default := by
  simp [occupied]

@[simp] theorem occupied_default_cons (l : List α) : occupied (default :: l) = occupied l := by
  simp [occupied]

/-- A cleared place that is put in moves what follows it up. -/
theorem weight_insert (l l' : List α) :
    weight (l ++ default :: l') = weight (l ++ l') + occupied l' := by
  induction l with
  | nil =>
    rw [List.nil_append, List.nil_append, weight, occupied_default_cons]
    exact Nat.add_comm _ _
  | cons x l ih =>
    have hsame : occupied (x :: (l ++ default :: l')) = occupied (x :: (l ++ l')) := by
      rw [← List.cons_append, ← List.cons_append, occupied_append, occupied_append,
        occupied_default_cons]
    rw [List.cons_append, List.cons_append, weight, weight, ih, hsame, Nat.add_assoc]

omit [DecidableEq α] in
theorem eraseIdx_append_of_cleared {l : List α} {i : Nat} (hi : i < l.length)
    (h : ∀ x ∈ l.drop i, x = default) : l.eraseIdx i ++ [default] = l := by
  induction l generalizing i with
  | nil => cases hi
  | cons x l ih =>
    cases i with
    | zero =>
      rw [List.drop_zero] at h
      have hrep : x :: l = List.replicate (l.length + 1) default := List.eq_replicate_of_mem h
      rw [List.eraseIdx_cons_zero]
      obtain ⟨hx, hl⟩ := List.cons.inj (hrep.trans List.replicate_succ)
      rw [hx, hl, ← List.replicate_succ', List.replicate_succ]
    | succ i =>
      rw [List.eraseIdx_cons_succ, List.cons_append,
        ih (Nat.lt_of_succ_lt_succ hi) (by simpa using h)]

/-- The weight of an array after a deletion, in terms of what it was. -/
theorem weight_eraseIdx {l : List α} {i : Nat} (hi : i < l.length) (l' : List α) :
    weight (l.eraseIdx i ++ default :: l') ≤ weight (l ++ l') ∧
      (weight (l.eraseIdx i ++ default :: l') = weight (l ++ l') →
        ∀ x ∈ l.drop i, x = default) := by
  induction l generalizing i with
  | nil => cases hi
  | cons x l ih =>
    cases i with
    | zero =>
      have hweight : weight (x :: l ++ l') = weight (l ++ default :: l') + occupied (x :: l) := by
        rw [weight_insert, List.cons_append, weight, ← List.cons_append, occupied_append]
        omega
      rw [List.eraseIdx_cons_zero, hweight, List.drop_zero, ← occupied_eq_zero_iff]
      omega
    | succ i =>
      obtain ⟨hle, heq⟩ := ih (Nat.lt_of_succ_lt_succ hi)
      -- The places in front keep their numbers; behind them at most as much is occupied.
      have hoccupied : occupied (x :: (l.eraseIdx i ++ default :: l')) ≤
          occupied (x :: (l ++ l')) := by
        rw [← List.cons_append, ← List.cons_append, occupied_append, occupied_append,
          occupied_default_cons]
        have hsub : occupied (x :: l.eraseIdx i) ≤ occupied (x :: l) :=
          ((List.eraseIdx_sublist l i).cons_cons x).countP_le
        omega
      rw [List.eraseIdx_cons_succ, List.cons_append, List.cons_append, weight, weight,
        List.drop_succ_cons]
      exact ⟨by omega, fun h => heq (by omega)⟩

namespace Slice

variable {s : Slice α} {i : Nat}

omit [DecidableEq α] in
theorem delete_array_of_cleared (hi : i < s.len) (h : s.Cleared i) :
    (s.delete i).array = s.array := by
  have herase := eraseIdx_append_of_cleared (by rwa [length_toList]) h
  rw [array_delete hi, ← List.singleton_append, ← List.append_assoc, herase, toList_append_drop]

theorem weight_delete_le : weight (s.delete i).array ≤ weight s.array := by
  by_cases hi : i < s.len
  · have h := (weight_eraseIdx (by rwa [length_toList]) (s.array.drop s.len)).1
    rwa [toList_append_drop, ← array_delete hi] at h
  · exact Nat.le_of_eq (by rw [delete, dif_neg hi])

theorem weight_delete_eq_iff (hi : i < s.len) :
    weight (s.delete i).array = weight s.array ↔ s.Cleared i := by
  have h := (weight_eraseIdx (by rwa [length_toList]) (s.array.drop s.len)).2
  rw [toList_append_drop, ← array_delete hi] at h
  exact ⟨h, fun hclr => by rw [delete_array_of_cleared hi hclr]⟩

end Slice

end Weight

end SecureBinding.Lib
