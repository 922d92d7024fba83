import Mathlib.Data.List.Basic

/-!
# Lib.Cut

Cutting a list around a separator: at its first or last occurrence, or at the first
occurrence of a list of separators.

A cut is determined by what it returns: the two parts put together again around the
separator give the list, and the part on the near side does not hold it.
-/

namespace SecureBinding.Lib

variable {α : Type} [DecidableEq α] {sep : α} {s a b : List α}

/-! ### The first occurrence -/

/-- What comes before the first separator, and what comes after it. -/
def cut (sep : α) : List α → List α × Option (List α)
  | [] => ([], none)
  | c :: s => if c = sep then ([], some s) else (c :: (cut sep s).1, (cut sep s).2)

theorem cut_of_notMem (h : sep ∉ s) : cut sep s = (s, none) := by
  induction s with
  | nil => rfl
  | cons c s ih =>
    obtain ⟨hne, hs⟩ := not_or.mp (List.mem_cons.not.mp h)
    rw [cut, if_neg (Ne.symm hne), ih hs]

theorem cut_append_cons (h : sep ∉ a) : cut sep (a ++ sep :: b) = (a, some b) := by
  induction a with
  | nil => simp [cut]
  | cons c a ih =>
    obtain ⟨hne, ha⟩ := not_or.mp (List.mem_cons.not.mp h)
    rw [List.cons_append, cut, if_neg (Ne.symm hne), ih ha]

/-- What precedes the first separator can be told from what follows it. -/
theorem append_cons_inj {a' b' : List α} (ha : sep ∉ a) (ha' : sep ∉ a')
    (h : a ++ sep :: b = a' ++ sep :: b') : a = a' ∧ b = b' := by
  have hcut := congrArg (cut sep) h
  rw [cut_append_cons ha, cut_append_cons ha'] at hcut
  cases hcut
  exact ⟨rfl, rfl⟩

/-- A list has no separator, or is cut at the first one. -/
theorem cut_cases (sep : α) (s : List α) :
    (sep ∉ s ∧ cut sep s = (s, none)) ∨
      ∃ a b, s = a ++ sep :: b ∧ sep ∉ a ∧ cut sep s = (a, some b) := by
  by_cases h : sep ∈ s
  · obtain ⟨a, b, rfl, ha⟩ := List.eq_append_cons_of_mem h
    exact .inr ⟨a, b, rfl, ha, cut_append_cons ha⟩
  · exact .inl ⟨h, cut_of_notMem h⟩

theorem cut_eq_some_iff : cut sep s = (a, some b) ↔ s = a ++ sep :: b ∧ sep ∉ a := by
  constructor
  · intro h
    obtain ⟨-, hcut⟩ | ⟨a', b', hs, ha, hcut⟩ := cut_cases sep s
    · rw [hcut] at h
      cases h
    · rw [hcut] at h
      cases h
      exact ⟨hs, ha⟩
  · intro h
    obtain ⟨rfl, ha⟩ := h
    exact cut_append_cons ha

/-! ### The last occurrence -/

/-- What comes before the last separator, and what comes after it. -/
def cutLast (sep : α) (s : List α) : Option (List α × List α) :=
  match cut sep s.reverse with
  | (after, some before) => some (before.reverse, after.reverse)
  | (_, none) => none

theorem cutLast_append_cons (h : sep ∉ b) : cutLast sep (a ++ sep :: b) = some (a, b) := by
  have hcut : cut sep (a ++ sep :: b).reverse = (b.reverse, some a.reverse) := by
    rw [cut_eq_some_iff]
    exact ⟨by simp, by simpa using h⟩
  rw [cutLast, hcut]
  simp

theorem cutLast_eq_some_iff : cutLast sep s = some (a, b) ↔ s = a ++ sep :: b ∧ sep ∉ b := by
  constructor
  · intro h
    unfold cutLast at h
    split at h
    · rename_i after before hcut
      cases h
      obtain ⟨hrev, haft⟩ := cut_eq_some_iff.mp hcut
      refine ⟨?_, by simpa using haft⟩
      rw [← List.reverse_reverse s, hrev]
      simp
    · cases h
  · intro h
    obtain ⟨rfl, hb⟩ := h
    exact cutLast_append_cons hb

/-! ### A list as the separator -/

/-- What comes before the first occurrence of a list, and what comes after it. -/
def cutList (seps : List α) : List α → Option (List α × List α)
  | [] => if seps = [] then some ([], []) else none
  | c :: s =>
    if seps.isPrefixOf (c :: s) then some ([], (c :: s).drop seps.length)
    else (cutList seps s).map fun r => (c :: r.1, r.2)

theorem append_of_cutList {seps : List α} (h : cutList seps s = some (a, b)) :
    s = a ++ (seps ++ b) := by
  induction s generalizing a with
  | nil =>
    rw [cutList] at h
    split at h
    · rename_i hseps
      cases h
      rw [hseps]
      rfl
    · cases h
  | cons c s ih =>
    rw [cutList] at h
    split at h
    · rename_i hpre
      obtain ⟨rest, hrest⟩ := List.isPrefixOf_iff_prefix.mp hpre
      cases h
      rw [← hrest, List.drop_left, List.nil_append]
    · obtain ⟨⟨a', b'⟩, hcut, heq⟩ := Option.map_eq_some_iff.mp h
      cases heq
      rw [ih hcut, List.cons_append]

end SecureBinding.Lib
