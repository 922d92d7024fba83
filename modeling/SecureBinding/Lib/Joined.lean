import Mathlib.Data.List.Basic

/-!
# Lib.Joined

Lists joined with a separator that the parts may hold themselves.

Two rows of parts of the same length may be joined into the same list. If they are not the
same row, then some part of the first holds the separator, and a piece of that part is at
another place in the second row: to the right of it (`Regrouped.right`), or to the left
(`Regrouped.left`). `regrouped_of_intercalate_eq` finds the part, together with what the
second row then says about the pieces. In the other direction, a piece moved from a part to
its neighbour does not change what the parts are joined into (`intercalate_set_set`).
-/

namespace SecureBinding.Lib

variable {α : Type} {sep : α} {xs ys : List (List α)} {x y m p q s : List α}

/-! ### Splits -/

/-- The ways to split a list around a separator. -/
def splits [DecidableEq α] (sep : α) : List α → List (List α × List α)
  | [] => []
  | c :: s =>
    (if c = sep then [([], s)] else []) ++ (splits sep s).map fun parts => (c :: parts.1, parts.2)

theorem mem_splits_iff [DecidableEq α] : (p, q) ∈ splits sep s ↔ s = p ++ sep :: q := by
  induction s generalizing p with
  | nil => simp [splits]
  | cons c s ih =>
    rw [splits, List.mem_append, List.mem_map]
    constructor
    · intro h
      obtain h | ⟨⟨p', q'⟩, hmem, heq⟩ := h
      · by_cases hc : c = sep
        · rw [if_pos hc, List.mem_singleton] at h
          cases h
          rw [hc, List.nil_append]
        · simp [hc] at h
      · cases heq
        rw [ih.mp hmem, List.cons_append]
    · intro h
      cases p with
      | nil =>
        obtain ⟨rfl, rfl⟩ := List.cons.inj h
        exact .inl (by simp)
      | cons c' p =>
        obtain ⟨rfl, hs⟩ := List.cons.inj h
        exact .inr ⟨(p, q), ih.mpr hs, rfl⟩

/-! ### Moving a piece to a neighbour -/

theorem intercalate_cons (h : xs ≠ []) :
    [sep].intercalate (x :: xs) = x ++ sep :: [sep].intercalate xs := by
  rw [List.intercalate_cons_of_ne_nil h, List.append_assoc, List.singleton_append]

/-- Two neighbours may be replaced by two parts that are joined into the same. -/
theorem intercalate_set_set {k : Nat} {f g f' g' : List α} (hf : xs[k]? = some f)
    (hg : xs[k + 1]? = some g) (h : f' ++ sep :: g' = f ++ sep :: g) :
    [sep].intercalate ((xs.set k f').set (k + 1) g') = [sep].intercalate xs := by
  induction xs generalizing k with
  | nil => cases hf
  | cons x xs ih =>
    cases k with
    | zero =>
      cases xs with
      | nil => cases hg
      | cons z xs =>
        obtain rfl : x = f := Option.some.inj hf
        obtain rfl : z = g := Option.some.inj hg
        show [sep].intercalate (f' :: g' :: xs) = [sep].intercalate (x :: z :: xs)
        by_cases hxs : xs = []
        · have hpair : ∀ u v : List α, [sep].intercalate [u, v] = u ++ sep :: v := by
            intro u v
            rw [intercalate_cons (by simp), List.intercalate_singleton]
          rw [hxs, hpair, hpair, h]
        · have hjoin : ∀ u v : List α, [sep].intercalate (u :: v :: xs) =
              (u ++ sep :: v) ++ sep :: [sep].intercalate xs := by
            intro u v
            rw [intercalate_cons (by simp), intercalate_cons hxs, List.append_assoc,
              List.cons_append]
          rw [hjoin, hjoin, h]
    | succ k =>
      have hne : xs ≠ [] := by
        intro hxs
        rw [hxs] at hf
        cases hf
      show [sep].intercalate (x :: (xs.set k f').set (k + 1) g') = _
      rw [intercalate_cons hne, intercalate_cons (by simpa using hne), ih hf hg]

/-! ### Rows joined into the same list -/

/-- The element is the separator, or in a part at a place with the property. -/
def Within (sep : α) (place : Nat → Prop) (ys : List (List α)) (c : α) : Prop :=
  c = sep ∨ ∃ j z, place j ∧ ys[j]? = some z ∧ c ∈ z

theorem Within.cons {place place' : Nat → Prop} {c : α} (h : Within sep place ys c)
    (hplc : ∀ j, place j → place' (j + 1)) (y : List α) : Within sep place' (y :: ys) c := by
  obtain hsep | ⟨j, z, hj, hz, hc⟩ := h
  · exact .inl hsep
  · exact .inr ⟨j + 1, z, hplc j hj, hz, hc⟩

/-- What is joined is the separators and the parts. -/
theorem within_of_mem_intercalate {c : α} (h : c ∈ [sep].intercalate xs) :
    Within sep (fun _ => True) xs c := by
  induction xs with
  | nil => cases h
  | cons x xs ih =>
    by_cases hxs : xs = []
    · rw [hxs, List.intercalate_singleton] at h
      exact .inr ⟨0, x, trivial, rfl, h⟩
    · rw [intercalate_cons hxs, List.mem_append, List.mem_cons] at h
      obtain hx | hsep | hrest := h
      · exact .inr ⟨0, x, trivial, rfl, hx⟩
      · exact .inl hsep
      · exact (ih hrest).cons (fun _ h => h) x

/-- A part of the first row holds the separator, and one of the pieces around it is
elsewhere in the second row. -/
inductive Regrouped (sep : α) (xs ys : List (List α)) : Prop
  /-- What comes after the separator is to the right. -/
  | right (k : Nat) (p q : List α) (hx : xs[k]? = some (p ++ sep :: q)) (hy : ys[k]? = some p)
      (hlt : k + 1 < xs.length) (hq : ∀ c ∈ q, Within sep (k < ·) ys c)
  /-- What comes before the separator is to the left. -/
  | left (k : Nat) (p q y : List α) (hx : xs[k + 1]? = some (p ++ sep :: q))
      (hy : ys[k + 1]? = some y) (hq : q = y ∨ ∃ r, q = y ++ sep :: r)
      (hp : ∀ c ∈ p, Within sep (· ≤ k) ys c)

theorem Regrouped.cons (h : Regrouped sep xs ys) (x : List α) :
    Regrouped sep (x :: xs) (x :: ys) := by
  cases h with
  | right k p q hx hy hlt hq =>
    exact .right (k + 1) p q hx hy (Nat.succ_lt_succ hlt)
      fun c hc => (hq c hc).cons (fun _ => Nat.succ_lt_succ) x
  | left k p q y hx hy hq hp =>
    exact .left (k + 1) p q y hx hy hq fun c hc => (hp c hc).cons (fun _ => Nat.succ_le_succ) x

/-- Where two lists with a separator in them are the same, the separators are at the same
place or one of them is in the part before the other. -/
theorem append_cons_eq_append_cons_cases {s t : List α} (h : x ++ sep :: s = y ++ sep :: t) :
    (x = y ∧ s = t) ∨ (∃ q, x = y ++ sep :: q ∧ t = q ++ sep :: s) ∨
      ∃ q, y = x ++ sep :: q ∧ s = q ++ sep :: t := by
  obtain ⟨as, rfl, hs⟩ | ⟨bs, rfl, ht⟩ := List.append_eq_append_iff.mp h
  · obtain ⟨rfl, heq⟩ | ⟨q, rfl, hq⟩ := List.cons_eq_append_iff.mp hs
    · exact .inl ⟨(List.append_nil x).symm, (List.cons.inj heq).2.symm⟩
    · exact .inr (.inr ⟨q, rfl, hq⟩)
  · obtain ⟨rfl, heq⟩ | ⟨q, rfl, hq⟩ := List.cons_eq_append_iff.mp ht
    · exact .inl ⟨List.append_nil y, (List.cons.inj heq).2⟩
    · exact .inr (.inl ⟨q, rfl, hq⟩)

theorem eq_nil_iff_of_length_eq (h : xs.length = ys.length) : xs = [] ↔ ys = [] := by
  rw [← List.length_eq_zero_iff, h, List.length_eq_zero_iff]

/-- The second row starts inside the first: the first has `m` and a separator before it.
Since the rows have the same length, the first must catch up with the second, in a part
that holds a separator. -/
theorem exists_split_of_ahead (hlen : xs.length = ys.length) (hne : xs ≠ [])
    (h : [sep].intercalate xs = m ++ sep :: [sep].intercalate ys) :
    ∃ k p q y, xs[k]? = some (p ++ sep :: q) ∧ ys[k]? = some y ∧
      (q = y ∨ ∃ r, q = y ++ sep :: r) ∧ ∀ c ∈ p, c ∈ m ∨ Within sep (· < k) ys c := by
  induction xs generalizing ys m with
  | nil => exact absurd rfl hne
  | cons x xs ih =>
    cases ys with
    | nil => cases hlen
    | cons y ys =>
      have hlen' : xs.length = ys.length := Nat.succ.inj hlen
      by_cases hxs : xs = []
      · -- the last part: it is all that the second row has left, and what comes before it
        obtain rfl : ys = [] := (eq_nil_iff_of_length_eq hlen').mp hxs
        rw [hxs, List.intercalate_singleton, List.intercalate_singleton] at h
        exact ⟨0, m, y, y, by rw [h]; rfl, rfl, .inl rfl, fun c hc => .inl hc⟩
      · have hys : ys ≠ [] := mt (eq_nil_iff_of_length_eq hlen').mpr hxs
        rw [intercalate_cons hxs, intercalate_cons hys] at h
        have hcut : x ++ sep :: [sep].intercalate xs =
            (m ++ sep :: y) ++ sep :: [sep].intercalate ys := by
          rw [h, List.append_assoc, List.cons_append]
        obtain ⟨rfl, -⟩ | ⟨q, rfl, -⟩ | ⟨q, hq, hrest⟩ := append_cons_eq_append_cons_cases hcut
        · exact ⟨0, m, y, y, rfl, rfl, .inl rfl, fun c hc => .inl hc⟩
        · exact ⟨0, m, y ++ sep :: q, y, by simp, rfl, .inr ⟨q, rfl⟩, fun c hc => .inl hc⟩
        · -- the part ends before that of the second row, which stays ahead by `q`
          obtain ⟨k, p, r, z, hx, hy, hr, hp⟩ := ih hlen' hxs hrest
          refine ⟨k + 1, p, r, z, hx, hy, hr, fun c hc => ?_⟩
          obtain hc | hc := hp c hc
          · have hmem : c ∈ m ++ sep :: y := hq ▸ by simp [hc]
            rw [List.mem_append, List.mem_cons] at hmem
            obtain hm | hsep | hy := hmem
            · exact .inl hm
            · exact .inr (.inl hsep)
            · exact .inr (.inr ⟨0, y, Nat.succ_pos k, rfl, hy⟩)
          · exact .inr (hc.cons (fun _ => Nat.succ_lt_succ) y)

/-- Rows of the same length that are joined into the same list are the same, or regrouped. -/
theorem regrouped_of_intercalate_eq (hlen : xs.length = ys.length)
    (h : [sep].intercalate xs = [sep].intercalate ys) (hne : xs ≠ ys) : Regrouped sep xs ys := by
  induction xs generalizing ys with
  | nil => exact absurd (List.eq_nil_of_length_eq_zero hlen.symm).symm hne
  | cons x xs ih =>
    cases ys with
    | nil => cases hlen
    | cons y ys =>
      have hlen' : xs.length = ys.length := Nat.succ.inj hlen
      by_cases hxs : xs = []
      · obtain rfl : ys = [] := (eq_nil_iff_of_length_eq hlen').mp hxs
        rw [hxs, List.intercalate_singleton, List.intercalate_singleton] at h
        exact absurd (by rw [hxs, h]) hne
      · have hys : ys ≠ [] := mt (eq_nil_iff_of_length_eq hlen').mpr hxs
        rw [intercalate_cons hxs, intercalate_cons hys] at h
        obtain ⟨rfl, heq⟩ | ⟨q, rfl, hq⟩ | ⟨q, rfl, hq⟩ := append_cons_eq_append_cons_cases h
        · have hrest : xs ≠ ys := fun heq => hne (by rw [heq])
          exact (ih hlen' heq hrest).cons x
        · -- the first row's part is the longer one
          refine .right 0 y q rfl rfl (Nat.succ_lt_succ (List.length_pos_iff.mpr hxs))
            fun c hc => ?_
          have hmem : c ∈ [sep].intercalate ys := hq ▸ by simp [hc]
          exact (within_of_mem_intercalate hmem).cons (fun j _ => Nat.succ_pos j) y
        · -- the second row's part is the longer one, so that its other parts are ahead
          obtain ⟨k, p, r, z, hx, hy, hr, hp⟩ := exists_split_of_ahead hlen' hxs hq
          refine .left k p r z hx hy hr fun c hc => ?_
          obtain hc | hc := hp c hc
          · exact .inr ⟨0, _, Nat.zero_le k, rfl, by simp [hc]⟩
          · exact hc.cons (fun j hj => hj) _

end SecureBinding.Lib
