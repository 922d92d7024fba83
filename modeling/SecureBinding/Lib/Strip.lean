import Mathlib.Data.List.Basic

/-!
# Lib.Strip

Stripping separators from the two ends of a sequence, when a separator may be
several elements long (a multi-byte space, say).

A `Scanner` says how long the separator at the front of a sequence is, `0` when
there is none. `strip` removes separators from the front until none is left, and
`trim` does so at both ends, the back being the front of the reversed sequence.
The one result the rest of the development needs is `trim_trim`: a trimmed
sequence is a fixed point. It rests on `Scanner.stable`, which says that a
separator at the front does not depend on what follows it.
-/

namespace SecureBinding.Lib

/-- The length of the separator at the front of a sequence, `0` when the
sequence does not start with one. -/
structure Scanner (α : Type) where
  len : List α → Nat
  /-- A separator lies within the sequence. -/
  len_le : ∀ l, len l ≤ l.length
  /-- Appending to a sequence does not take its leading separator away. -/
  stable : ∀ l m, len l ≠ 0 → len (l ++ m) ≠ 0

namespace Scanner

variable {α : Type} (S : Scanner α)

@[simp] theorem len_nil : S.len [] = 0 := Nat.le_zero.mp (S.len_le [])

/-- Remove at most `n` separators from the front. -/
def stripN : Nat → List α → List α
  | 0, l => l
  | n + 1, l => if S.len l = 0 then l else stripN n (l.drop (S.len l))

/-- Remove every separator from the front. Each one has at least one element, so
`l.length` rounds are enough. -/
def strip (l : List α) : List α := S.stripN l.length l

theorem stripN_of_len_eq_zero {l : List α} (h : S.len l = 0) (n : Nat) : S.stripN n l = l := by
  cases n with
  | zero => rfl
  | succ n => rw [stripN, if_pos h]

/-- No separator is left once there were as many rounds as elements. -/
theorem len_stripN {n : Nat} : ∀ {l : List α}, l.length ≤ n → S.len (S.stripN n l) = 0 := by
  induction n with
  | zero =>
    intro l h
    obtain rfl : l = [] := List.length_eq_zero_iff.mp (Nat.le_zero.mp h)
    exact S.len_nil
  | succ n ih =>
    intro l h
    rw [stripN]
    by_cases hl : S.len l = 0
    · rw [if_pos hl]
      exact hl
    · rw [if_neg hl]
      apply ih
      rw [List.length_drop]
      omega

theorem len_strip (l : List α) : S.len (S.strip l) = 0 := S.len_stripN (Nat.le_refl _)

theorem strip_of_len_eq_zero {l : List α} (h : S.len l = 0) : S.strip l = l :=
  S.stripN_of_len_eq_zero h _

theorem stripN_suffix (n : Nat) : ∀ l : List α, S.stripN n l <:+ l := by
  induction n with
  | zero => intro l; exact List.suffix_refl l
  | succ n ih =>
    intro l
    rw [stripN]
    split
    · exact List.suffix_refl l
    · exact (ih _).trans (List.drop_suffix _ l)

theorem strip_suffix (l : List α) : S.strip l <:+ l := S.stripN_suffix _ l

/-- A prefix of a sequence without a leading separator has none either. -/
theorem len_eq_zero_of_prefix {p l : List α} (hp : p <+: l) (hl : S.len l = 0) : S.len p = 0 := by
  obtain ⟨q, rfl⟩ := hp
  by_contra h
  exact S.stable p q h hl

/-! ### Elements that stop a scanner -/

/-- No separator reaches up to `c`, or across it. -/
def StopsAt (c : α) : Prop := ∀ x y, S.len (x ++ c :: y) = S.len x

variable {S}

theorem StopsAt.stripN_append_cons {c : α} (h : S.StopsAt c) (n : Nat) :
    ∀ x y, S.stripN n (x ++ c :: y) = S.stripN n x ++ c :: y := by
  induction n with
  | zero => intro x y; rfl
  | succ n ih =>
    intro x y
    rw [stripN, stripN, h x y]
    by_cases hlen : S.len x = 0
    · rw [if_pos hlen, if_pos hlen]
    · rw [if_neg hlen, if_neg hlen, List.drop_append_of_le_length (S.len_le x), ih]

/-- More rounds than there are elements strip nothing more. -/
theorem stripN_of_length_le {n : Nat} :
    ∀ {m : Nat} {l : List α}, l.length ≤ n → n ≤ m → S.stripN m l = S.stripN n l := by
  induction n with
  | zero =>
    intro m l hlen _
    obtain rfl : l = [] := List.length_eq_zero_iff.mp (Nat.le_zero.mp hlen)
    exact S.stripN_of_len_eq_zero S.len_nil m
  | succ n ih =>
    intro m l hlen hle
    obtain ⟨m, rfl⟩ : ∃ k, m = k + 1 := ⟨m - 1, by omega⟩
    rw [stripN, stripN]
    by_cases hl : S.len l = 0
    · rw [if_pos hl, if_pos hl]
    · rw [if_neg hl, if_neg hl]
      apply ih
      · rw [List.length_drop]
        omega
      · omega

theorem StopsAt.strip_append_cons {c : α} (h : S.StopsAt c) (x y : List α) :
    S.strip (x ++ c :: y) = S.strip x ++ c :: y := by
  rw [strip, h.stripN_append_cons, stripN_of_length_le (Nat.le_refl _), strip]
  rw [List.length_append]
  omega

end Scanner

/-- Remove separators from both ends: `S` finds them at the front, `R` at the
front of the reversed sequence. -/
def trim {α : Type} (S R : Scanner α) (l : List α) : List α :=
  (R.strip (S.strip l).reverse).reverse

section Trim

variable {α : Type} {S R : Scanner α}

/-- Trimming keeps a prefix of what stripping the front leaves. -/
theorem trim_prefix_strip (l : List α) : trim S R l <+: S.strip l := by
  have h := R.strip_suffix (S.strip l).reverse
  rw [← List.reverse_prefix] at h
  simpa [trim] using h

theorem trim_eq_self {l : List α} (hS : S.len l = 0) (hR : R.len l.reverse = 0) :
    trim S R l = l := by
  rw [trim, S.strip_of_len_eq_zero hS, R.strip_of_len_eq_zero hR, List.reverse_reverse]

theorem trim_trim (l : List α) : trim S R (trim S R l) = trim S R l := by
  apply trim_eq_self
  · exact S.len_eq_zero_of_prefix (trim_prefix_strip l) (S.len_strip l)
  · rw [trim, List.reverse_reverse]
    exact R.len_strip _

/-- Trimming around an element that stops both scanners. -/
theorem trim_append_cons {c : α} (hS : S.StopsAt c) (hR : R.StopsAt c) (x y : List α) :
    trim S R (x ++ c :: y) = S.strip x ++ c :: (R.strip y.reverse).reverse := by
  rw [trim, hS.strip_append_cons, List.reverse_append, List.reverse_cons, List.append_assoc,
    List.singleton_append, hR.strip_append_cons]
  simp

@[simp] theorem trim_nil : trim S R ([] : List α) = [] := by
  apply trim_eq_self <;> simp

end Trim

end SecureBinding.Lib
