import Mathlib.Data.List.Forall2

/-!
# Lib.Except

Inversion of computations in `Except`: what the steps of a chain have returned when
the whole chain succeeds. A chain is taken apart by `bind_ok_iff` and never
unfolded.
-/

namespace SecureBinding.Lib

variable {ε ε' α β : Type}

variable {a : α} {b : β} {e : ε} {as : List α}

theorem ok_bind {f : α → Except ε β} : (Except.ok a >>= f) = f a := rfl

theorem except_bind_ok_iff {x : Except ε α} {f : α → Except ε β} :
    x.bind f = .ok b ↔ ∃ a, x = .ok a ∧ f a = .ok b := by
  cases x <;> simp [Except.bind]

theorem bind_ok_iff {x : Except ε α} {f : α → Except ε β} :
    (x >>= f) = .ok b ↔ ∃ a, x = .ok a ∧ f a = .ok b :=
  except_bind_ok_iff

/-- Two continuations need to agree only on what the first step returns. -/
theorem bind_congr_of_ok {x : Except ε α} {f g : α → Except ε β}
    (h : ∀ a, x = .ok a → f a = g a) : (x >>= f) = (x >>= g) := by
  cases x with
  | error e => rfl
  | ok a => exact h a rfl

/-- A step whose only good result is `a`, and then another one. -/
theorem except_bind_eq_ok_iff_of_forall {x : Except ε α} {f : α → Except ε β}
    {p : Prop} (h : ∀ a', x = .ok a' ↔ p ∧ a' = a) :
    x.bind f = .ok b ↔ p ∧ f a = .ok b := by
  rw [except_bind_ok_iff]
  constructor
  · rintro ⟨a', hx, hf⟩
    obtain ⟨hp, rfl⟩ := (h a').mp hx
    exact ⟨hp, hf⟩
  · rintro ⟨hp, hf⟩
    exact ⟨a, (h a).mpr ⟨hp, rfl⟩, hf⟩

/-- A check that fails with `e`. -/
def ensure (p : Prop) [Decidable p] (e : ε) : Except ε Unit := if p then .ok () else .error e

theorem ensure_ok_iff {p : Prop} [Decidable p] {u : Unit} : ensure p e = .ok u ↔ p := by
  unfold ensure
  split <;> simp_all

/-- A branch that fails is not taken by a computation that succeeds. -/
theorem ite_error_ok_iff {p : Prop} [Decidable p] {x : Except ε α} :
    (if p then .error e else x) = .ok a ↔ ¬p ∧ x = .ok a := by
  split <;> simp_all

theorem pure_ok_iff {b : α} : (pure a : Except ε α) = .ok b ↔ a = b := by
  simp [pure, Except.pure]

theorem map_ok_iff {x : Except ε α} {f : α → β} : x.map f = .ok b ↔ ∃ a, x = .ok a ∧ f a = b := by
  cases x <;> simp [Except.map]

theorem mapError_ok_iff {x : Except ε α} {f : ε → ε'} : x.mapError f = .ok a ↔ x = .ok a := by
  cases x with
  | error e => constructor <;> intro h <;> cases h
  | ok b => constructor <;> intro h <;> cases h <;> rfl

/-- A check after a step leaves the result of the step. -/
theorem bind_check_ok_iff {x : Except ε α} {check : Except ε Unit} :
    (x >>= fun a => check >>= fun _ => pure a) = .ok a ↔ x = .ok a ∧ check = .ok () := by
  simp only [bind_ok_iff]
  exact ⟨fun ⟨_, hx, _, hchk, heq⟩ => ⟨heq ▸ hx, hchk⟩, fun ⟨hx, hchk⟩ => ⟨a, hx, (), hchk, rfl⟩⟩

theorem isOk_iff_exists {x : Except ε α} : x.isOk = true ↔ ∃ a, x = .ok a := by
  cases x <;> simp [Except.toBool]

theorem isOk_mapError {x : Except ε α} {f : ε → ε'} : (x.mapError f).isOk = x.isOk := by
  cases x <;> rfl

/-- A value that must be there. -/
def ofOption (e : ε) : Option α → Except ε α
  | some a => .ok a
  | none => .error e

theorem ofOption_ok_iff {o : Option α} : ofOption e o = .ok a ↔ o = some a := by
  cases o <;> simp [ofOption]

theorem forM_ok_iff {f : α → Except ε Unit} {u : Unit} :
    as.forM f = .ok u ↔ ∀ a ∈ as, f a = .ok () := by
  induction as with
  | nil => simp [List.forM, pure, Except.pure]
  | cons a as ih =>
    show (f a >>= fun _ => as.forM f) = .ok u ↔ _
    rw [bind_ok_iff, List.forall_mem_cons, ← ih]
    exact ⟨fun ⟨_, h, hs⟩ => ⟨h, hs⟩, fun ⟨h, hs⟩ => ⟨(), h, hs⟩⟩

/-- A loop that collects results succeeds when every turn does. -/
theorem mapM_ok_iff {f : α → Except ε β} :
    ∀ {bs : List β}, as.mapM f = .ok bs ↔ List.Forall₂ (fun a b => f a = .ok b) as bs := by
  induction as with
  | nil =>
    intro bs
    rw [List.mapM_nil, pure_ok_iff, List.forall₂_nil_left_iff]
    exact eq_comm
  | cons a as ih =>
    intro bs
    rw [List.mapM_cons, bind_ok_iff, List.forall₂_cons_left_iff]
    simp only [bind_ok_iff, pure_ok_iff, ih]
    constructor
    · rintro ⟨b, hb, bs', hbs, rfl⟩
      exact ⟨b, bs', hb, hbs, rfl⟩
    · rintro ⟨b, bs', hb, hbs, rfl⟩
      exact ⟨b, hb, bs', hbs, rfl⟩

/-- A search that ends with the first hit or error hits at an element that no error and no
other hit precedes. -/
theorem anyM_eq_ok_true_iff {p : α → Except ε Bool} : as.anyM p = .ok true ↔
      ∃ before a after, as = before ++ a :: after ∧ (∀ x ∈ before, p x = .ok false) ∧
        p a = .ok true := by
  induction as with
  | nil => simp [pure, Except.pure]
  | cons a as ih =>
    rw [List.anyM_cons, bind_ok_iff]
    constructor
    · intro h
      obtain ⟨hit, ha, h⟩ := h
      cases hit with
      | true => exact ⟨[], a, as, rfl, by simp, ha⟩
      | false =>
        obtain ⟨before, b, after, rfl, hbef, hb⟩ := ih.mp h
        exact ⟨a :: before, b, after, rfl, List.forall_mem_cons.mpr ⟨ha, hbef⟩, hb⟩
    · intro h
      obtain ⟨before, b, after, heq, hbef, hb⟩ := h
      cases before with
      | nil =>
        obtain ⟨rfl, -⟩ := List.cons.inj heq
        exact ⟨true, hb, rfl⟩
      | cons x before =>
        obtain ⟨rfl, rfl⟩ := List.cons.inj heq
        obtain ⟨hx, hbef⟩ := List.forall_mem_cons.mp hbef
        exact ⟨false, hx, ih.mpr ⟨before, b, after, rfl, hbef, hb⟩⟩

/-- The element a search has hit. -/
theorem exists_of_anyM_eq_ok_true {p : α → Except ε Bool}
    (h : as.anyM p = .ok true) : ∃ a ∈ as, p a = .ok true := by
  obtain ⟨before, a, after, rfl, -, ha⟩ := anyM_eq_ok_true_iff.mp h
  exact ⟨a, by simp, ha⟩

/-! ### Two computations -/

/-- Both succeed or none does, and what they return is related. -/
def Agree (R : α → β → Prop) (x : Except ε α) (y : Except ε' β) : Prop :=
  ((∃ a, x = .ok a) ↔ ∃ b, y = .ok b) ∧ ∀ a b, x = .ok a → y = .ok b → R a b

section Agree

-- A front end with at most one outcome, shared by two computations that then each make a
-- demand of their own.
variable {κ : Type} {R : α → β → Prop} {x : Except ε α} {y : Except ε' β} {front : κ → Prop}
  {p q : Prop} {f : κ → α} {g : κ → β}

theorem related_of_ok (hx : ∀ a, x = .ok a ↔ ∃ k, front k ∧ p ∧ a = f k)
    (hy : ∀ b, y = .ok b ↔ ∃ k, front k ∧ q ∧ b = g k)
    (huni : ∀ k k', front k → front k' → k = k') (hR : ∀ k, R (f k) (g k)) (a : α) (b : β)
    (ha : x = .ok a) (hb : y = .ok b) : R a b := by
  obtain ⟨k, hk, -, rfl⟩ := (hx a).mp ha
  obtain ⟨k', hk', -, rfl⟩ := (hy b).mp hb
  rw [huni k k' hk hk']
  exact hR k'

/-- The computations agree when the demands are equivalent for what passes the front
end. -/
theorem agree_iff (hx : ∀ a, x = .ok a ↔ ∃ k, front k ∧ p ∧ a = f k)
    (hy : ∀ b, y = .ok b ↔ ∃ k, front k ∧ q ∧ b = g k)
    (huni : ∀ k k', front k → front k' → k = k') (hR : ∀ k, R (f k) (g k)) :
    Agree R x y ↔ ((∃ k, front k) → (p ↔ q)) := by
  have hxok : (∃ a, x = .ok a) ↔ (∃ k, front k) ∧ p := by
    simp only [hx]
    exact ⟨fun ⟨_, k, hk, hp, _⟩ => ⟨⟨k, hk⟩, hp⟩, fun ⟨⟨k, hk⟩, hp⟩ => ⟨f k, k, hk, hp, rfl⟩⟩
  have hyok : (∃ b, y = .ok b) ↔ (∃ k, front k) ∧ q := by
    simp only [hy]
    exact ⟨fun ⟨_, k, hk, hq, _⟩ => ⟨⟨k, hk⟩, hq⟩, fun ⟨⟨k, hk⟩, hq⟩ => ⟨g k, k, hk, hq, rfl⟩⟩
  rw [Agree, and_iff_left (related_of_ok hx hy huni hR), hxok, hyok]
  exact and_congr_right_iff

end Agree

theorem exists_mem_of_mapM_eq_ok {f : α → Except ε β} {bs : List β}
    (h : as.mapM f = .ok bs) (ha : a ∈ as) : ∃ b ∈ bs, f a = .ok b := by
  have hall := mapM_ok_iff.mp h
  have hlen := hall.length_eq
  obtain ⟨i, hi, rfl⟩ := List.getElem_of_mem ha
  exact ⟨bs[i], List.getElem_mem _, (List.forall₂_iff_get.mp hall).2 i hi (by omega)⟩

end SecureBinding.Lib
