import Mathlib.Init

/-!
# Lib.ParseLoop

Readers that are the inverses of writers, and the loop that reads items until the input is
used up.

The loop runs on fuel, so that it can be evaluated. Every step of a parser that makes
`Progress` takes something from the input, and then the length of the input is fuel
enough. For a reader of items that is the inverse of a writer (`Canonical`), the loop is the
inverse of writing the items one after the other: `many_ok_iff`.
-/

namespace SecureBinding.Lib

variable {ε α β : Type}

/-! ### Readers and writers -/

/-- A reader that returns the rest of its input, and a writer, are inverse to each other.
Every value is then written in one way only. -/
structure Inverse (read : List β → Except ε (α × List β)) (write : α → Except ε (List β)) :
    Prop where
  read_write : ∀ {a raw}, write a = .ok raw → ∀ rest, read (raw ++ rest) = .ok (a, rest)
  write_read : ∀ {bs a rest}, read bs = .ok (a, rest) → ∃ raw, write a = .ok raw ∧ bs = raw ++ rest
  unique : ∀ {bs bs' a rest}, read bs = .ok (a, rest) → read bs' = .ok (a, rest) → bs = bs'

/-- The same for a reader that takes the whole of its input and returns it with the
value. -/
structure InverseWhole (read : List β → Except ε (α × List β)) (write : α → Except ε (List β)) :
    Prop where
  read_write : ∀ {a raw}, write a = .ok raw → read raw = .ok (a, raw)
  write_read : ∀ {bs a raw}, read bs = .ok (a, raw) → write a = .ok bs ∧ raw = bs
  unique : ∀ {bs bs' a raw raw'}, read bs = .ok (a, raw) → read bs' = .ok (a, raw') → bs = bs'

section Codec

variable {read : List β → Except ε (α × List β)} {write : α → Except ε (List β)}

theorem Inverse.of_read_iff (h : ∀ {bs a rest},
    read bs = .ok (a, rest) ↔ ∃ raw, write a = .ok raw ∧ bs = raw ++ rest) :
    Inverse read write where
  read_write hraw rest := h.mpr ⟨_, hraw, rfl⟩
  write_read := h.mp
  unique hread hread' := by
    obtain ⟨raw, hraw, rfl⟩ := h.mp hread
    obtain ⟨raw', hraw', rfl⟩ := h.mp hread'
    rw [hraw] at hraw'
    cases hraw'
    rfl

theorem InverseWhole.of_read_iff (h : ∀ {bs a raw},
    read bs = .ok (a, raw) ↔ write a = .ok bs ∧ raw = bs) : InverseWhole read write where
  read_write hraw := h.mpr ⟨hraw, rfl⟩
  write_read := h.mp
  unique hread hread' := by
    have hwr := (h.mp hread).1
    rw [(h.mp hread').1] at hwr
    exact (Except.ok.inj hwr).symm

theorem InverseWhole.write_inj (h : InverseWhole read write) {a a' : α} {raw : List β}
    (ha : write a = .ok raw) (ha' : write a' = .ok raw) : a = a' := by
  have hread := h.read_write ha
  rw [h.read_write ha'] at hread
  cases hread
  rfl

/-- What is written can be told from whatever follows it. -/
theorem Inverse.append_inj (h : Inverse read write) {a a' : α} {raw raw' rest rest' : List β}
    (ha : write a = .ok raw) (ha' : write a' = .ok raw') (heq : raw ++ rest = raw' ++ rest') :
    a = a' ∧ rest = rest' := by
  have hread := h.read_write ha rest
  rw [heq, h.read_write ha' rest'] at hread
  cases hread
  exact ⟨rfl, rfl⟩

end Codec

/-! ### The loop -/

/-- Read items until the input is empty. `stuck` is returned when the fuel is gone. -/
def many (stuck : ε) (item : List β → Except ε (α × List β)) : Nat → List β → Except ε (List α)
  | _, [] => .ok []
  | 0, _ :: _ => .error stuck
  | n + 1, b :: bs =>
    match item (b :: bs) with
    | .error e => .error e
    | .ok (a, rest) =>
      match many stuck item n rest with
      | .error e => .error e
      | .ok as => .ok (a :: as)

/-- Every item takes at least one element of the input. -/
def Progress (item : List β → Except ε (α × List β)) : Prop :=
  ∀ {bs a rest}, item bs = .ok (a, rest) → rest.length < bs.length

/-- The lists that a writer of single items produces: the items one after the other. -/
inductive WrittenAs (write : α → Except ε (List β)) : List α → List β → Prop
  | nil : WrittenAs write [] []
  | cons {a : α} {as : List α} {raw bs : List β} (ha : write a = .ok raw)
      (has : WrittenAs write as bs) : WrittenAs write (a :: as) (raw ++ bs)

/-- A reader takes from the input what the writer makes of the item, which is never
nothing. -/
structure Canonical (item : List β → Except ε (α × List β)) (write : α → Except ε (List β)) :
    Prop where
  read_iff : ∀ {bs a rest}, item bs = .ok (a, rest) ↔ ∃ raw, write a = .ok raw ∧ bs = raw ++ rest
  write_ne_nil : ∀ {a raw}, write a = .ok raw → raw ≠ []

variable {stuck : ε} {item : List β → Except ε (α × List β)} {write : α → Except ε (List β)}

theorem Canonical.progress (h : Canonical item write) : Progress item := by
  intro bs a rest hitem
  obtain ⟨raw, hraw, rfl⟩ := h.read_iff.mp hitem
  have hpos := List.length_pos_iff.mpr (h.write_ne_nil hraw)
  rw [List.length_append]
  omega

/-- The loop reads a list exactly from the bytes that the list is written as, when there is
fuel for every element of the input. -/
theorem many_ok_iff (h : Canonical item write) :
    ∀ {n : Nat} {bs : List β} {as : List α}, bs.length ≤ n →
      (many stuck item n bs = .ok as ↔ WrittenAs write as bs) := by
  intro n
  induction n with
  | zero =>
    intro bs as hn
    obtain rfl : bs = [] := by simpa using hn
    constructor
    · intro hmany
      cases hmany
      exact .nil
    · intro hw
      generalize hbs : ([] : List β) = bs at hw
      cases hw with
      | nil => rfl
      | cons ha _ => simp [h.write_ne_nil ha] at hbs
  | succ n ih =>
    intro bs as hn
    constructor
    · intro hmany
      cases bs with
      | nil =>
        cases hmany
        exact .nil
      | cons b bs =>
        simp only [many] at hmany
        split at hmany
        · cases hmany
        · rename_i a rest hitem
          have hlt := h.progress hitem
          split at hmany
          · cases hmany
          · rename_i as' hrest
            cases hmany
            obtain ⟨raw, hraw, hbs⟩ := h.read_iff.mp hitem
            rw [hbs]
            exact .cons hraw ((ih (by simp only [List.length_cons] at hn hlt; omega)).mp hrest)
    · intro hw
      cases hw with
      | nil => rfl
      | @cons a as raw rest ha has =>
        have hitem : item (raw ++ rest) = .ok (a, rest) := h.read_iff.mpr ⟨raw, ha, rfl⟩
        have hlt := h.progress hitem
        have hrest := (ih (by omega)).mpr has
        -- The bytes of an item are not empty, so the loop does read one.
        cases hraw : raw ++ rest with
        | nil => simp [h.write_ne_nil ha] at hraw
        | cons b bs => rw [hraw] at hitem; simp only [many, hitem, hrest]

end SecureBinding.Lib
