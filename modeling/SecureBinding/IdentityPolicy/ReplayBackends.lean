import SecureBinding.Lib.Lockstep
import SecureBinding.IdentityPolicy.ReplayCacheSound

/-!
# IdentityPolicy.ReplayBackends

The two replay caches side by side: a memory cache and a cache over a store, both new, that
receive the same calls one after the other.

They treat the expiry instant differently. A memory cache lets a use through at the instant
at which it expires, and holds a key until that instant is over; a store has no time to live
left at that instant, and has dropped the key. `backends_agree_iff_not_atExpiry` says that this is the
whole difference, as long as the clock yields real times and the time to live of a key can be
written as a `time.Duration`.
-/

namespace SecureBinding.IdentityPolicy

open Go Lib

/-! ### Calls -/

/-- A call of `MarkUsed`, with the time at which it is made. -/
structure Call where
  now : Time
  key : GoString
  expiresAt : Time

/-- A call of `MarkUsed` on a memory cache: does it succeed, and the cache after it. -/
def MemoryReplayCache.answer (c : MemoryReplayCache) (call : Call) : Bool × MemoryReplayCache :=
  let r := { c with now := call.now }.markUsed call.key call.expiresAt
  (r.1.isNone, r.2)

/-- A call of `MarkUsed` on a cache over a store. -/
def SetNXReplayCache.answer (c : SetNXReplayCache) (call : Call) : Bool × SetNXReplayCache :=
  let r := { c with now := call.now }.markUsed call.key call.expiresAt
  (r.1.isNone, r.2)

/-- `NewSetNXReplayCacheWithClock`, over a store that holds no key. -/
def SetNXReplayCache.new (now : Time) : SetNXReplayCache := ⟨now, some ⟨fun _ => none, false⟩⟩

/-- The clock does not go backwards. -/
def Nondecreasing (start : Time) (calls : List Call) : Prop :=
  (start :: calls.map Call.now).Pairwise (· ≤ ·)

/-- The clock reads a real time, and the time to live of the key is a `time.Duration`. -/
def Representable (call : Call) : Prop :=
  call.now ≠ 0 ∧ call.expiresAt - call.now ≤ maxDuration

/-- The memory cache holds the key. -/
def MemoryReplayCache.Holds (m : MemoryReplayCache) (call : Call) : Prop :=
  (m.seen call.key).any (fun e => call.now ≤ e) = true

/-- The call passes the checks, and is made at the very instant at which the key on record
expires, before its own expiry; or at its own expiry, while no key is held. -/
def AtExpiry (m : MemoryReplayCache) (call : Call) : Prop :=
  checkUse call.key call.expiresAt call.now = none ∧
    ((m.seen call.key = some call.now ∧ call.now < call.expiresAt) ∨
      (¬ m.Holds call ∧ call.expiresAt = call.now))

instance (m : MemoryReplayCache) (call : Call) : Decidable (m.Holds call) :=
  inferInstanceAs (Decidable (_ = true))

instance (m : MemoryReplayCache) (call : Call) : Decidable (AtExpiry m call) :=
  inferInstanceAs (Decidable (_ ∧ _))

/-! ### One call -/

variable {m : MemoryReplayCache} {c : SetNXReplayCache} {call : Call}

theorem sub_pos_iff {t u : Time} : 0 < t.sub u ↔ u < t := by
  simp only [Time.sub, minDuration, maxDuration]
  lia

theorem add_sub_of_le {t u : Time} (hpos : u < t) (h : t - u ≤ maxDuration) : u + t.sub u = t := by
  simp only [Time.sub, minDuration] at h ⊢
  lia

theorem MemoryReplayCache.holds_iff {m : MemoryReplayCache} :
    m.Holds call ↔ ∃ e, m.seen call.key = some e ∧ call.now ≤ e := by
  simp [Holds, Option.any_eq_true]

/-- What the two caches have in common between calls. The store may still remember the
deadline of a key that the memory cache has purged. -/
structure Corresponds (m : MemoryReplayCache) (c : SetNXReplayCache) (store : SetNXStore) :
    Prop where
  store_eq : c.store = some store
  reachable : store.failing = false
  recorded : ∀ k e, m.seen k = some e → store.deadline k = some e ∧ e ≠ 0
  dropped : ∀ k d, store.deadline k = some d → m.seen k = some d ∨ d < m.now

theorem corresponds_new {now : Time} :
    Corresponds (.new now) (.new now) ⟨fun _ => none, false⟩ where
  store_eq := rfl
  reachable := rfl
  recorded k e h := by simp [MemoryReplayCache.new] at h
  dropped k d h := by simp at h

variable {store : SetNXStore}

theorem Corresponds.purge (h : Corresponds m c store) (hnow : m.now ≤ call.now) :
    Corresponds ⟨call.now, MemoryReplayCache.purge call.now m.seen⟩ ⟨call.now, c.store⟩ store where
  store_eq := h.store_eq
  reachable := h.reachable
  recorded k e hk := h.recorded k e (MemoryReplayCache.purge_eq_some_iff.mp hk).1
  dropped k d hk := by
    rcases h.dropped k d hk with hseen | hlt
    · by_cases hexp : MemoryReplayCache.expired call.now d = true
      · exact .inr (MemoryReplayCache.expired_iff.mp hexp).2.2
      · exact .inl (MemoryReplayCache.purge_eq_some_iff.mpr ⟨hseen, by simpa using hexp⟩)
    · exact .inr (lt_of_lt_of_le hlt hnow)

theorem Corresponds.tick (h : Corresponds m c store) (hnow : m.now ≤ call.now) :
    Corresponds ⟨call.now, m.seen⟩ ⟨call.now, c.store⟩ store where
  store_eq := h.store_eq
  reachable := h.reachable
  recorded := h.recorded
  dropped k d hk := (h.dropped k d hk).imp_right fun hlt => lt_of_lt_of_le hlt hnow

/-- The key is not held by the memory cache once it has purged, exactly if it was not held. -/
theorem purge_eq_none_iff_not_holds (h : Corresponds m c store) (hset : call.now ≠ 0) :
    MemoryReplayCache.purge call.now m.seen call.key = none ↔ ¬ m.Holds call := by
  rw [MemoryReplayCache.purge_eq_none_iff, MemoryReplayCache.holds_iff]
  constructor
  · rintro hall ⟨e, he, hle⟩
    exact absurd (MemoryReplayCache.expired_iff.mp (hall e he)).2.2 (not_lt.mpr hle)
  · intro hnot e he
    have hlt : e < call.now := by
      by_contra hle
      exact hnot ⟨e, he, not_lt.mp hle⟩
    exact MemoryReplayCache.expired_iff.mpr ⟨(h.recorded _ e he).2, hset, hlt⟩

/-- The store holds the key exactly if the memory cache does and its expiry is not now. -/
theorem deadline_le_iff (h : Corresponds m c store) (hnow : m.now ≤ call.now) :
    (∀ d, store.deadline call.key = some d → d ≤ call.now) ↔
      (m.Holds call → m.seen call.key = some call.now) := by
  rw [MemoryReplayCache.holds_iff]
  constructor
  · rintro hall ⟨e, he, hle⟩
    have hd := hall e (h.recorded _ e he).1
    rw [he, le_antisymm hd hle]
  · intro himp d hd
    rcases h.dropped _ d hd with hseen | hlt
    · by_contra hgt
      have := himp ⟨d, hseen, (not_le.mp hgt).le⟩
      rw [hseen, Option.some.injEq] at this
      exact hgt this.le
    · exact (lt_of_lt_of_le hlt hnow).le

/-! ### Answers -/

theorem MemoryReplayCache.answer_eq_true_iff :
    (m.answer call).1 = true ↔ checkUse call.key call.expiresAt call.now = none ∧
      MemoryReplayCache.purge call.now m.seen call.key = none := by
  simp only [answer, MemoryReplayCache.markUsed_fst]
  cases checkUse call.key call.expiresAt call.now with
  | some err => simp
  | none => simp

theorem SetNXReplayCache.answer_eq_true_iff (h : Corresponds m c store) :
    (c.answer call).1 = true ↔ checkUse call.key call.expiresAt call.now = none ∧
      call.now < call.expiresAt ∧ ∀ d, store.deadline call.key = some d → d ≤ call.now := by
  rcases SetNXReplayCache.markUsed_cases ⟨call.now, c.store⟩ call.key call.expiresAt with
    ⟨err, hm⟩ | ⟨store', hs, _, hchk, httl, hd, hm⟩
  · simp only [answer, hm, Option.isNone_some, Bool.false_eq_true, false_iff]
    rintro ⟨hchk, hlt, hd⟩
    have := SetNXReplayCache.markUsed_eq_none (c := ⟨call.now, c.store⟩) h.store_eq h.reachable
      hchk (sub_pos_iff.mpr hlt) hd
    rw [hm] at this
    cases this
  · obtain rfl : store = store' := by simpa [h.store_eq] using hs
    simp only [answer, hm, Option.isNone_none, true_iff]
    exact ⟨hchk, sub_pos_iff.mp httl, hd⟩

/-- The caches answer a call differently exactly at an expiry instant. -/
theorem answer_eq_iff (h : Corresponds m c store) (hnow : m.now ≤ call.now)
    (hset : call.now ≠ 0) : (m.answer call).1 = (c.answer call).1 ↔ ¬ AtExpiry m call := by
  rw [Bool.eq_iff_iff, MemoryReplayCache.answer_eq_true_iff,
    SetNXReplayCache.answer_eq_true_iff h, purge_eq_none_iff_not_holds h hset,
    deadline_le_iff h hnow, AtExpiry]
  have hheld : m.seen call.key = some call.now → m.Holds call := fun hs =>
    MemoryReplayCache.holds_iff.mpr ⟨_, hs, le_refl _⟩
  by_cases hchk : checkUse call.key call.expiresAt call.now = none
  · have hle := (checkUse_eq_none_iff.mp hchk).2.2 hset
    rcases eq_or_lt_of_le hle with heq | hlt
    · simp [heq]
    · have hne : call.expiresAt ≠ call.now := (ne_of_lt hlt).symm
      tauto
  · simp [hchk]

theorem Corresponds.record (h : Corresponds m c store) (hnow : m.now ≤ call.now)
    (hset : call.expiresAt ≠ 0) (hd : call.now + call.expiresAt.sub call.now = call.expiresAt) :
    Corresponds
      ⟨call.now, Function.update (MemoryReplayCache.purge call.now m.seen) call.key
        (some call.expiresAt)⟩
      ⟨call.now, some { store with
        deadline := Function.update store.deadline call.key
          (some (call.now + call.expiresAt.sub call.now)) }⟩
      { store with
        deadline := Function.update store.deadline call.key
          (some (call.now + call.expiresAt.sub call.now)) } where
  store_eq := rfl
  reachable := h.reachable
  recorded k e hk := by
    by_cases hkey : k = call.key
    · subst hkey
      simp only [Function.update_self, Option.some.injEq] at hk ⊢
      rw [← hk]
      exact ⟨hd, hset⟩
    · simp only [Function.update_of_ne hkey] at hk ⊢
      exact (h.purge hnow).recorded k e hk
  dropped k d hk := by
    by_cases hkey : k = call.key
    · subst hkey
      simp only [Function.update_self] at hk ⊢
      exact .inl (by rw [← hk, hd])
    · simp only [Function.update_of_ne hkey] at hk ⊢
      exact (h.purge hnow).dropped k d hk

/-- Caches that answer a call alike correspond after it as well. -/
theorem corresponds_answer (h : Corresponds m c store) (hnow : m.now ≤ call.now)
    (hrep : Representable call) (hagr : (m.answer call).1 = (c.answer call).1) :
    ∃ store', Corresponds (m.answer call).2 (c.answer call).2 store' := by
  rcases SetNXReplayCache.markUsed_cases ⟨call.now, c.store⟩ call.key call.expiresAt with
    ⟨err, hc⟩ | ⟨store', hs, _, _, httl, _, hc⟩
  · -- The store refuses, so the memory cache has not recorded the key either.
    rcases MemoryReplayCache.markUsed_cases ⟨call.now, m.seen⟩ call.key call.expiresAt with
      ⟨_, _, hm⟩ | ⟨_, _, hm⟩ | ⟨_, _, hm⟩
    · simp only [MemoryReplayCache.answer, SetNXReplayCache.answer, hm, hc]
      exact ⟨store, h.tick hnow⟩
    · simp only [MemoryReplayCache.answer, SetNXReplayCache.answer, hm, hc]
      exact ⟨store, h.purge hnow⟩
    · simp [MemoryReplayCache.answer, SetNXReplayCache.answer, hm, hc] at hagr
  · obtain rfl : store = store' := by simpa [h.store_eq] using hs
    rcases MemoryReplayCache.markUsed_cases ⟨call.now, m.seen⟩ call.key call.expiresAt with
      ⟨_, _, hm⟩ | ⟨_, _, hm⟩ | ⟨hchk, _, hm⟩
    · simp [MemoryReplayCache.answer, SetNXReplayCache.answer, hm, hc] at hagr
    · simp [MemoryReplayCache.answer, SetNXReplayCache.answer, hm, hc] at hagr
    · have hd := add_sub_of_le (sub_pos_iff.mp httl) hrep.2
      simp only [MemoryReplayCache.answer, SetNXReplayCache.answer, hm, hc]
      exact ⟨_, h.record hnow (checkUse_eq_none_iff.mp hchk).2.1 hd⟩

/-! ### Whole runs -/

theorem MemoryReplayCache.answer_now : (m.answer call).2.now = call.now :=
  MemoryReplayCache.markUsed_now

/-- A clock that does not go backwards is never behind the cache. -/
theorem along_of_nondecreasing {calls : List Call} :
    ∀ {m : MemoryReplayCache}, Nondecreasing m.now calls → (∀ call ∈ calls, Representable call) →
      Along MemoryReplayCache.answer (fun m call => m.now ≤ call.now ∧ Representable call) m
        calls := by
  induction calls with
  | nil =>
    intro m _ _
    trivial
  | cons call calls ih =>
    intro m hclk hrep
    simp only [Nondecreasing, List.map_cons, List.pairwise_cons] at hclk
    refine ⟨⟨hclk.1 _ (by simp), hrep call (by simp)⟩, ih ?_ fun c hc => hrep c (by simp [hc])⟩
    rw [MemoryReplayCache.answer_now]
    exact List.pairwise_cons.mpr hclk.2

/-- **The two backends implement one specification, except at an expiry instant.** On calls
with a clock that does not go backwards, the caches succeed on the same calls exactly if no
call is made at an expiry instant. -/
theorem backends_agree_iff_not_atExpiry (start : Time) (calls : List Call)
    (hclock : Nondecreasing start calls) (hrep : ∀ call ∈ calls, Representable call) :
    outputs MemoryReplayCache.answer (.new start) calls
        = outputs SetNXReplayCache.answer (.new start) calls ↔
      Along MemoryReplayCache.answer (fun m call => ¬ AtExpiry m call) (.new start) calls := by
  refine outputs_eq_iff_along (fun m c => ∃ store, Corresponds m c store) ?_ ?_
    ⟨_, corresponds_new⟩ (along_of_nondecreasing hclock hrep)
  · rintro m c call ⟨store, h⟩ ⟨hnow, hset, -⟩
    exact answer_eq_iff h hnow hset
  · rintro m c call ⟨store, h⟩ ⟨hnow, hrep⟩ hcond
    exact corresponds_answer h hnow hrep ((answer_eq_iff h hnow hrep.1).mpr hcond)

/-- A nonce that is used, found used, and used again once it has expired. -/
def sampleCalls : List Call :=
  [⟨1, lit "n", 10⟩, ⟨9, lit "n", 20⟩, ⟨11, lit "n", 20⟩, ⟨21, lit "m", 20⟩]

theorem backends_agree_on_sample :
    Nondecreasing 1 sampleCalls ∧ (∀ call ∈ sampleCalls, Representable call) ∧
    outputs MemoryReplayCache.answer (.new 1) sampleCalls
      = outputs SetNXReplayCache.answer (.new 1) sampleCalls := by
  have hclk : Nondecreasing 1 sampleCalls := by
    simp [Nondecreasing, sampleCalls]
  have hrep : ∀ call ∈ sampleCalls, Representable call := by
    simp [sampleCalls, Representable, maxDuration]
  exact ⟨hclk, hrep, (backends_agree_iff_not_atExpiry 1 sampleCalls hclk hrep).mpr (by decide)⟩

/-- At the expiry instant: a use that expires now is let through by the memory cache alone;
and a nonce on record until now may be used again with the store alone. -/
theorem backends_differ_at_expiry :
    outputs MemoryReplayCache.answer (.new 1) [⟨10, lit "n", 10⟩] = [true] ∧
    outputs SetNXReplayCache.answer (.new 1) [⟨10, lit "n", 10⟩] = [false] ∧
    outputs MemoryReplayCache.answer (.new 1) [⟨1, lit "n", 10⟩, ⟨10, lit "n", 20⟩]
      = [true, false] ∧
    outputs SetNXReplayCache.answer (.new 1) [⟨1, lit "n", 10⟩, ⟨10, lit "n", 20⟩]
      = [true, true] := by
  decide

end SecureBinding.IdentityPolicy
