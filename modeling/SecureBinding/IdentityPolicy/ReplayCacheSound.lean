import SecureBinding.IdentityPolicy.SessionBindingSound
import SecureBinding.IdentityPolicy.ReplayCache
import SecureBinding.Lib.Once
import Mathlib.Tactic.Linarith

/-!
# IdentityPolicy.ReplayCacheSound

What the replay caches guarantee over time.

For the memory cache: a failed `MarkUsed` changes no key that has not expired
(`unexpired_markUsed_of_error`), and a successful one records a key that was
absent or expired. For both: once `MarkUsed(key, E)` has succeeded, `Committed`
holds of the cache at every later time, and in such a state `MarkUsed(key, E)`
fails. Whether the success commits anything is `Durable`, a condition on the cache
before the call; without it the same call may succeed again
(`exists_markUsed_again`).
-/

namespace SecureBinding.IdentityPolicy

open Go

variable {key k : GoString} {expiresAt now e : Time}

/-! ### The checks -/

theorem checkUse_eq_none_iff :
    checkUse key expiresAt now = none ↔
      isBlank key = false ∧ expiresAt ≠ 0 ∧ (now ≠ 0 → now ≤ expiresAt) := by
  unfold checkUse
  rw [ite_some_eq_none_iff, ite_some_eq_none_iff, ite_some_eq_none_iff]
  simp

namespace MemoryReplayCache

variable {c c' : MemoryReplayCache} {seen : GoString → Option Time}

theorem expired_iff : expired now e = true ↔ e ≠ 0 ∧ now ≠ 0 ∧ e < now := by
  simp [expired, and_assoc]

theorem expired_eq_false_iff : expired now e = false ↔ (e ≠ 0 → now ≠ 0 → now ≤ e) := by
  rw [← Bool.not_eq_true, expired_iff]
  simp

/-- A call that passed its checks does not purge its own key. -/
theorem expired_eq_false_of_checkUse (h : checkUse key e now = none) : expired now e = false :=
  expired_eq_false_iff.mpr fun _ => (checkUse_eq_none_iff.mp h).2.2

/-- The map is a record whose entries live until they expire. -/
theorem commit_eq (key : GoString) (expiresAt now : Time) (seen : GoString → Option Time) :
    commit key expiresAt now seen =
      (if (Lib.insertNew (fun e => !expired now e) key expiresAt seen).1 then none
        else some (.sentinel .replayDetected),
      (Lib.insertNew (fun e => !expired now e) key expiresAt seen).2) := by
  unfold commit Lib.insertNew
  show (if (Lib.sweep (fun e => !expired now e) seen key).isSome then _ else _) = _
  split <;> rfl

theorem purge_eq_some_iff :
    purge now seen k = some e ↔ seen k = some e ∧ expired now e = false := by
  simp [purge]

theorem purge_eq_none_iff :
    purge now seen k = none ↔ ∀ e, seen k = some e → expired now e = true := by
  simp [purge]

/-- What the critical section does: it purges, and then either finds the key or
records it. -/
theorem commit_cases (key : GoString) (expiresAt now : Time) (seen : GoString → Option Time) :
    (∃ e, purge now seen key = some e ∧
      commit key expiresAt now seen = (some (.sentinel .replayDetected), purge now seen)) ∨
    (purge now seen key = none ∧ commit key expiresAt now seen =
        (none, Function.update (purge now seen) key (some expiresAt))) := by
  rw [commit_eq]
  obtain ⟨e, he, h⟩ | ⟨hnone, h⟩ := Lib.insertNew_cases (fun e => !expired now e) key expiresAt seen
  · rw [h]
    exact .inl ⟨e, he, rfl⟩
  · rw [h]
    exact .inr ⟨hnone, rfl⟩

/-- A key that has not expired is refused, -/
theorem commit_refuses (h : seen key = some e) (hlive : expired now e = false) :
    (commit key expiresAt now seen).1 = some (.sentinel .replayDetected) := by
  have hnew : (Lib.insertNew (fun e => !expired now e) key expiresAt seen).1 = false :=
    Lib.insertNew_refuses h (by simp [hlive])
  rw [commit_eq, hnew]
  rfl

/-- and stays on record. -/
theorem commit_keeps (h : seen k = some e) (hlive : expired now e = false) :
    (commit key expiresAt now seen).2 k = some e := by
  rw [commit_eq]
  exact Lib.insertNew_keeps h (by simp [hlive])

theorem commit_records (h : (commit key expiresAt now seen).1 = none) :
    (commit key expiresAt now seen).2 key = some expiresAt := by
  rw [commit_eq] at h ⊢
  exact Lib.insertNew_records (by simpa using h)

/-- What `MarkUsed` does: it fails its checks and changes nothing, finds the key
and only purges, or records the key. -/
theorem markUsed_cases (c : MemoryReplayCache) (key : GoString) (expiresAt : Time) :
    (∃ err, checkUse key expiresAt c.now = some err ∧ c.markUsed key expiresAt = (some err, c)) ∨
    (checkUse key expiresAt c.now = none ∧ (∃ e, purge c.now c.seen key = some e) ∧
      c.markUsed key expiresAt =
        (some (.sentinel .replayDetected), { c with seen := purge c.now c.seen })) ∨
    (checkUse key expiresAt c.now = none ∧ purge c.now c.seen key = none ∧
      c.markUsed key expiresAt =
        (none, { c with seen := Function.update (purge c.now c.seen) key (some expiresAt) })) := by
  unfold markUsed
  cases hchk : checkUse key expiresAt c.now with
  | some err => exact .inl ⟨err, rfl, rfl⟩
  | none =>
    rcases commit_cases key expiresAt c.now c.seen with ⟨e, he, hc⟩ | ⟨hnone, hc⟩
    · exact .inr (.inl ⟨rfl, ⟨e, he⟩, by rw [hc]⟩)
    · exact .inr (.inr ⟨rfl, hnone, by rw [hc]⟩)

/-- `MarkUsed` succeeds exactly when its checks pass and the key is absent or
expired; it then records the key. -/
theorem markUsed_eq_none_iff :
    c.markUsed key expiresAt = (none, c') ↔
      checkUse key expiresAt c.now = none ∧ purge c.now c.seen key = none ∧
        c' = { c with seen := Function.update (purge c.now c.seen) key (some expiresAt) } := by
  rcases markUsed_cases c key expiresAt with ⟨err, hk, h⟩ | ⟨hk, ⟨e, he⟩, h⟩ | ⟨hk, hp, h⟩
  · simp [h, hk]
  · simp [h, he]
  · rw [h]
    simp [hk, hp, eq_comm]

theorem seen_of_markUsed (h : c.markUsed key expiresAt = (none, c')) :
    c'.seen key = some expiresAt := by
  obtain ⟨-, -, rfl⟩ := markUsed_eq_none_iff.mp h
  exact Function.update_self ..

theorem markUsed_now : (c.markUsed key expiresAt).2.now = c.now := by
  rcases markUsed_cases c key expiresAt with ⟨_, _, h⟩ | ⟨_, _, h⟩ | ⟨_, _, h⟩ <;> rw [h]

/-- The key is in the cache, with expiry `e`, and has not expired. -/
def Unexpired (c : MemoryReplayCache) (key : GoString) (e : Time) : Prop :=
  c.seen key = some e ∧ expired c.now e = false

/-- A failed call leaves the unexpired keys as they are. -/
theorem unexpired_markUsed_of_error {err : Error} (h : (c.markUsed key expiresAt).1 = some err) :
    (c.markUsed key expiresAt).2.Unexpired k e ↔ c.Unexpired k e := by
  rcases markUsed_cases c key expiresAt with ⟨_, _, hm⟩ | ⟨_, _, hm⟩ | ⟨_, _, hm⟩
  · rw [hm]
  · rw [hm]
    simp [Unexpired, purge_eq_some_iff]
  · rw [hm] at h
    cases h

theorem seen_markUsed_of_error {err : Error} (h : (c.markUsed key expiresAt).1 = some err)
    (hk : c.seen k = none) : (c.markUsed key expiresAt).2.seen k = none := by
  rcases markUsed_cases c key expiresAt with ⟨_, _, hm⟩ | ⟨_, _, hm⟩ | ⟨_, _, hm⟩
  · rw [hm]
    exact hk
  · rw [hm]
    simp [purge, hk]
  · rw [hm] at h
    cases h

/-- A call that passes its checks purges, as far as other keys are concerned. -/
theorem seen_markUsed_of_ne (hne : k ≠ key) (hchk : checkUse key expiresAt c.now = none) :
    (c.markUsed key expiresAt).2.seen k = purge c.now c.seen k := by
  rcases markUsed_cases c key expiresAt with ⟨_, hk, _⟩ | ⟨_, _, hm⟩ | ⟨_, _, hm⟩
  · simp [hchk] at hk
  · rw [hm]
  · rw [hm]
    exact Function.update_of_ne hne ..

/-- The verdict of a call: its checks, and then whether an unexpired key is found. -/
theorem markUsed_fst :
    (c.markUsed key expiresAt).1 = (checkUse key expiresAt c.now).or
        ((purge c.now c.seen key).map fun _ => .sentinel .replayDetected) := by
  rcases markUsed_cases c key expiresAt with ⟨_, hk, hm⟩ | ⟨hk, ⟨e, he⟩, hm⟩ | ⟨hk, hp, hm⟩
  · simp [hm, hk]
  · simp [hm, hk, he]
  · simp [hm, hk, hp]

/-- So the verdict depends on the cache only through the unexpired keys. -/
theorem markUsed_fst_congr (hnow : c.now = c'.now)
    (h : ∀ e, c.Unexpired key e ↔ c'.Unexpired key e) :
    (c.markUsed key expiresAt).1 = (c'.markUsed key expiresAt).1 := by
  have hp : purge c.now c.seen key = purge c'.now c'.seen key := by
    apply Option.ext
    intro e
    rw [purge_eq_some_iff, purge_eq_some_iff]
    exact h e
  rw [markUsed_fst, markUsed_fst, hp, hnow]

/-- A key that is marked makes no difference to another one. -/
theorem markUsed_fst_of_ne (hne : k ≠ key) :
    ((c.markUsed key expiresAt).2.markUsed k e).1 = (c.markUsed k e).1 := by
  refine markUsed_fst_congr markUsed_now fun e => ?_
  unfold Unexpired
  rcases markUsed_cases c key expiresAt with ⟨_, _, hm⟩ | ⟨_, _, hm⟩ | ⟨_, _, hm⟩
  · rw [hm]
  · rw [hm]
    simp [purge_eq_some_iff]
  · rw [hm]
    simp [Function.update_of_ne hne, purge_eq_some_iff]

end MemoryReplayCache

/-! ### The distributed cache -/

/-- `SetNX` fails or finds the key and changes nothing, or sets a key that is not
held. -/
theorem SetNXStore.setNX_cases (s : SetNXStore) (now : Time) (key : GoString) (ttl : Duration) :
    s.setNX now key ttl = (.error (), s) ∨ s.setNX now key ttl = (.ok false, s) ∨
    (s.failing = false ∧ (∀ d, s.deadline key = some d → d ≤ now) ∧ s.setNX now key ttl =
        (.ok true, { s with deadline := Function.update s.deadline key (some (now + ttl)) })) := by
  unfold setNX
  by_cases hfail : s.failing = true
  · exact .inl (by simp [hfail])
  · rw [if_neg hfail]
    split
    · exact .inr (.inl rfl)
    · rename_i hheld
      refine .inr (.inr ⟨by simpa using hfail, fun d hd => ?_, rfl⟩)
      simpa [hd] using hheld

namespace SetNXReplayCache

variable {c c' : SetNXReplayCache}

/-- What `MarkUsed` does: it fails and changes nothing, or sets a key that is not
held in the store. -/
theorem markUsed_cases (c : SetNXReplayCache) (key : GoString) (expiresAt : Time) :
    (∃ err, c.markUsed key expiresAt = (some err, c)) ∨
    ∃ store, c.store = some store ∧ store.failing = false ∧
      checkUse key expiresAt c.now = none ∧ 0 < expiresAt.sub c.now ∧
      (∀ d, store.deadline key = some d → d ≤ c.now) ∧
      c.markUsed key expiresAt =
        (none, { c with store := some { store with
          deadline := Function.update store.deadline key
            (some (c.now + expiresAt.sub c.now)) } }) := by
  rcases c with ⟨now, _ | store⟩
  · exact .inl ⟨_, rfl⟩
  · simp only [markUsed]
    split
    · exact .inl ⟨_, rfl⟩
    · rename_i hchk
      by_cases httl : expiresAt.sub now ≤ 0
      · exact .inl ⟨_, if_pos httl⟩
      · rw [if_neg httl]
        rcases store.setNX_cases now key (expiresAt.sub now) with h | h | ⟨hf, hd, h⟩
        · exact .inl ⟨_, by rw [h]⟩
        · exact .inl ⟨_, by rw [h]⟩
        · exact .inr ⟨store, rfl, hf, hchk, not_le.mp httl, hd, by rw [h]⟩

/-- A key that is set makes no difference to another one. -/
theorem markUsed_fst_of_ne (hne : k ≠ key) :
    ((c.markUsed key expiresAt).2.markUsed k e).1 = (c.markUsed k e).1 := by
  rcases markUsed_cases c key expiresAt with ⟨_, h⟩ | ⟨store, hsto, _, _, _, _, h⟩
  · rw [h]
  · rw [h]
    simp only [markUsed, SetNXStore.setNX]
    grind

/-- A reachable store, a live expiry and a key that is not held are enough. -/
theorem markUsed_eq_none {store : SetNXStore} (hsto : c.store = some store)
    (hfail : store.failing = false) (hchk : checkUse key expiresAt c.now = none)
    (httl : 0 < expiresAt.sub c.now) (hheld : ∀ d, store.deadline key = some d → d ≤ c.now) :
    (c.markUsed key expiresAt).1 = none := by
  rcases c with ⟨now, _ | store⟩
  · cases hsto
  · obtain rfl : store = _ := Option.some.inj hsto
    have hany : ¬((store.deadline key).any fun d => now < d) = true := by
      cases hd : store.deadline key with
      | none => simp
      | some d => simpa using hheld d hd
    simp only [markUsed, hchk, if_neg (not_le.mpr httl), SetNXStore.setNX, hfail, hany]
    rfl

end SetNXReplayCache

/-! ### One-shot use over time -/

namespace CacheValue

variable {v v' : CacheValue} {a : Action}

theorem markUsed_memory_eq_none_iff {c : MemoryReplayCache} :
    (memory (some c)).markUsed key expiresAt = (none, v) ↔
      ∃ c', c.markUsed key expiresAt = (none, c') ∧ v = memory (some c') := by
  simp only [markUsed]
  rcases c.markUsed key expiresAt with ⟨err, c'⟩
  simp [@eq_comm _ v]

/-- What a cache says of one key does not depend on whether another one is marked
before. -/
theorem markUsed_fst_of_ne (hne : k ≠ key) (v : CacheValue) (expiresAt e : Time) :
    ((v.markUsed key expiresAt).2.markUsed k e).1 = (v.markUsed k e).1 := by
  match v with
  | memory none => rfl
  | memory (some c) => exact MemoryReplayCache.markUsed_fst_of_ne hne
  | setNX none => rfl
  | setNX (some c) => exact SetNXReplayCache.markUsed_fst_of_ne hne

/-- The use of `key` until `expiresAt` is on record, or its time is over for good.
A zero reading switches the expiry check of the memory cache off, so there the time
is over only once the clock is past zero as well. -/
def Committed (key : GoString) (expiresAt : Time) : CacheValue → Prop
  | memory none => False
  | memory (some c) =>
    (c.seen key = some expiresAt ∧ (0 ≤ c.now ∨ -1 ≤ expiresAt)) ∨ (0 < c.now ∧ expiresAt < c.now)
  | setNX none => False
  | setNX (some c) =>
    ∃ store, c.store = some store ∧
      (expiresAt ≤ c.now ∨ ∃ d, store.deadline key = some d ∧ expiresAt ≤ d)

/-- A success is recorded for as long as it matters. There must be a cache; the
clock of a memory cache must not stand before the zero time while the expiry does
too; and the time to live of a store's key must fit a `time.Duration`. -/
def Durable (expiresAt : Time) : CacheValue → Prop
  | memory none => False
  | memory (some c) => 0 ≤ c.now ∨ -1 ≤ expiresAt
  | setNX none => False
  | setNX (some c) => expiresAt - c.now ≤ maxDuration

theorem committed_of_markUsed (hdur : v.Durable expiresAt)
    (h : v.markUsed key expiresAt = (none, v')) : v'.Committed key expiresAt := by
  rcases v with (_ | c) | (_ | c)
  · exact hdur.elim
  · simp only [markUsed, Prod.mk.injEq] at h
    obtain ⟨h, rfl⟩ := h
    rcases c.markUsed_cases key expiresAt with ⟨_, _, hm⟩ | ⟨_, _, hm⟩ | ⟨_, _, hm⟩
    · simp [hm] at h
    · simp [hm] at h
    · exact .inl ⟨by simp [hm], by rw [hm]; exact hdur⟩
  · exact hdur.elim
  · simp only [markUsed, Prod.mk.injEq] at h
    obtain ⟨h, rfl⟩ := h
    rcases c.markUsed_cases key expiresAt with ⟨_, hm⟩ | ⟨store, _, _, _, httl, _, hm⟩
    · simp [hm] at h
    · refine ⟨_, by rw [hm], .inr ⟨_, Function.update_self .., ?_⟩⟩
      simp only [Durable] at hdur
      simp only [Time.sub] at httl ⊢
      lia

/-- On a committed key `MarkUsed` fails. -/
theorem markUsed_of_committed (h : v.Committed key expiresAt) :
    ∃ err, (v.markUsed key expiresAt).1 = some err := by
  rcases v with (_ | c) | (_ | c)
  · exact h.elim
  · rcases c.markUsed_cases key expiresAt with ⟨err, _, hm⟩ | ⟨_, _, hm⟩ | ⟨hchk, hp, hm⟩
    · exact ⟨err, by simp [markUsed, hm]⟩
    · exact ⟨_, by simp only [markUsed, hm]; rfl⟩
    · -- The key would be absent and live, neither of which the invariant allows.
      rcases h with ⟨hseen, -⟩ | ⟨hpos, hlt⟩
      · have := MemoryReplayCache.purge_eq_none_iff.mp hp _ hseen
        simp [MemoryReplayCache.expired_eq_false_of_checkUse hchk] at this
      · have := (checkUse_eq_none_iff.mp hchk).2.2 (by lia)
        lia
  · exact h.elim
  · rcases c.markUsed_cases key expiresAt with ⟨err, hm⟩ | ⟨store, hs, _, hchk, httl, hd, hm⟩
    · exact ⟨err, by simp [markUsed, hm]⟩
    · exfalso
      obtain ⟨store', hs', h⟩ := h
      obtain rfl : store = store' := by simpa [hs] using hs'
      have hle : expiresAt ≤ c.now := by
        rcases h with h | ⟨d, hkey, hle⟩
        · exact h
        · exact le_trans hle (hd d hkey)
      simp only [Time.sub, minDuration] at httl
      lia

theorem markUsed_memory_committed {c : MemoryReplayCache}
    (h : (memory (some c)).Committed key expiresAt) (k : GoString) (e : Time) :
    (memory (some (c.markUsed k e).2)).Committed key expiresAt := by
  rcases h with ⟨hseen, hzero⟩ | hover
  · by_cases hexp : MemoryReplayCache.expired c.now expiresAt = true
    · -- The key may be purged now, and only now: its time is over.
      obtain ⟨hne, hnow, hlt⟩ := MemoryReplayCache.expired_iff.mp hexp
      refine .inr ?_
      rw [MemoryReplayCache.markUsed_now]
      lia
    · have hkeep : MemoryReplayCache.purge c.now c.seen key = some expiresAt :=
        MemoryReplayCache.purge_eq_some_iff.mpr ⟨hseen, by simpa using hexp⟩
      refine .inl ⟨?_, by simpa [MemoryReplayCache.markUsed_now] using hzero⟩
      rcases c.markUsed_cases k e with ⟨_, _, hm⟩ | ⟨_, _, hm⟩ | ⟨_, hp, hm⟩
      · rw [hm]; exact hseen
      · rw [hm]; exact hkeep
      · rw [hm]
        have hne : key ≠ k := by
          rintro rfl
          simp [hkeep] at hp
        simpa [Function.update_of_ne hne] using hkeep
  · exact .inr (by rw [MemoryReplayCache.markUsed_now]; exact hover)

theorem markUsed_setNX_committed {c : SetNXReplayCache}
    (h : (setNX (some c)).Committed key expiresAt) (k : GoString) (e : Time) :
    (setNX (some (c.markUsed k e).2)).Committed key expiresAt := by
  rcases c.markUsed_cases k e with ⟨_, hm⟩ | ⟨store, hs, _, _, _, hheld, hm⟩
  · rw [hm]; exact h
  · obtain ⟨store', hs', h⟩ := h
    obtain rfl : store = store' := by simpa [hs] using hs'
    rw [hm]
    refine ⟨_, rfl, ?_⟩
    rcases h with h | ⟨d, hd, hle⟩
    · exact .inl h
    · by_cases hk : key = k
      · -- The store sets a key again only after its deadline.
        subst hk
        exact .inl (le_trans hle (hheld d hd))
      · exact .inr ⟨d, by simpa [Function.update_of_ne hk] using hd, hle⟩

/-- Nothing that happens to a cache undoes a commitment. -/
theorem committed_step (h : v.Committed key expiresAt) (hstep : step v a = some v') :
    v'.Committed key expiresAt := by
  rcases v with (_ | c) | (_ | c)
  · exact h.elim
  · cases a with
    | tick now =>
      simp only [step, Lib.enabled_iff] at hstep
      obtain ⟨hle, rfl⟩ := hstep
      rcases h with ⟨hseen, hzero⟩ | h
      · exact .inl ⟨hseen, by lia⟩
      · exact .inr (by lia)
    | mark k e =>
      obtain rfl : _ = v' := by simpa [step] using hstep
      exact markUsed_memory_committed h k e
    | fault b =>
      obtain rfl : _ = v' := by simpa [step] using hstep
      exact h
  · exact h.elim
  · cases a with
    | tick now =>
      simp only [step, Lib.enabled_iff] at hstep
      obtain ⟨hle, rfl⟩ := hstep
      obtain ⟨store, hs, h⟩ := h
      exact ⟨store, hs, h.imp_left fun h => le_trans h hle⟩
    | mark k e =>
      obtain rfl : _ = v' := by simpa [step] using hstep
      exact markUsed_setNX_committed h k e
    | fault b =>
      obtain rfl : _ = v' := by simpa [step] using hstep
      obtain ⟨store, hs, h⟩ := h
      exact ⟨{ store with failing := b }, by simp [hs], h⟩

theorem committed_of_later (h : v.Committed key expiresAt) (hlat : v.Later v') :
    v'.Committed key expiresAt :=
  Lib.invariant_of_reaches committed_step h hlat

/-- A memory cache whose clock and key lie before the zero time: another call at
time `-1` purges the key, and at time `0` its expiry is not checked. -/
theorem exists_markUsed_again_memory {c c' : MemoryReplayCache} (hnow : c.now < 0)
    (hexp : expiresAt < -1) (h : c.markUsed key expiresAt = (none, c')) :
    ∃ v, (memory (some c')).Later v ∧ (v.markUsed key expiresAt).1 = none := by
  obtain ⟨hchk, -, rfl⟩ := MemoryReplayCache.markUsed_eq_none_iff.mp h
  obtain ⟨hbl, hset, -⟩ := checkUse_eq_none_iff.mp hchk
  obtain ⟨other, hoth, hne⟩ : ∃ other, isBlank other = false ∧ key ≠ other := by
    by_cases hx : key = lit "x"
    · exact ⟨lit "y", by decide, by rw [hx]; decide⟩
    · exact ⟨lit "x", by decide, hx⟩
  have hgone : MemoryReplayCache.expired (-1) expiresAt = true :=
    MemoryReplayCache.expired_iff.mpr ⟨hset, by decide, hexp⟩
  -- The clock passes -1, where a use of another key purges this one, and stops at the zero time.
  have hpurged : ∀ seen : GoString → Option Time, seen key = some expiresAt →
      ((⟨-1, seen⟩ : MemoryReplayCache).markUsed other 1).2.seen key = none := by
    intro seen hseen
    rw [MemoryReplayCache.seen_markUsed_of_ne hne
      (checkUse_eq_none_iff.mpr ⟨hoth, by dsimp only; decide⟩)]
    simp [MemoryReplayCache.purge, hseen, hgone]
  refine ⟨_, Lib.Reaches.head (a := .tick (-1)) (if_pos (by dsimp only; lia)) <|
    Lib.Reaches.head (a := .mark other 1) rfl <|
    Lib.Reaches.head (a := .tick 0) (if_pos ?_) .refl, ?_⟩
  · rw [MemoryReplayCache.markUsed_now]
    dsimp only
    decide
  · have hchk : checkUse key expiresAt 0 = none :=
      checkUse_eq_none_iff.mpr ⟨hbl, hset, fun h => absurd rfl h⟩
    simp [markUsed, MemoryReplayCache.markUsed_fst, hchk, MemoryReplayCache.purge, hpurged]

/-- A store whose time to live saturates drops the key while its expiry is still
ahead. -/
theorem exists_markUsed_again_setNX {c c' : SetNXReplayCache}
    (hlong : maxDuration < expiresAt - c.now) (h : c.markUsed key expiresAt = (none, c')) :
    ∃ v, (setNX (some c')).Later v ∧ (v.markUsed key expiresAt).1 = none := by
  rcases c.markUsed_cases key expiresAt with ⟨_, hm⟩ | ⟨store, _, hfail, hchk, _, _, hm⟩
  · simp [hm] at h
  · obtain rfl : _ = c' := by simpa [hm] using h
    obtain ⟨hbl, hset, -⟩ := checkUse_eq_none_iff.mp hchk
    have httl : expiresAt.sub c.now = maxDuration := by
      simp only [Time.sub, minDuration, maxDuration] at hlong ⊢
      lia
    have hpos : (0 : Int) ≤ maxDuration := by decide
    refine ⟨_, Lib.Reaches.head (a := .tick (c.now + maxDuration)) (if_pos ?_) .refl, ?_⟩
    · exact Int.le_add_of_nonneg_right hpos
    · refine SetNXReplayCache.markUsed_eq_none rfl hfail ?_ ?_ ?_
      · exact checkUse_eq_none_iff.mpr ⟨hbl, hset, fun _ => by dsimp only; lia⟩
      · simp only [Time.sub] at hlong ⊢
        lia
      · intro d hd
        simp only [Function.update_self, Option.some.injEq, httl] at hd
        exact hd.ge

/-- A success of a cache that is not durable may happen again. -/
theorem exists_markUsed_again (hdur : ¬v.Durable expiresAt)
    (h : v.markUsed key expiresAt = (none, v')) :
    ∃ v'', v'.Later v'' ∧ (v''.markUsed key expiresAt).1 = none := by
  rcases v with (_ | c) | (_ | c)
  · obtain rfl : _ = v' := by simpa [markUsed] using h
    exact ⟨_, .refl, rfl⟩
  · simp only [markUsed, Prod.mk.injEq] at h
    obtain ⟨h, rfl⟩ := h
    simp only [Durable, not_or, not_le] at hdur
    exact exists_markUsed_again_memory hdur.1 hdur.2 (Prod.ext h rfl)
  · obtain rfl : _ = v' := by simpa [markUsed] using h
    exact ⟨_, .refl, rfl⟩
  · simp only [markUsed, Prod.mk.injEq] at h
    obtain ⟨h, rfl⟩ := h
    exact exists_markUsed_again_setNX (not_le.mp hdur) (Prod.ext h rfl)

/-- **One-shot use.** After `MarkUsed(key, E)` has succeeded, the same call fails at
every later time exactly when the cache was durable. -/
theorem markUsed_later_fails_iff (h : v.markUsed key expiresAt = (none, v')) :
    (∀ v'', v'.Later v'' → (v''.markUsed key expiresAt).1 ≠ none) ↔ v.Durable expiresAt := by
  constructor
  · intro hall
    by_contra hdur
    obtain ⟨v'', hlat, hok⟩ := exists_markUsed_again hdur h
    exact hall v'' hlat hok
  · intro hdur v'' hlat hok
    obtain ⟨err, herr⟩ :=
      markUsed_of_committed (committed_of_later (committed_of_markUsed hdur h) hlat)
    simp [hok] at herr

end CacheValue

/-- With a cache value, `MarkSessionBindingUsed` succeeds exactly when `MarkUsed` does. -/
theorem markSessionBindingUsed_cache {statement : VerifiedSessionBindingStatement}
    {v v' : CacheValue} :
    markSessionBindingUsed (some CacheValue.cache) statement v = (none, v') ↔
      v.markUsed (replayKey statement) statement.binding.expiresAt = (none, v') := by
  simp [markSessionBindingUsed_some, CacheValue.cache, Prod.ext_iff]

end SecureBinding.IdentityPolicy
