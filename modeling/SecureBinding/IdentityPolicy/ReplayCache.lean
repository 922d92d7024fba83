import SecureBinding.Lib.Transition
import SecureBinding.IdentityPolicy.SessionBinding

/-!
# IdentityPolicy.ReplayCache

The model of `replay_cache.go` and `setnx_replay_cache.go` of
`pkg/atls/identitypolicy`: the two replay caches, their `MarkUsed` methods, and
`ReplayCache` interface values that hold one of them.

A cache has a clock, which it calls once per `MarkUsed`; the field `now` is what
the clock reads at present, and other actions move it forward. The critical
section of the memory cache is a definition of its own (`commit`), since under
concurrency other calls may run between the reading of the clock and the lock.
-/

namespace SecureBinding.IdentityPolicy

open Go

/-- The checks both caches make before they touch their state: the key is not
blank, the expiry is set and not past. -/
def checkUse (key : GoString) (expiresAt now : Time) : Option Error :=
  if isBlank key then some (.validation .sessionBinding .nonce (.sentinel .missingBinding))
  else if expiresAt.isZero then
    some (.validation .sessionBinding .expiresAt (.sentinel .missingBinding))
  else if !now.isZero && now.after expiresAt then
    some (.validation .sessionBinding .expiresAt (.sentinel .expiredAssertion))
  else none

/-! ### The in-process cache -/

/-- `MemoryReplayCache`, with the mutex left out. -/
structure MemoryReplayCache where
  now : Time
  seen : GoString → Option Time

namespace MemoryReplayCache

/-- `NewMemoryReplayCacheWithClock`. -/
def new (now : Time) : MemoryReplayCache := ⟨now, fun _ => none⟩

/-- The condition under which the purging loop deletes a key. -/
def expired (now expiresAt : Time) : Bool :=
  !expiresAt.isZero && !now.isZero && now.after expiresAt

def purge (now : Time) (seen : GoString → Option Time) : GoString → Option Time :=
  fun key => (seen key).filter fun expiresAt => !expired now expiresAt

/-- The critical section of `MarkUsed`, `now` being what the call read before. -/
def commit (key : GoString) (expiresAt now : Time) (seen : GoString → Option Time) :
    Option Error × (GoString → Option Time) :=
  if (purge now seen key).isSome then (some (.sentinel .replayDetected), purge now seen)
  else (none, Function.update (purge now seen) key (some expiresAt))

/-- `MarkUsed` on a cache that is not nil. -/
def markUsed (c : MemoryReplayCache) (key : GoString) (expiresAt : Time) :
    Option Error × MemoryReplayCache :=
  match checkUse key expiresAt c.now with
  | some err => (some err, c)
  | none =>
    ((commit key expiresAt c.now c.seen).1,
      { c with seen := (commit key expiresAt c.now c.seen).2 })

end MemoryReplayCache

/-! ### The distributed cache -/

/-- A store with set-if-absent-with-TTL semantics: the time at which each of its
keys ends. A store that cannot be reached (`failing`) answers with an error. -/
structure SetNXStore where
  deadline : GoString → Option Time
  failing : Bool := false

/-- `SetNX` at time `now`: the key is set unless it is there and has not ended. -/
def SetNXStore.setNX (s : SetNXStore) (now : Time) (key : GoString) (ttl : Duration) :
    Except Unit Bool × SetNXStore :=
  if s.failing then (.error (), s)
  else if (s.deadline key).any fun d => now < d then (.ok false, s)
  else (.ok true, { s with deadline := Function.update s.deadline key (some (now + ttl)) })

/-- `SetNXReplayCache`; a nil store is `none`. The context is only handed on. -/
structure SetNXReplayCache where
  now : Time
  store : Option SetNXStore

/-- `MarkUsed` on a cache that is not nil. -/
def SetNXReplayCache.markUsed (c : SetNXReplayCache) (key : GoString) (expiresAt : Time) :
    Option Error × SetNXReplayCache :=
  match c.store with
  | none => (some (.validation .sessionBinding .nonce (.sentinel .missingSetNXStore)), c)
  | some store =>
    match checkUse key expiresAt c.now with
    | some err => (some err, c)
    | none =>
      if expiresAt.sub c.now ≤ 0 then
        (some (.validation .sessionBinding .expiresAt (.sentinel .expiredAssertion)), c)
      else
        match store.setNX c.now key (expiresAt.sub c.now) with
        | (.error _, store) =>
          (some (.validation .sessionBinding .nonce (.sentinel .replayStoreFailed)),
            { c with store := some store })
        | (.ok false, store) => (some (.sentinel .replayDetected), { c with store := some store })
        | (.ok true, store) => (none, { c with store := some store })

/-! ### Interface values -/

/-- A `ReplayCache` interface value that is not nil: its dynamic type and the
pointer it holds, a nil pointer being `none`. -/
inductive CacheValue
  | memory (c : Option MemoryReplayCache)
  | setNX (c : Option SetNXReplayCache)

namespace CacheValue

/-- `MarkUsed` of an interface value. On a nil pointer both methods return nil. -/
def markUsed (key : GoString) (expiresAt : Time) : CacheValue → Option Error × CacheValue
  | memory none => (none, memory none)
  | memory (some c) => ((c.markUsed key expiresAt).1, memory (some (c.markUsed key expiresAt).2))
  | setNX none => (none, setNX none)
  | setNX (some c) => ((c.markUsed key expiresAt).1, setNX (some (c.markUsed key expiresAt).2))

/-- The interface value as a `ReplayCache`; its state is what it points to. -/
def cache : ReplayCache CacheValue := ⟨markUsed⟩

/-- What may happen to a cache between two calls of a verifier. -/
inductive Action
  /-- The clock moves forward. -/
  | tick (now : Time)
  /-- Another caller uses the cache. -/
  | mark (key : GoString) (expiresAt : Time)
  /-- The store becomes unreachable, or reachable again. -/
  | fault (failing : Bool)

/-- The effect of an action. The clock never goes backwards. -/
def step : CacheValue → Action → Option CacheValue
  | v, .mark key expiresAt => some (v.markUsed key expiresAt).2
  | memory (some c), .tick now => if c.now ≤ now then some (memory (some { c with now })) else none
  | setNX (some c), .tick now => if c.now ≤ now then some (setNX (some { c with now })) else none
  | setNX (some c), .fault failing =>
    some (setNX (some { c with store := c.store.map fun s => { s with failing } }))
  | v, _ => some v

/-- `v'` is the same cache as `v` at some later time. -/
def Later (v v' : CacheValue) : Prop := Lib.Reaches step v v'

end CacheValue

end SecureBinding.IdentityPolicy
