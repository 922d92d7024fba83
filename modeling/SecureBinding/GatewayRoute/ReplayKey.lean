import SecureBinding.Lib.Joined
import SecureBinding.GatewayRoute.RouteSound
import SecureBinding.IdentityPolicy.ReplayCacheSound

/-!
# GatewayRoute.ReplayKey

Which assertions have a replay key of their own.

The key joins seven values with NUL, and no check keeps NUL out of a value: `isUnsafe` looks
for line breaks and angle brackets. Two assertions with the same key then differ in where a
piece of a value belongs. What keeps such a piece at its place is that `validateCore`
requires five of the seven values to be `Usable`: a move that would leave one of these blank,
or put a line break or an angle bracket in it, makes no assertion that is accepted. Tenant
and scope are not required, and may take any piece.

An assertion is `Pinned` if no single move to a neighbour makes another acceptable
assertion. That is also enough for several moves at once (`replayKey_identifies_iff`), because
the values that are not required are neighbours: from a required value all those on its other
side are required too.
-/

namespace SecureBinding.GatewayRoute

open Go
open IdentityPolicy (CacheValue)

variable {a b : Assertion}

/-! ### The values of a key -/

/-- The values that `replayKey` joins. -/
def replayValues (a : Assertion) : List GoString :=
  [a.issuer, a.audience, a.tenant, a.authorityScope, a.routeID, a.grantHash, a.nonce]

/-- Does `validateCore` require the value at this place? -/
def isObserved (k : Nat) : Bool := k != 2 && k != 3

theorem replayKey_eq (a : Assertion) : replayKey a = [0].intercalate (replayValues a) := by
  simp [replayKey, replayValues]

/-- The assertions are the same as far as the key is concerned. -/
structure SameReplayValues (a b : Assertion) : Prop where
  issuer : a.issuer = b.issuer
  audience : a.audience = b.audience
  tenant : a.tenant = b.tenant
  authorityScope : a.authorityScope = b.authorityScope
  routeID : a.routeID = b.routeID
  grantHash : a.grantHash = b.grantHash
  nonce : a.nonce = b.nonce

theorem sameReplayValues_iff : SameReplayValues a b ↔ replayValues a = replayValues b := by
  constructor
  · intro h
    simp only [replayValues, h.issuer, h.audience, h.tenant, h.authorityScope, h.routeID,
      h.grantHash, h.nonce]
  · intro h
    simp only [replayValues, List.cons.injEq, and_true] at h
    obtain ⟨h1, h2, h3, h4, h5, h6, h7⟩ := h
    exact ⟨h1, h2, h3, h4, h5, h6, h7⟩

/-- Seven values that replace those of an assertion. -/
def withReplayValues (a : Assertion) (values : List GoString) : Assertion :=
  { a with
    issuer := values.getD 0 []
    audience := values.getD 1 []
    tenant := values.getD 2 []
    authorityScope := values.getD 3 []
    routeID := values.getD 4 []
    grantHash := values.getD 5 []
    nonce := values.getD 6 [] }

variable {values : List GoString} {now : Time} {k : Nat} {f g s : GoString}

theorem replayValues_withReplayValues (h : values.length = 7) :
    replayValues (withReplayValues a values) = values := by
  match values, h with
  | [_, _, _, _, _, _, _], _ => rfl

/-- The required values are usable. -/
def ObservedUsable (values : List GoString) : Prop :=
  ∀ k value, isObserved k = true → values[k]? = some value → Usable value

theorem observedUsable_iff : ObservedUsable (replayValues a) ↔
    Usable a.issuer ∧ Usable a.audience ∧ Usable a.routeID ∧ Usable a.grantHash ∧
      Usable a.nonce := by
  constructor
  · intro h
    exact ⟨h 0 _ rfl rfl, h 1 _ rfl rfl, h 4 _ rfl rfl, h 5 _ rfl rfl, h 6 _ rfl rfl⟩
  · intro h k value hk hval
    -- one case for each of the seven places, and one for what lies behind them
    rcases k with _ | _ | _ | _ | _ | _ | _ | k <;> simp_all [replayValues, isObserved]

theorem CoreValid.observedUsable (h : CoreValid a now) : ObservedUsable (replayValues a) := by
  have hobs := h.observed
  simp only [observedFields, List.forall_mem_cons] at hobs
  simp [observedUsable_iff, hobs]

/-- Usable values may replace those of a valid assertion. -/
theorem CoreValid.withReplayValues (h : CoreValid a now)
    (hlen : values.length = 7) (hus : ObservedUsable values) :
    CoreValid (withReplayValues a values) now := by
  have hobs := h.observed
  simp only [observedFields, List.forall_mem_cons] at hobs
  rw [← replayValues_withReplayValues (a := a) hlen, observedUsable_iff] at hus
  refine ⟨?_, h.type, h.version, h.issued, h.notFuture, h.expires, h.notExpired⟩
  simp only [GatewayRoute.withReplayValues] at hus
  simp only [observedFields, GatewayRoute.withReplayValues, List.forall_mem_cons, hus,
    hobs, List.not_mem_nil, false_implies, implies_true, and_self]

/-! ### Accepted assertions -/

/-- `Validate` accepts the assertion, under some expected route. -/
def Accepted (a : Assertion) : Prop :=
  ∃ (σ : Type) (proof : Option HolderOfKeyProof) (expected : ExpectedRoute) (opts : Options σ)
    (sysNow : SysTime) (w w' : σ), validate a proof expected opts sysNow w = (none, w')

/-- The route an assertion itself asks for. -/
def ownRoute (a : Assertion) : ExpectedRoute where
  issuer := a.issuer
  audience := a.audience
  routeID := a.routeID
  policyID := a.policyID
  targetAgent := a.targetAgent
  requestContextSHA256 := a.requestContextSHA256

theorem CoreValid.routeExpected (h : CoreValid a now) : RouteExpected a (ownRoute a) := by
  have hus := h.observed
  simp only [observedFields, List.forall_mem_cons] at hus
  have hmts : ∀ {v : GoString}, Usable v → Matches v v := fun h => .inr ⟨rfl, h⟩
  have hbl : ∀ v : GoString, Matches [] v := fun _ => .inl rfl
  constructor
  · simp only [expectedFields, ownRoute]
    simp [hmts, hus, hbl]
  · simp only [requiredValues, ownRoute]
    simp [hus, Usable.notEmpty]

/-- Validity in itself is all that acceptance takes, under a suitable route. -/
theorem accepted_iff : Accepted a ↔ ∃ now : SysTime, CoreValid a now.val := by
  constructor
  · intro h
    obtain ⟨σ, proof, expected, opts, sysNow, w, w', hvld⟩ := h
    obtain ⟨hcore, -, -⟩ := fieldErrors_eq_nil_iff.mp
      (fieldErrors_of_validate (congrArg Prod.fst hvld))
    have htime : opts.time sysNow ≠ 0 := by
      unfold Options.time
      by_cases hzero : opts.now.isZero = true
      · rw [if_pos hzero]
        exact sysNow.ne_zero
      · rw [if_neg hzero]
        simpa using hzero
    exact ⟨⟨opts.time sysNow, htime⟩, hcore⟩
  · intro h
    obtain ⟨now, hcore⟩ := h
    have htime : Options.time (σ := Unit) { now := now.val } now = now.val := by
      simp [Options.time]
    refine ⟨Unit, none, ownRoute a, { now := now.val }, now, (), (), ?_⟩
    refine validate_eq_none_iff.mpr ⟨?_, .inl ⟨rfl, rfl⟩⟩
    rw [htime]
    exact fieldErrors_eq_nil_iff.mpr ⟨hcore, hcore.routeExpected, fun h => by cases h⟩

/-! ### Pinned assertions -/

/-- No piece of two neighbours can be moved from one to the other: one of them is required
and would be left blank, or would get something unsafe. -/
def Fixed (required required' : Bool) (f g : GoString) : Prop :=
  (∀ s ∈ Lib.splits 0 f, (required && isEmpty s.1 || required' && isUnsafe s.2) = true) ∧
    ∀ s ∈ Lib.splits 0 g, (required' && isEmpty s.2 || required && isUnsafe s.1) = true

instance {required required' : Bool} {f g : GoString} : Decidable (Fixed required required' f g) :=
  inferInstanceAs (Decidable (_ ∧ _))

/-- Every two neighbours are fixed. -/
def Pinned (a : Assertion) : Prop :=
  ∀ k < 6, Fixed (isObserved k) (isObserved (k + 1)) ((replayValues a).getD k [])
    ((replayValues a).getD (k + 1) [])

instance : Decidable (Pinned a) := inferInstanceAs (Decidable (∀ k < 6, _))

theorem length_replayValues (a : Assertion) : (replayValues a).length = 7 := rfl

/-- A place before the last one, and the two values there. -/
theorem Pinned.fixed (h : Pinned a)
    (hf : (replayValues a)[k]? = some f) (hg : (replayValues a)[k + 1]? = some g) :
    Fixed (isObserved k) (isObserved (k + 1)) f g := by
  obtain ⟨hlt, -⟩ := List.getElem?_eq_some_iff.mp hg
  have hfixed := h k (Nat.lt_of_succ_lt_succ hlt)
  rw [List.getD_eq_getElem?_getD, List.getD_eq_getElem?_getD, hf, hg] at hfixed
  exact hfixed

theorem isObserved_of_lt {j : Nat} (hk : isObserved k = false) (hk' : isObserved (k + 1) = true)
    (hlt : k < j) : isObserved j = true := by
  simp only [isObserved, bne_iff_ne, Bool.and_eq_true, Bool.and_eq_false_iff, bne_eq_false_iff_eq]
    at *
  omega

theorem isObserved_of_le {j : Nat} (hk : isObserved (k + 1) = false) (hk' : isObserved k = true)
    (hle : j ≤ k) : isObserved j = true := by
  simp only [isObserved, bne_iff_ne, Bool.and_eq_true, Bool.and_eq_false_iff, bne_eq_false_iff_eq]
    at *
  omega

theorem ObservedUsable.isUnsafe_eq_false (h : ObservedUsable values)
    {place : Nat → Prop} (hplc : ∀ j, place j → isObserved j = true)
    (hs : ∀ c ∈ s, Lib.Within 0 place values c) : isUnsafe s = false := by
  refine isUnsafe_eq_false_iff.mpr fun c hc => ?_
  obtain rfl | ⟨j, z, hj, hz, hcz⟩ := hs c hc
  · decide
  · exact isUnsafe_eq_false_iff.mp (h j z (hplc j hj) hz).safe c hcz

theorem isUnsafe_append_nul {t : GoString} (hs : isUnsafe s = false) (ht : isUnsafe t = false) :
    isUnsafe (s ++ 0 :: t) = false := by
  rw [isUnsafe_eq_false_iff] at hs ht ⊢
  intro c hc
  rw [List.mem_append, List.mem_cons] at hc
  obtain hc | rfl | hc := hc
  · exact hs c hc
  · decide
  · exact ht c hc

/-- NUL is no white space. -/
theorem isEmpty_of_nul_mem (h : 0 ∈ s) : isEmpty s = false :=
  isBlank_of_mem ⟨by decide, by decide⟩ h

/-- Of a pinned assertion no other acceptable one has the key. -/
theorem Pinned.replayValues_eq (h : Pinned a) (ha : ObservedUsable (replayValues a))
    (hb : ObservedUsable (replayValues b)) (hkey : replayKey a = replayKey b) :
    replayValues a = replayValues b := by
  rw [replayKey_eq, replayKey_eq] at hkey
  by_contra hne
  have hlen : (replayValues a).length = (replayValues b).length := rfl
  -- Two rows with one join differ by a piece that went to a neighbour, right or left.
  cases Lib.regrouped_of_intercalate_eq hlen hkey hne with
  | right k p q hx hy hlt hq =>
    have hg := List.getElem?_eq_getElem hlt
    have hmove := (h.fixed hx hg).1 (p, q) (Lib.mem_splits_iff.mpr rfl)
    simp only [Bool.or_eq_true, Bool.and_eq_true] at hmove
    -- A pinned pair lets no piece go: what is left would be blank, or the piece is unsafe.
    obtain ⟨hk, hemp⟩ | ⟨hk', hbad⟩ := hmove
    · rw [(hb k p hk hy).notEmpty] at hemp
      cases hemp
    · have hsafe : isUnsafe q = false := by
        by_cases hk : isObserved k = true
        · exact isUnsafe_of_subset (ha k _ hk hx).safe fun c hc => by simp [hc]
        · have hk : isObserved k = false := by simpa using hk
          exact hb.isUnsafe_eq_false (fun j => isObserved_of_lt hk hk') hq
      rw [hsafe] at hbad
      cases hbad
  | left k p q y hx hy hq hp =>
    have hlt : k < (replayValues a).length := Nat.lt_of_succ_lt (List.getElem?_eq_some_iff.mp hx).1
    have hf := List.getElem?_eq_getElem hlt
    have hmove := (h.fixed hf hx).2 (p, q) (Lib.mem_splits_iff.mpr rfl)
    simp only [Bool.or_eq_true, Bool.and_eq_true] at hmove
    obtain ⟨hk', hemp⟩ | ⟨hk, hbad⟩ := hmove
    · have hgiv : isEmpty q = false := by
        obtain rfl | ⟨r, rfl⟩ := hq
        · exact (hb (k + 1) q hk' hy).notEmpty
        · exact isEmpty_of_nul_mem (by simp)
      rw [hgiv] at hemp
      cases hemp
    · have hsafe : isUnsafe p = false := by
        by_cases hk' : isObserved (k + 1) = true
        · exact isUnsafe_of_subset (ha (k + 1) _ hk' hx).safe fun c hc => by simp [hc]
        · have hk' : isObserved (k + 1) = false := by simpa using hk'
          exact hb.isUnsafe_eq_false (fun j => isObserved_of_le hk' hk) hp
      rw [hsafe] at hbad
      cases hbad

/-- Two neighbours may be replaced by usable values. -/
theorem ObservedUsable.set_set (h : ObservedUsable values) (hf : isObserved k = true → Usable f)
    (hg : isObserved (k + 1) = true → Usable g) :
    ObservedUsable ((values.set k f).set (k + 1) g) := by
  intro j value hj hval
  rw [List.getElem?_set, List.getElem?_set] at hval
  by_cases hk' : k + 1 = j
  · subst hk'
    simp only [if_true] at hval
    split at hval
    · obtain rfl := Option.some.inj hval
      exact hg hj
    · cases hval
  · rw [if_neg hk'] at hval
    by_cases hk : k = j
    · subst hk
      simp only [if_true] at hval
      split at hval
      · obtain rfl := Option.some.inj hval
        exact hf hj
      · cases hval
    · rw [if_neg hk] at hval
      exact h j value hj hval

/-- A piece that is moved makes another acceptable assertion with the same key. -/
theorem exists_accepted_of_move {now : SysTime} (hcore : CoreValid a now.val)
    {f' g' : GoString} (hf : (replayValues a)[k]? = some f)
    (hg : (replayValues a)[k + 1]? = some g) (hjoin : f' ++ 0 :: g' = f ++ 0 :: g) (hne : f' ≠ f)
    (hf' : isObserved k = true → Usable f') (hg' : isObserved (k + 1) = true → Usable g') :
    ∃ b, Accepted b ∧ replayKey a = replayKey b ∧ replayValues a ≠ replayValues b := by
  have hlen : (((replayValues a).set k f').set (k + 1) g').length = 7 := by
    rw [List.length_set, List.length_set, length_replayValues]
  have hvls := replayValues_withReplayValues (a := a) hlen
  have hus := hcore.observedUsable.set_set hf' hg'
  refine ⟨_, accepted_iff.mpr ⟨now, hcore.withReplayValues hlen hus⟩, ?_, ?_⟩
  · rw [replayKey_eq, replayKey_eq, hvls, Lib.intercalate_set_set hf hg hjoin]
  · rw [hvls]
    intro heq
    have hk := congrArg (fun values => values[k]?) heq
    simp only [List.getElem?_set_ne (Nat.succ_ne_self k), hf] at hk
    rw [List.getElem?_set_self (List.getElem?_eq_some_iff.mp hf).1] at hk
    exact hne (Option.some.inj hk).symm

/-- An assertion that is not pinned shares its key. -/
theorem exists_accepted_of_not_pinned (ha : Accepted a) (h : ¬Pinned a) :
    ∃ b, Accepted b ∧ replayKey a = replayKey b ∧ replayValues a ≠ replayValues b := by
  obtain ⟨now, hcore⟩ := accepted_iff.mp ha
  have hus := hcore.observedUsable
  unfold Pinned at h
  push Not at h
  obtain ⟨k, hk, hfixed⟩ := h
  -- All seven values are there, so `k` and its neighbour are two of them.
  have hval : ∀ j < 7, (replayValues a)[j]? = some ((replayValues a).getD j []) := by
    intro j hj
    rw [List.getD_eq_getElem?_getD, List.getElem?_eq_getElem hj]
    rfl
  have hf := hval k (by omega)
  have hg := hval (k + 1) (by omega)
  generalize (replayValues a).getD k [] = f at hf hfixed
  generalize (replayValues a).getD (k + 1) [] = g at hg hfixed
  simp only [Fixed, Prod.forall, Lib.mem_splits_iff, not_and_or, not_forall, Bool.not_eq_true,
    Bool.or_eq_false_iff, Bool.and_eq_false_imp] at hfixed
  obtain ⟨p, q, hspl, hp, hq⟩ | ⟨p, q, hspl, hq, hp⟩ := hfixed
  · -- the piece `q` goes to the right
    have hjoin : p ++ 0 :: (q ++ 0 :: g) = f ++ 0 :: g := by simp [hspl]
    refine exists_accepted_of_move hcore hf hg hjoin (by simp [hspl]) (fun hk => ?_) fun hk' => ?_
    · have hsub : p ⊆ f := by simp [hspl]
      exact ⟨hp hk, isUnsafe_of_subset (hus k f hk hf).safe hsub⟩
    · have hg' := (hus (k + 1) g hk' hg).safe
      exact ⟨isEmpty_of_nul_mem (by simp), isUnsafe_append_nul (hq hk') hg'⟩
  · -- the piece `p` goes to the left
    have hjoin : (f ++ 0 :: p) ++ 0 :: q = f ++ 0 :: g := by simp [hspl]
    refine exists_accepted_of_move hcore hf hg hjoin (by simp) (fun hk => ?_) fun hk' => ?_
    · have hf' := (hus k f hk hf).safe
      exact ⟨isEmpty_of_nul_mem (by simp), isUnsafe_append_nul hf' (hp hk)⟩
    · have hsub : q ⊆ g := by
        rw [hspl]
        exact fun c hc => by simp [hc]
      exact ⟨hq hk', isUnsafe_of_subset (hus (k + 1) g hk' hg).safe hsub⟩

/-! ### Replays -/

/-- The options of a verifier with one of the caches of `identitypolicy`. -/
def cacheOptions (now : Time) : Options CacheValue where
  now := now
  replayCache := some CacheValue.cache

/-- If accepting `a` makes `b` a replay, which it was not before, then they have the same
values. -/
def BlocksOnlyItself (a : Assertion) : Prop :=
  ∀ (b : Assertion) (proof proof' : Option HolderOfKeyProof) (expected expected' : ExpectedRoute)
    (now now' : Time) (sysNow sysNow' : SysTime) (v v' : CacheValue),
    validate a proof expected (cacheOptions now) sysNow v = (none, v') →
    (validate b proof' expected' (cacheOptions now') sysNow' v).1 ≠ some .replayDetected →
    (validate b proof' expected' (cacheOptions now') sysNow' v').1 = some .replayDetected →
    SameReplayValues a b

theorem validate_cacheOptions_eq_replayDetected_iff {proof : Option HolderOfKeyProof}
    {expected : ExpectedRoute} {sysNow : SysTime} {v : CacheValue} :
    (validate a proof expected (cacheOptions now) sysNow v).1 = some .replayDetected ↔
      fieldErrors a proof expected ((cacheOptions now).time sysNow) = [] ∧
      ∃ err, (v.markUsed (replayKey a) a.expiresAt).1 = some err ∧
        err.is .replayDetected = true := by
  by_cases hfld : fieldErrors a proof expected ((cacheOptions now).time sysNow) = []
  · have hca : (cacheOptions now).replayCache = some CacheValue.cache := rfl
    simp only [validate, hfld, hca, CacheValue.cache, ne_eq, not_true_eq_false, if_false, true_and]
    cases hmark : v.markUsed (replayKey a) a.expiresAt with
    | mk err v' =>
      cases err with
      | none => simp
      | some err => cases hreplay : err.is .replayDetected <;> simp [hreplay]
  · simp [validate, hfld]

/-- An assertion that passes its checks is accepted by a verifier without a cache. -/
theorem accepted_of_fieldErrors {proof : Option HolderOfKeyProof} {expected : ExpectedRoute}
    {sysNow : SysTime}
    (h : fieldErrors a proof expected ((cacheOptions now).time sysNow) = []) : Accepted a :=
  ⟨CacheValue, proof, expected, { now := now }, sysNow, .memory none, .memory none,
    validate_eq_none_iff.mpr ⟨h, .inl ⟨rfl, rfl⟩⟩⟩

/-- What an accepted assertion leaves in a cache is found by assertions with its key only. -/
theorem blocksOnlyItself_of_unique
    (h : ∀ b, Accepted b → replayKey a = replayKey b → SameReplayValues a b) :
    BlocksOnlyItself a := by
  intro b proof proof' expected expected' now now' sysNow sysNow' v v' ha hfree hblocked
  obtain ⟨-, hmark⟩ := validate_eq_none_iff.mp ha
  obtain ⟨hnil, -⟩ | ⟨cache, hca, hmark⟩ := hmark
  · cases hnil
  · obtain rfl : CacheValue.cache = cache := Option.some.inj hca
    obtain ⟨hfld, err, herr, hreplay⟩ := validate_cacheOptions_eq_replayDetected_iff.mp hblocked
    refine h b (accepted_of_fieldErrors hfld) ?_
    by_contra hne
    have hfr := CacheValue.markUsed_fst_of_ne (Ne.symm hne) v a.expiresAt b.expiresAt
    have haft : (v.markUsed (replayKey a) a.expiresAt).2 = v' := congrArg Prod.snd hmark
    rw [haft, herr] at hfr
    exact hfree (validate_cacheOptions_eq_replayDetected_iff.mpr
      ⟨hfld, err, hfr.symm, hreplay⟩)

/-- The replay key of an accepted assertion tells it from every other, so that accepting it
never makes another one a replay, exactly if the assertion is pinned. -/
theorem replayKey_identifies_iff (ha : Accepted a) :
    ((∀ b, Accepted b → replayKey a = replayKey b → SameReplayValues a b) ∧ BlocksOnlyItself a) ↔
      Pinned a := by
  constructor
  · intro h
    by_contra hpinned
    obtain ⟨b, hb, hkey, hne⟩ := exists_accepted_of_not_pinned ha hpinned
    exact hne (sameReplayValues_iff.mp (h.1 b hb hkey))
  · intro h
    have huni : ∀ b, Accepted b → replayKey a = replayKey b → SameReplayValues a b := by
      intro b hb hkey
      obtain ⟨now, hcore⟩ := accepted_iff.mp ha
      obtain ⟨now', hcore'⟩ := accepted_iff.mp hb
      exact sameReplayValues_iff.mpr
        (h.replayValues_eq hcore.observedUsable hcore'.observedUsable hkey)
    exact ⟨huni, blocksOnlyItself_of_unique huni⟩

/-- An assertion without NUL has a key of its own. -/
theorem replayKey_identifies_sample :
    Pinned sampleAssertion ∧ ((∀ b, Accepted b → replayKey sampleAssertion = replayKey b →
        SameReplayValues sampleAssertion b) ∧ BlocksOnlyItself sampleAssertion) := by
  have hacc : Accepted sampleAssertion :=
    ⟨Unit, some (answer sampleAssertion [] 2), sampleRoute, { now := 2 }, sampleClock, (), (),
      by decide +kernel⟩
  have hpinned : Pinned sampleAssertion := by decide
  exact ⟨hpinned, (replayKey_identifies_iff hacc).mpr hpinned⟩

/-- The sample assertion for the given tenant and scope. -/
def tenantAssertion (tenant authorityScope : GoString) : Assertion :=
  { sampleAssertion with tenant := tenant, authorityScope := authorityScope }

/-- The tenant `t` NUL `s` with scope `x`, and the tenant `t` with scope `s` NUL `x`: both
are accepted by a verifier with a fresh cache, and after the first the second is a
replay. -/
theorem replayKey_collides :
    let first := tenantAssertion (lit "t" ++ 0 :: lit "s") (lit "x")
    let second := tenantAssertion (lit "t") (lit "s" ++ 0 :: lit "x")
    let proof := some (answer sampleAssertion [] 2)
    let fresh := CacheValue.memory (some (.new 2))
    let verdict := fun (a : Assertion) (v : CacheValue) =>
      validate a proof sampleRoute (cacheOptions 2) sampleClock v
    (verdict first fresh).1 = none ∧ (verdict second fresh).1 = none ∧
      replayKey first = replayKey second ∧ first.tenant ≠ second.tenant ∧
      (verdict second (verdict first fresh).2).1 = some .replayDetected := by
  decide +kernel

end SecureBinding.GatewayRoute
