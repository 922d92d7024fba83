import SecureBinding.GatewayRoute.Route

/-!
# GatewayRoute.RouteSound

What an assertion that passes `Validate` is known to satisfy.

Each check gets one lemma that says when it finds no error. A value that is compared is
`Usable` and the one that was wanted, or the wanted one was blank: a comparison with a blank
value is skipped. From that follows when a required holder-of-key proof is bound to a key
(`holderProof_bound_iff`): the wanted thumbprint falls back to that of the assertion only if
the expected route's is the empty text, so that one of blanks disables the comparison.
-/

namespace SecureBinding.GatewayRoute

open Go

variable {a : Assertion} {expected : ExpectedRoute} {now : Time} {name : String}
  {want got value : GoString}

/-! ### Values -/

/-- The value of a field that a check can use. -/
structure Usable (value : GoString) : Prop where
  notEmpty : isEmpty value = false
  safe : isUnsafe value = false

instance : Decidable (Usable value) :=
  decidable_of_iff (isEmpty value = false ∧ isUnsafe value = false)
    ⟨fun h => ⟨h.1, h.2⟩, fun h => ⟨h.notEmpty, h.safe⟩⟩

theorem isUnsafe_eq_false_iff : isUnsafe value = false ↔ ∀ c ∈ value, c ∉ lit "\r\n<>" := by
  simp [isUnsafe]

theorem isUnsafe_of_subset {part : GoString} (h : isUnsafe value = false) (hsub : part ⊆ value) :
    isUnsafe part = false :=
  isUnsafe_eq_false_iff.mpr fun c hc => isUnsafe_eq_false_iff.mp h c (hsub hc)

theorem validateObserved_eq_nil_iff : validateObserved name value = [] ↔ Usable value := by
  unfold validateObserved
  constructor
  · intro h
    by_cases hemp : isEmpty value = true
    · simp [hemp] at h
    · by_cases hbad : isUnsafe value = true
      · simp [hemp, hbad] at h
      · exact ⟨by simpa using hemp, by simpa using hbad⟩
  · intro h
    simp [h.notEmpty, h.safe]

theorem compareGot_eq_nil_iff : compareGot name want got = [] ↔ want = got ∧ Usable got := by
  unfold compareGot
  constructor
  · intro h
    by_cases hemp : isEmpty got = true
    · simp [hemp] at h
    · by_cases hbad : isUnsafe got = true
      · simp [hemp, hbad] at h
      · by_cases heq : want = got
        · exact ⟨heq, by simpa using hemp, by simpa using hbad⟩
        · simp [hemp, hbad, heq] at h
  · intro h
    obtain ⟨rfl, hus⟩ := h
    simp [hus.notEmpty, hus.safe]

/-- What a comparison with a wanted value establishes. -/
def Matches (want got : GoString) : Prop := isEmpty want = true ∨ want = got ∧ Usable got

instance : Decidable (Matches want got) :=
  inferInstanceAs (Decidable (isEmpty want = true ∨ want = got ∧ Usable got))

theorem compareHolderField_eq_nil_iff :
    compareHolderField name want got = [] ↔ Matches want got := by
  unfold compareHolderField Matches
  by_cases hemp : isEmpty want = true
  · simp [hemp]
  · simp [hemp, compareGot_eq_nil_iff]

/-- The extra check of the wanted value makes no difference to what passes. -/
theorem compareField_eq_nil_iff : compareField name want got = [] ↔ Matches want got := by
  unfold compareField Matches
  by_cases hemp : isEmpty want = true
  · simp [hemp]
  · by_cases hbad : isUnsafe want = true
    · have hne : ¬(want = got ∧ Usable got) := by
        intro h
        obtain ⟨rfl, hus⟩ := h
        rw [hus.safe] at hbad
        cases hbad
      simp [hbad, hne]
    · simp [hemp, hbad, compareGot_eq_nil_iff]

theorem Matches.eq (h : Matches want got) (hwant : isEmpty want = false) : want = got := by
  obtain hemp | ⟨heq, -⟩ := h
  · rw [hwant] at hemp
    cases hemp
  · exact heq

theorem matches_self (h : isEmpty value = true ∨ isUnsafe value = false) : Matches value value := by
  by_cases hemp : isEmpty value = true
  · exact .inl hemp
  · obtain h | hsafe := h
    · exact absurd h hemp
    · exact .inr ⟨rfl, by simpa using hemp, hsafe⟩

/-! ### Checks -/

/-- An assertion that is valid in itself. -/
structure CoreValid (a : Assertion) (now : Time) : Prop where
  observed : ∀ f ∈ observedFields a, Usable f.2
  type : a.type = assertionType
  version : a.version = assertionVersion
  issued : a.issuedAt ≠ 0
  notFuture : a.issuedAt ≤ now
  expires : a.expiresAt ≠ 0
  notExpired : now ≤ a.expiresAt

theorem validateCore_eq_nil_iff : validateCore a now = [] ↔ CoreValid a now := by
  have htype : Usable a.type → ((if a.type ≠ [] ∧ a.type ≠ assertionType then
      [FieldError.mk "gta_type" .mismatch] else []) = [] ↔ a.type = assertionType) := by
    intro hus
    have hne : a.type ≠ [] := by
      intro heq
      have hemp := hus.notEmpty
      rw [heq] at hemp
      exact absurd hemp (by decide)
    by_cases heq : a.type = assertionType
    · simp [heq]
    · simp [hne]
  have hdate : ∀ (t : Time) (bad : Bool) (name : String) (e : Sentinel),
      ((if t.isZero then [FieldError.mk name .missingObserved]
        else if bad then [FieldError.mk name e] else []) = [] ↔ t ≠ 0 ∧ bad = false) := by
    intro t bad name e
    by_cases ht : t = 0
    · simp [ht]
    · cases bad <;> simp [ht]
  simp only [validateCore, List.append_eq_nil_iff, List.flatMap_eq_nil_iff,
    validateObserved_eq_nil_iff, hdate, Time.after_eq_false_iff]
  constructor
  · intro h
    obtain ⟨⟨⟨⟨hobs, ht⟩, hvsn⟩, hissued, hfut⟩, hexpires, hexpd⟩ := h
    have hus : Usable a.type := hobs ("gta_type", a.type) (by simp [observedFields])
    exact ⟨hobs, (htype hus).mp ht, by simpa using hvsn, hissued, hfut, hexpires, hexpd⟩
  · intro h
    have hus : Usable a.type := h.observed ("gta_type", a.type) (by simp [observedFields])
    exact ⟨⟨⟨⟨h.observed, (htype hus).mpr h.type⟩, by simp [h.version]⟩, h.issued, h.notFuture⟩,
      h.expires, h.notExpired⟩

/-- The values that an expected route must have. -/
def requiredValues (expected : ExpectedRoute) : List GoString :=
  [expected.issuer, expected.audience, expected.routeID, expected.policyID, expected.targetAgent,
    expected.requestContextSHA256]

/-- The assertion is for the expected route. -/
structure RouteExpected (a : Assertion) (expected : ExpectedRoute) : Prop where
  fields : ∀ f ∈ expectedFields a expected, Matches f.2.1 f.2.2
  required : ∀ value ∈ requiredValues expected, isEmpty value = false

theorem compareExpected_eq_nil_iff :
    compareExpected a expected = [] ↔ RouteExpected a expected := by
  have hreq : (∀ value ∈ requiredValues expected, isEmpty value = false) ↔
      ¬((isEmpty expected.issuer || isEmpty expected.audience || isEmpty expected.routeID
        || isEmpty expected.policyID || isEmpty expected.targetAgent
        || isEmpty expected.requestContextSHA256) = true) := by
    simp [requiredValues, and_assoc]
  simp only [compareExpected, List.append_eq_nil_iff, List.flatMap_eq_nil_iff,
    compareField_eq_nil_iff]
  constructor
  · intro h
    obtain ⟨hfld, hgiv⟩ := h
    refine ⟨hfld, hreq.mpr fun hbad => ?_⟩
    rw [if_pos hbad] at hgiv
    cases hgiv
  · intro h
    exact ⟨h.fields, if_neg (hreq.mp h.required)⟩

/-- The proof is one for the assertion. -/
structure ProofValid (a : Assertion) (proof : HolderOfKeyProof) (expected : ExpectedRoute)
    (now : Time) : Prop where
  fields : ∀ f ∈ holderFields a proof expected, Matches f.2.1 f.2.2
  notFuture : proof.issuedAt ≤ now
  expires : proof.expiresAt ≠ 0
  notExpired : now ≤ proof.expiresAt
  hashGiven : isEmpty a.agentHolderOfKeyProofSHA256 = false

theorem validateHolderProof_eq_nil_iff {proof : Option HolderOfKeyProof} :
    validateHolderProof a proof expected now = [] ↔
      ∃ p, proof = some p ∧ ProofValid a p expected now := by
  cases proof with
  | none => simp [validateHolderProof]
  | some p =>
    simp only [validateHolderProof, List.append_eq_nil_iff, List.flatMap_eq_nil_iff,
      compareHolderField_eq_nil_iff, Option.some.injEq, exists_eq_left']
    constructor
    · intro h
      obtain ⟨⟨⟨hfld, hfut⟩, hdates⟩, hhash⟩ := h
      have hzero : p.expiresAt ≠ 0 := by
        intro hzero
        simp [hzero] at hdates
      refine ⟨hfld, ?_, hzero, ?_, ?_⟩
      · by_contra hlt
        simp [Time.after_iff.mpr (not_le.mp hlt)] at hfut
      · by_contra hlt
        simp [hzero, Time.after_iff.mpr (not_le.mp hlt)] at hdates
      · by_contra hemp
        simp [hemp] at hhash
    · intro h
      refine ⟨⟨⟨h.fields, ?_⟩, ?_⟩, ?_⟩
      · simp [Time.after_eq_false_iff.mpr h.notFuture]
      · simp [h.expires, Time.after_eq_false_iff.mpr h.notExpired]
      · simp [h.hashGiven]

theorem fieldErrors_eq_nil_iff {proof : Option HolderOfKeyProof} :
    fieldErrors a proof expected now = [] ↔ CoreValid a now ∧ RouteExpected a expected ∧
      (expected.requireAgentHolderOfKeyProof = true →
        ∃ p, proof = some p ∧ ProofValid a p expected now) := by
  rw [fieldErrors, List.append_eq_nil_iff, List.append_eq_nil_iff, validateCore_eq_nil_iff,
    compareExpected_eq_nil_iff, and_assoc]
  by_cases hrequire : expected.requireAgentHolderOfKeyProof = true
  · simp [validateHolderProof_eq_nil_iff]
  · simp [hrequire]

section Validate

variable {σ : Type} {proof : Option HolderOfKeyProof} {opts : Options σ} {sysNow : SysTime}
  {w w' : σ}

/-- An assertion is accepted if no check finds an error and the cache has none either. -/
theorem validate_eq_none_iff :
    validate a proof expected opts sysNow w = (none, w') ↔
      fieldErrors a proof expected (opts.time sysNow) = [] ∧
      ((opts.replayCache = none ∧ w' = w) ∨ ∃ cache, opts.replayCache = some cache ∧
        cache.markUsed (replayKey a) a.expiresAt w = (none, w')) := by
  by_cases hfld : fieldErrors a proof expected (opts.time sysNow) = []
  · simp only [validate, hfld]
    cases opts.replayCache with
    | none => simp [eq_comm]
    | some cache =>
      cases hmark : cache.markUsed (replayKey a) a.expiresAt w with
      | mk err w₁ => cases err <;> simp [hmark]
  · simp [validate, hfld]

theorem fieldErrors_of_validate (h : (validate a proof expected opts sysNow w).1 = none) :
    fieldErrors a proof expected (opts.time sysNow) = [] := by
  by_contra hfld
  simp [validate, hfld] at h

end Validate

/-! ### Proofs bound to a key -/

/-- The thumbprint in the proof is not blank, and the expected route or the assertion
names it. -/
def BoundToKey (a : Assertion) (proof : HolderOfKeyProof) (expected : ExpectedRoute) : Prop :=
  ∃ thumbprint, isEmpty thumbprint = false ∧
    (thumbprint = expected.targetAgentKeyThumbprint ∨ thumbprint = a.targetAgentKeyThumbprint) ∧
    thumbprint = proof.keyThumbprint

/-- Assertion and proof have the target that the expected route names. -/
structure CarriesTarget (a : Assertion) (proof : HolderOfKeyProof) (expected : ExpectedRoute) :
    Prop where
  workload : isEmpty expected.targetWorkload = false →
    a.targetWorkload = expected.targetWorkload ∧ proof.workloadID = expected.targetWorkload
  thumbprint : isEmpty expected.targetAgentKeyThumbprint = false →
    a.targetAgentKeyThumbprint = expected.targetAgentKeyThumbprint ∧
    proof.keyThumbprint = expected.targetAgentKeyThumbprint

/-- The optional values that a proof must repeat. -/
def repeatedValues (a : Assertion) (expected : ExpectedRoute) : List GoString :=
  [a.targetWorkload, holderKeyThumbprint a expected, a.taskID, a.contextID]

/-- The assertion passes its own checks, and nothing in it rules out every proof. -/
structure Provable (a : Assertion) (expected : ExpectedRoute) (now : Time) : Prop where
  core : validateCore a now = []
  route : compareExpected a expected = []
  hashGiven : isEmpty a.agentHolderOfKeyProofSHA256 = false
  safe : ∀ value ∈ repeatedValues a expected, isEmpty value = true ∨ isUnsafe value = false

/-- The proof that repeats what the assertion says, with any thumbprint. -/
def answer (a : Assertion) (thumbprint : GoString) (now : Time) : HolderOfKeyProof where
  agentID := a.targetAgent
  workloadID := a.targetWorkload
  keyThumbprint := thumbprint
  grantHash := a.grantHash
  routeID := a.routeID
  taskID := a.taskID
  contextID := a.contextID
  nonce := a.nonce
  issuedAt := now
  expiresAt := a.expiresAt

/-- If the wanted thumbprint is blank, any thumbprint will do. -/
theorem Provable.proofValid (h : Provable a expected now) {thumbprint : GoString}
    (hwant : Matches (holderKeyThumbprint a expected) thumbprint) :
    ProofValid a (answer a thumbprint now) expected now := by
  have hcore := validateCore_eq_nil_iff.mp h.core
  have hobs : ∀ f ∈ observedFields a, Matches f.2 f.2 :=
    fun f hf => matches_self (.inr (hcore.observed f hf).safe)
  have hrepeated : ∀ value ∈ repeatedValues a expected, Matches value value :=
    fun value hmem => matches_self (h.safe value hmem)
  simp only [observedFields, repeatedValues, List.forall_mem_cons] at hobs hrepeated
  refine ⟨?_, le_refl now, hcore.expires, hcore.notExpired, h.hashGiven⟩
  simp only [holderFields, answer]
  simp [hobs, hrepeated, hwant]

theorem ProofValid.matches_thumbprint {proof : HolderOfKeyProof}
    (h : ProofValid a proof expected now) :
    Matches (holderKeyThumbprint a expected) proof.keyThumbprint :=
  h.fields ("holder.key_thumbprint", holderKeyThumbprint a expected, proof.keyThumbprint)
    (by simp [holderFields])

theorem ProofValid.matches_workload {proof : HolderOfKeyProof}
    (h : ProofValid a proof expected now) : Matches a.targetWorkload proof.workloadID :=
  h.fields ("holder.workload", a.targetWorkload, proof.workloadID) (by simp [holderFields])

/-- The wanted thumbprint is that of the expected route or that of the assertion. -/
theorem holderKeyThumbprint_cases (a : Assertion) (expected : ExpectedRoute) :
    holderKeyThumbprint a expected = expected.targetAgentKeyThumbprint ∨
      holderKeyThumbprint a expected = a.targetAgentKeyThumbprint := by
  by_cases hne : expected.targetAgentKeyThumbprint ≠ []
  · exact .inl (if_pos hne)
  · exact .inr (if_neg hne)

theorem holderKeyThumbprint_of_notEmpty (h : isEmpty expected.targetAgentKeyThumbprint = false) :
    holderKeyThumbprint a expected = expected.targetAgentKeyThumbprint := by
  refine if_pos fun hnil => ?_
  rw [hnil] at h
  exact absurd h (by decide)

theorem ProofValid.boundToKey {proof : HolderOfKeyProof} (h : ProofValid a proof expected now)
    (hwant : isEmpty (holderKeyThumbprint a expected) = false) : BoundToKey a proof expected :=
  ⟨_, hwant, holderKeyThumbprint_cases a expected, h.matches_thumbprint.eq hwant⟩

/-- The target of the expected route is compared with the assertion's, and that with the
proof's. -/
theorem ProofValid.carriesTarget {proof : HolderOfKeyProof} (h : ProofValid a proof expected now)
    (hrt : RouteExpected a expected) : CarriesTarget a proof expected := by
  constructor
  · intro hgiv
    have hmts : Matches expected.targetWorkload a.targetWorkload :=
      hrt.fields ("target_workload", expected.targetWorkload, a.targetWorkload)
        (by simp [expectedFields])
    have heq := hmts.eq hgiv
    rw [heq] at hgiv ⊢
    exact ⟨rfl, (h.matches_workload.eq hgiv).symm⟩
  · intro hgiv
    have hmts : Matches expected.targetAgentKeyThumbprint a.targetAgentKeyThumbprint :=
      hrt.fields ("target_agent_key_thumbprint", expected.targetAgentKeyThumbprint,
        a.targetAgentKeyThumbprint) (by simp [expectedFields])
    have hwant := holderKeyThumbprint_of_notEmpty (a := a) hgiv
    have hproof := h.matches_thumbprint
    rw [hwant] at hproof
    exact ⟨(hmts.eq hgiv).symm, (hproof.eq hgiv).symm⟩

theorem ProofValid.provable {proof : HolderOfKeyProof} (h : ProofValid a proof expected now)
    (hcore : CoreValid a now) (hrt : RouteExpected a expected) : Provable a expected now := by
  have hsafe : ∀ f ∈ holderFields a proof expected,
      isEmpty f.2.1 = true ∨ isUnsafe f.2.1 = false := by
    intro f hf
    obtain hemp | ⟨heq, hus⟩ := h.fields f hf
    · exact .inl hemp
    · exact .inr (heq ▸ hus.safe)
  refine ⟨validateCore_eq_nil_iff.mpr hcore, compareExpected_eq_nil_iff.mpr hrt, h.hashGiven, ?_⟩
  simp only [holderFields, List.forall_mem_cons] at hsafe
  simp only [repeatedValues]
  simp [hsafe]

/-- The claims of a sample assertion, without any tenant, scope, workload or thumbprint. -/
def sampleClaims : RouteClaims where
  type := assertionType
  version := assertionVersion
  nonce := lit "n"
  grantHash := lit "g"
  gatewaySessionBindingSHA256 := lit "b"
  routeID := lit "r"
  nextHop := lit "h"
  policyID := lit "p"
  targetAgent := lit "a"
  upstreamAuthn := lit "k"
  upstreamPeer := lit "u"
  requestContextSHA256 := lit "c"
  agentHolderOfKeyProofSHA256 := lit "f"

/-- A sample assertion, valid from instant 1 to instant 3. -/
def sampleAssertion : Assertion :=
  { sampleClaims with
    issuer := lit "i", audience := lit "v", id := lit "1", issuedAt := 1, expiresAt := 3 }

/-- The route that the sample assertion is for. -/
def sampleRoute : ExpectedRoute where
  issuer := lit "i"
  audience := lit "v"
  routeID := lit "r"
  policyID := lit "p"
  targetAgent := lit "a"
  requestContextSHA256 := lit "c"
  requireAgentHolderOfKeyProof := true

def sampleClock : SysTime := ⟨2, by decide⟩

/-- Every accepted assertion for which the expected route requires a proof has one that is
bound to a key and carries the target, exactly if the wanted thumbprint is not blank;
assertions for which no proof is accepted at all are apart. -/
theorem holderProof_bound_iff (a : Assertion) (expected : ExpectedRoute) (now : SysTime)
    (hrequire : expected.requireAgentHolderOfKeyProof = true) :
    (∀ (σ : Type) (proof : Option HolderOfKeyProof) (opts : Options σ) (sysNow : SysTime)
        (w w' : σ), opts.time sysNow = now.val →
        validate a proof expected opts sysNow w = (none, w') →
        ∃ p, proof = some p ∧ BoundToKey a p expected ∧ CarriesTarget a p expected) ↔
      (Provable a expected now.val → isEmpty (holderKeyThumbprint a expected) = false) := by
  constructor
  · intro h hprovable
    by_contra hne
    have hbl : isEmpty (holderKeyThumbprint a expected) = true := by simpa using hne
    -- a proof without a thumbprint is accepted, and is bound to nothing
    have hval : ProofValid a (answer a [] now.val) expected now.val :=
      hprovable.proofValid (.inl hbl)
    have hfld : fieldErrors a (some (answer a [] now.val)) expected now.val = [] :=
      fieldErrors_eq_nil_iff.mpr ⟨validateCore_eq_nil_iff.mp hprovable.core,
        compareExpected_eq_nil_iff.mp hprovable.route, fun _ => ⟨_, rfl, hval⟩⟩
    have htime : Options.time (σ := Unit) { now := now.val } now = now.val := by
      simp [Options.time]
    obtain ⟨p, hp, ⟨thumbprint, hgiv, -, heq⟩, -⟩ := h Unit _ { now := now.val } now () () htime
      (validate_eq_none_iff.mpr ⟨htime ▸ hfld, .inl ⟨rfl, rfl⟩⟩)
    obtain rfl := Option.some.inj hp
    rw [heq] at hgiv
    exact absurd (show isEmpty [] = false from hgiv) (by decide)
  · intro h σ proof opts sysNow w w' hnow hvld
    obtain ⟨hcore, hrt, hproof⟩ := fieldErrors_eq_nil_iff.mp
      (fieldErrors_of_validate (congrArg Prod.fst hvld))
    obtain ⟨p, rfl, hp⟩ := hproof hrequire
    rw [hnow] at hcore hp
    exact ⟨p, rfl, hp.boundToKey (h (hp.provable hcore hrt)), hp.carriesTarget hrt⟩

/-- An assertion that names a thumbprint: its proof has that thumbprint. -/
theorem holderProof_bound_sample :
    validate { sampleAssertion with targetAgentKeyThumbprint := lit "t" }
        (some (answer sampleAssertion (lit "t") 2)) sampleRoute { now := 2 } sampleClock () =
      (none, ()) ∧
    ∃ p, some (answer sampleAssertion (lit "t") 2) = some p ∧
      BoundToKey { sampleAssertion with targetAgentKeyThumbprint := lit "t" } p sampleRoute ∧
      CarriesTarget { sampleAssertion with targetAgentKeyThumbprint := lit "t" } p sampleRoute := by
  have hacc : validate { sampleAssertion with targetAgentKeyThumbprint := lit "t" }
      (some (answer sampleAssertion (lit "t") 2)) sampleRoute { now := 2 } sampleClock () =
        (none, ()) := by
    decide +kernel
  refine ⟨hacc, ?_⟩
  have hbd := (holderProof_bound_iff { sampleAssertion with targetAgentKeyThumbprint := lit "t" }
    sampleRoute sampleClock rfl).mpr fun _ => by decide
  exact hbd Unit _ { now := 2 } sampleClock () () rfl hacc

/-- With no thumbprint anywhere, a proof without one is accepted. With an expected
thumbprint of one blank, the assertion's is not compared either: a proof with another one
is accepted. -/
theorem holderProof_unbound :
    (validate sampleAssertion (some (answer sampleAssertion [] 2)) sampleRoute { now := 2 }
        sampleClock () = (none, ()) ∧
      ¬BoundToKey sampleAssertion (answer sampleAssertion [] 2) sampleRoute) ∧
    validate { sampleAssertion with targetAgentKeyThumbprint := lit "t" }
        (some (answer sampleAssertion (lit "x") 2))
        { sampleRoute with targetAgentKeyThumbprint := lit " " } { now := 2 } sampleClock () =
      (none, ()) ∧
    ¬BoundToKey { sampleAssertion with targetAgentKeyThumbprint := lit "t" }
      (answer sampleAssertion (lit "x") 2)
      { sampleRoute with targetAgentKeyThumbprint := lit " " } := by
  refine ⟨⟨by decide +kernel, ?_⟩, by decide +kernel, ?_⟩
  · intro h
    obtain ⟨thumbprint, hgiv, -, rfl⟩ := h
    exact absurd hgiv (by decide)
  · intro h
    obtain ⟨thumbprint, -, hnamed, rfl⟩ := h
    exact absurd hnamed (by decide)

end SecureBinding.GatewayRoute
