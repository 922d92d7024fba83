import SecureBinding.IdentityPolicy.PolicySound
import SecureBinding.IdentityPolicy.SessionBinding
import SecureBinding.Lib.Cut

/-!
# IdentityPolicy.SessionBindingSound

What the checks of `SecureBinding.IdentityPolicy.SessionBinding` accept, and for
how long the assertion they build is accepted afterwards.

`Authorizes` is the source-of-authority relation between a grant and a statement;
`sessionBindingErrors_eq_nil_iff` says that the checks pass exactly when it holds.
The assertion carries the binding of the statement, and with it the lifetime of
the statement only.
-/

namespace SecureBinding.IdentityPolicy

open Go

/-! ### Strings -/

/-- A required string is given and valid. -/
structure Given (value : GoString) : Prop where
  notBlank : isBlank value = false
  valid : validateValue value = none

variable {value : GoString} {field : Field} {now : Time}

theorem checkString_eq_none_iff {missing : Sentinel} :
    checkString missing value = none ↔ Given value := by
  unfold checkString
  rw [ite_some_eq_none_iff]
  constructor
  · rintro ⟨hb, hv⟩
    exact ⟨by simpa using hb, hv⟩
  · intro h
    exact ⟨by simp [h.notBlank], h.valid⟩

@[simp] theorem validateExpectedString_eq_nil_iff {layer : Layer} :
    validateExpectedString layer field value = [] ↔ Given value := by
  rw [validateExpectedString, report_eq_nil_iff, checkString_eq_none_iff]

@[simp] theorem validateObservedString_eq_nil_iff {layer : Layer} :
    validateObservedString layer field value = [] ↔ Given value := by
  rw [validateObservedString, report_eq_nil_iff, checkString_eq_none_iff]

@[simp] theorem validateBindingString_eq_nil_iff :
    validateBindingString field value = [] ↔ Given value := by
  rw [validateBindingString, report_eq_nil_iff, checkString_eq_none_iff]

theorem checkOptional_eq_none_iff {check : GoString → Option Sentinel} :
    checkOptional check value = none ↔ (isBlank value = false → check value = none) := by
  unfold checkOptional
  split <;> simp_all

@[simp] theorem elseCheck_eq_nil_iff {errs next : List ValidationError} :
    elseCheck errs next = [] ↔ errs = [] ∧ next = [] := by
  unfold elseCheck
  split <;> simp_all

@[simp] theorem validateAgreement_eq_nil_iff {want got : GoString} :
    validateAgreement field want got = [] ↔ Given got ∧ want = got := by
  unfold validateAgreement
  simp

/-! ### Grants -/

/-- A set of a grant: not too many values, each of them valid or blank. -/
structure SetWellFormed (values : List GoString) : Prop where
  bound : values.length ≤ maxSetValues
  each : ∀ v ∈ values, isBlank v = false → validateValue v = none

theorem validateGrantSet_eq_nil_iff {values : List GoString} :
    validateGrantSet field values = [] ↔ SetWellFormed values := by
  unfold validateGrantSet
  split
  · rename_i hlong
    simp only [reduceCtorEq, false_iff]
    intro h
    exact absurd h.bound (by omega)
  · rename_i hsh
    simp only [List.flatMap_eq_nil_iff, report_eq_nil_iff, checkOptional_eq_none_iff]
    exact ⟨fun h => ⟨by omega, h⟩, fun h => h.each⟩

/-- The values of a grant are well formed. -/
structure ValuesWellFormed (values : Values) : Prop where
  fields : ∀ f ∈ grantFields,
    isBlank (f.get values) = false → validateFieldValue f.name (f.get values) = none
  sets : ∀ s ∈ setsL6, SetWellFormed (s.get values)

theorem validateGrantValues_eq_nil_iff {values : Values} :
    validateGrantValues values = [] ↔ ValuesWellFormed values := by
  unfold validateGrantValues
  simp only [List.append_eq_nil_iff, List.flatMap_eq_nil_iff, report_eq_nil_iff,
    checkOptional_eq_none_iff, validateGrantSet_eq_nil_iff]
  exact ⟨fun h => ⟨h.1, h.2⟩, fun h => ⟨h.fields, h.sets⟩⟩

namespace VerifiedGrant

/-- The keys a grant authorises to sign session bindings. -/
def Authorized (g : VerifiedGrant) (key : GoString) : Prop :=
  key = g.confirmationKey ∨ key = g.values.agentPublicKey ∨ key ∈ g.authorizedEndpointKeys

theorem allowsBindingKey_iff {g : VerifiedGrant} {key : GoString} :
    g.allowsBindingKey key = true ↔ isBlank key = false ∧ g.Authorized key := by
  simp [allowsBindingKey, Authorized, or_assoc]

/-- An authorised key that is not blank shows that the grant has a binding key. -/
theorem hasBindingKey_of_authorized {g : VerifiedGrant} {key : GoString}
    (hb : isBlank key = false) (h : g.Authorized key) : g.hasBindingKey = true := by
  unfold hasBindingKey
  rcases h with rfl | rfl | h
  · simp [hb]
  · simp [hb]
  · have : (g.authorizedEndpointKeys.any fun key => !isBlank key) = true :=
      List.any_eq_true.mpr ⟨key, h, by simp [hb]⟩
    simp [this]

end VerifiedGrant

/-! ### Statements -/

/-- The binding of a statement names the session completely, and is live. -/
structure BindingComplete (binding : Binding) (now : Time) : Prop where
  fields : ∀ f ∈ requiredBindingFields, Given (f.get binding)
  attestation : binding.attestationBinderSHA256 ≠ [] → Given binding.attestationBinderSHA256
  live : Live binding.issuedAt binding.expiresAt now

theorem validateStatementBinding_eq_nil_iff {binding : Binding} :
    validateStatementBinding binding now = [] ↔ BindingComplete binding now := by
  unfold validateStatementBinding
  simp only [List.append_eq_nil_iff, List.flatMap_eq_nil_iff, ite_nil_eq_nil_iff,
    validateBindingString_eq_nil_iff, lifetimeErrors_eq_nil_iff]
  exact ⟨fun h => ⟨h.1.1, h.1.2, h.2⟩, fun h => ⟨⟨h.fields, h.attestation⟩, h.live⟩⟩

/-- The signer of a statement is given, authorised by the grant, and not its
issuer. -/
structure SignerAuthorized (grant : VerifiedGrant) (signerKey : GoString) : Prop where
  given : Given signerKey
  authorized : grant.Authorized signerKey
  separate : grant.issuerKey ≠ [] → signerKey ≠ grant.issuerKey

theorem validateSignerKey_eq_nil_iff {grant : VerifiedGrant} {signerKey : GoString} :
    validateSignerKey grant signerKey = [] ↔ SignerAuthorized grant signerKey := by
  unfold validateSignerKey
  rw [elseCheck_eq_nil_iff, validateObservedString_eq_nil_iff]
  constructor
  · rintro ⟨hgiv, h⟩
    by_cases hallow : grant.allowsBindingKey signerKey = true
    · rw [if_neg (by simp [hallow]), ite_nil_eq_nil_iff] at h
      exact ⟨hgiv, (VerifiedGrant.allowsBindingKey_iff.mp hallow).2,
        fun hne heq => by simpa using h ⟨hne, heq⟩⟩
    · rw [if_pos (by simpa using hallow)] at h
      simp at h
  · intro h
    have hallow : grant.allowsBindingKey signerKey = true :=
      VerifiedGrant.allowsBindingKey_iff.mpr ⟨h.given.notBlank, h.authorized⟩
    refine ⟨h.given, ?_⟩
    rw [if_neg (by simp [hallow]), if_neg fun hx => h.separate hx.1 hx.2]

/-- The statement is authorised by the grant at time `now`: it names this grant and
its audience, an authorised key other than the issuer's signed it, both are well
formed and both are live. -/
structure Authorizes (grant : VerifiedGrant) (statement : VerifiedSessionBindingStatement)
    (now : Time) : Prop where
  issuer : Given grant.issuer
  audience : Given grant.audience
  grantHash : Given grant.grantHash
  sameGrant : grant.grantHash = statement.grantHash
  sameAudience : grant.audience = statement.audience
  signer : SignerAuthorized grant statement.signerKey
  values : ValuesWellFormed grant.values
  endpointKeys : SetWellFormed grant.authorizedEndpointKeys
  grantLive : Live grant.issuedAt grant.expiresAt now
  binding : BindingComplete statement.binding now

/-- The checks pass exactly when the grant authorises the statement. -/
theorem sessionBindingErrors_eq_nil_iff {grant : VerifiedGrant}
    {statement : VerifiedSessionBindingStatement} :
    sessionBindingErrors grant statement now = [] ↔ Authorizes grant statement now := by
  unfold sessionBindingErrors
  simp only [List.append_eq_nil_iff, validateExpectedString_eq_nil_iff,
    validateAgreement_eq_nil_iff, validateSignerKey_eq_nil_iff, ite_nil_eq_nil_iff,
    validateGrantValues_eq_nil_iff, validateAuthorizedEndpointKeys, validateGrantSet_eq_nil_iff,
    validateGrantLifetime, lifetimeErrors_eq_nil_iff, validateStatementBinding_eq_nil_iff]
  constructor
  · rintro ⟨⟨⟨⟨⟨⟨⟨⟨⟨⟨hi, ha⟩, hg⟩, hsg⟩, hsa⟩, hs⟩, -⟩, hv⟩, he⟩, hl⟩, hb⟩
    exact ⟨hi, ha, hg, hsg.2, hsa.2, hs, hv, he, hl, hb⟩
  · intro h
    have hkey : ¬((!grant.hasBindingKey) = true) := by
      simp [VerifiedGrant.hasBindingKey_of_authorized h.signer.given.notBlank
        h.signer.authorized]
    exact ⟨⟨⟨⟨⟨⟨⟨⟨⟨⟨h.issuer, h.audience⟩, h.grantHash⟩, h.sameGrant ▸ h.grantHash, h.sameGrant⟩,
      h.sameAudience ▸ h.audience, h.sameAudience⟩, h.signer⟩, fun hx => absurd hx hkey⟩,
      h.values⟩, h.endpointKeys⟩, h.grantLive⟩, h.binding⟩

/-! ### Assertions -/

section WithCache

variable {σ : Type} {grant : VerifiedGrant} {statement : VerifiedSessionBindingStatement}
  {opts : SessionBindingOptions σ} {w w' : σ}

/-- With a cache, `MarkSessionBindingUsed` is `MarkUsed` with its error wrapped. -/
theorem markSessionBindingUsed_some {cache : ReplayCache σ} :
    markSessionBindingUsed (some cache) statement w =
      ((cache.markUsed (replayKey statement) statement.binding.expiresAt w).1.map
          (.validation .sessionBinding .nonce),
        (cache.markUsed (replayKey statement) statement.binding.expiresAt w).2) := by
  simp only [markSessionBindingUsed]
  rcases cache.markUsed (replayKey statement) statement.binding.expiresAt w with ⟨_ | err, w'⟩ <;>
    rfl

/-- The statement is accepted exactly when the grant authorises it and the replay
cache records its use. -/
theorem validateSessionBindingStatement_eq_none_iff :
    validateSessionBindingStatementWithOptions grant statement opts w = (none, w') ↔
      Authorizes grant statement opts.now ∧
        markSessionBindingUsed opts.replayCache statement w = (none, w') := by
  unfold validateSessionBindingStatementWithOptions
  rw [← sessionBindingErrors_eq_nil_iff]
  cases sessionBindingErrors grant statement opts.now <;> simp

/-- An assertion takes its issuer and values from the grant and its binding from
the statement. -/
theorem newAssertion_ok_iff {a : Assertion} :
    newAssertionFromSessionBindingWithOptions grant statement opts w = (.ok a, w') ↔
      Authorizes grant statement opts.now ∧
        markSessionBindingUsed opts.replayCache statement w = (none, w') ∧
        a = ⟨grant.issuer, grant.values, statement.binding⟩ := by
  unfold newAssertionFromSessionBindingWithOptions
  rw [← and_assoc, ← validateSessionBindingStatement_eq_none_iff]
  rcases validateSessionBindingStatementWithOptions grant statement opts w with ⟨_ | err, w₁⟩
  · simp only [Prod.mk.injEq, Except.ok.injEq, true_and]
    exact ⟨fun h => ⟨h.2, h.1.symm⟩, fun h => ⟨h.2.symm, h.1⟩⟩
  · simp

/-! ### The lifetime of an assertion -/

/-- At time `t` neither the grant nor the statement has expired. -/
def WithinAuthority (grant : VerifiedGrant) (statement : VerifiedSessionBindingStatement)
    (t : Time) : Prop :=
  t ≤ grant.expiresAt ∧ t ≤ statement.binding.expiresAt

/-- Some policy and expected binding accept the assertion of a complete statement
at every time within the lifetime of the statement. -/
theorem exists_validateAssertion_eq_nil {issuer : GoString} {values : Values}
    {binding : Binding} {t : Time} (h : BindingComplete binding now)
    (hlive : Live binding.issuedAt binding.expiresAt t) :
    ∃ policy expected, validateAssertion policy ⟨issuer, values, binding⟩ expected t = [] := by
  have hnon : Given binding.nonce :=
    h.fields ⟨.nonce, Binding.nonce⟩ (by simp [requiredBindingFields])
  have hchk : validateBindingValue binding.nonce = none := by
    have hv := hnon.valid
    simp only [validateValue, ite_some_eq_none_iff] at hv
    simp [validateBindingValue, hv.2.1]
  -- The default policy requires no layer; expecting the nonce alone is enough.
  refine ⟨{}, { nonce := binding.nonce }, validateAssertion_eq_nil_iff.mpr ⟨⟨?_, ?_, hlive⟩, ?_⟩⟩
  · exact ⟨⟨.nonce, Binding.nonce⟩, by simp [bindingFields], hnon.notBlank⟩
  · simp [bindingFields, FieldMatches, isBlank, hchk]
  · exact validate_eq_nil_iff.mp rfl

/-- What is accepted later is live, so its time is bounded by the expiry of the
statement, or is the zero time that switches the time checks off. -/
theorem live_of_validateAssertion {policy : Policy} {a : Assertion} {expected : Binding}
    {t : Time} (h : validateAssertion policy a expected t = []) :
    Live a.binding.issuedAt a.binding.expiresAt t :=
  (validateAssertion_eq_nil_iff.mp h).1.live

/-- An assertion carries the expiry of its statement and not that of its grant. So
it stays within the authority of both exactly when the statement ends first, as far
as the statement can be accepted from `opts.now` on; a zero time, which
switches the checks off, must be within both as well. -/
theorem assertion_within_authority_iff {a : Assertion}
    (h : newAssertionFromSessionBindingWithOptions grant statement opts w = (.ok a, w')) :
    (∀ policy expected t, opts.now ≤ t → validateAssertion policy a expected t = [] →
        WithinAuthority grant statement t) ↔
      (opts.now ≤ statement.binding.expiresAt → (statement.binding.issuedAt = 0 ∨
            statement.binding.issuedAt ≤ statement.binding.expiresAt) →
          statement.binding.expiresAt ≤ grant.expiresAt) ∧
        (opts.now ≤ 0 → WithinAuthority grant statement 0) := by
  obtain ⟨hauth, -, rfl⟩ := newAssertion_ok_iff.mp h
  have hset := hauth.binding.live.expirySet
  constructor
  · intro hall
    refine ⟨fun hnow hiss => ?_, fun hnow => ?_⟩
    · -- The statement's own expiry is the last time the assertion is accepted at.
      have hlive : Live statement.binding.issuedAt statement.binding.expiresAt
          statement.binding.expiresAt :=
        ⟨hset, fun _ => le_rfl, fun hne _ => hiss.resolve_left hne⟩
      obtain ⟨policy, expected, hok⟩ := exists_validateAssertion_eq_nil hauth.binding hlive
      exact (hall policy expected _ hnow hok).1
    · have hlive : Live statement.binding.issuedAt statement.binding.expiresAt 0 :=
        ⟨hset, fun h => absurd rfl h, fun _ h => absurd rfl h⟩
      obtain ⟨policy, expected, hok⟩ := exists_validateAssertion_eq_nil hauth.binding hlive
      exact hall policy expected 0 hnow hok
  · rintro ⟨hle, hzero⟩ policy expected t hnow hok
    have hlive := live_of_validateAssertion hok
    by_cases ht : t = 0
    · subst ht
      exact hzero hnow
    · have hexp := hlive.notExpired ht
      refine ⟨le_trans hexp (hle (le_trans hnow hexp) ?_), hexp⟩
      by_cases hiss : statement.binding.issuedAt = 0
      · exact .inl hiss
      · exact .inr (le_trans (hlive.notFuture hiss ht) hexp)

end WithCache

/-- A grant that ends at time `10`. -/
def shortGrant : VerifiedGrant where
  issuer := lit "manager"
  issuerKey := lit "manager-1"
  audience := lit "peer"
  grantHash := lit "sha256:00"
  confirmationKey := lit "agent-1"
  expiresAt := 10

/-- A statement for `shortGrant` that ends at time `expiresAt`. -/
def statementUntil (expiresAt : Time) : VerifiedSessionBindingStatement where
  grantHash := lit "sha256:00"
  audience := lit "peer"
  signerKey := lit "agent-1"
  binding :=
    { leafPublicKeySHA256 := lit "aa", tlsExporterSHA256 := lit "bb",
      requestContextSHA256 := lit "cc", nonce := lit "n", expiresAt := expiresAt }

/-- The assertion of `shortGrant` and a statement until time `20` is still accepted
at time `15`, after the grant has expired. -/
theorem assertion_outlives_grant :
    newAssertionFromSessionBindingWithOptions shortGrant (statementUntil 20)
        { now := 5 : SessionBindingOptions Unit } () =
      (.ok ⟨lit "manager", {}, (statementUntil 20).binding⟩, ()) ∧
    validateAssertion {} ⟨lit "manager", {}, (statementUntil 20).binding⟩
        { tlsExporterSHA256 := lit "bb", nonce := lit "n" } 15 = [] ∧
    ¬WithinAuthority shortGrant (statementUntil 20) 15 := by
  refine ⟨by decide, by decide, ?_⟩
  simp [WithinAuthority, shortGrant]

/-- With a statement that ends before its grant the condition holds, and so does the
law. -/
theorem assertion_within_authority_of_earlier_statement :
    newAssertionFromSessionBindingWithOptions shortGrant (statementUntil 8)
        { now := 5 : SessionBindingOptions Unit } () =
      (.ok ⟨lit "manager", {}, (statementUntil 8).binding⟩, ()) ∧
    ∀ policy expected t, (5 : Time) ≤ t →
      validateAssertion policy ⟨lit "manager", {}, (statementUntil 8).binding⟩ expected t = [] →
      WithinAuthority shortGrant (statementUntil 8) t :=
  have h : newAssertionFromSessionBindingWithOptions shortGrant (statementUntil 8)
      { now := 5 : SessionBindingOptions Unit } () =
        (.ok ⟨lit "manager", {}, (statementUntil 8).binding⟩, ()) := by decide
  ⟨h, (assertion_within_authority_iff h).mpr
    ⟨fun _ _ => by decide, fun h => absurd h (by decide)⟩⟩

/-! ### Replay keys -/

/-- NUL is a control rune. -/
theorem nul_notMem_of_given (h : Given value) : 0 ∉ value := by
  have hval : hasUnsafeRune value = false := by
    obtain ⟨-, hsafe⟩ := ite_some_eq_none_iff.mp h.valid
    have hsafe := (ite_some_eq_none_iff.mp hsafe).1
    simp only [isUnsafe, Bool.not_eq_true, Bool.or_eq_false_iff] at hsafe
    exact hsafe.2
  clear h
  induction value with
  | nil => exact List.not_mem_nil
  | cons a value ih =>
    simp only [hasUnsafeRune, Bool.or_eq_false_iff] at hval
    obtain ⟨⟨⟨hcontrol, -⟩, -⟩, hrest⟩ := hval
    intro hmem
    obtain rfl | hmem := List.mem_cons.mp hmem
    · cases value <;> cases hcontrol
    · exact ih hrest hmem

/-- The parts of a replay key are kept apart by NUL, which is in none of the parts that an
accepted statement can have. -/
theorem replayKey_identifies {σ τ : Type} {grant grant' : VerifiedGrant}
    {statement statement' : VerifiedSessionBindingStatement} {opts : SessionBindingOptions σ}
    {opts' : SessionBindingOptions τ} {w w₁ : σ} {v v₁ : τ}
    (h : validateSessionBindingStatementWithOptions grant statement opts w = (none, w₁))
    (h' : validateSessionBindingStatementWithOptions grant' statement' opts' v = (none, v₁))
    (hkey : replayKey statement = replayKey statement') :
    statement.grantHash = statement'.grantHash ∧ statement.audience = statement'.audience ∧
      statement.binding.tlsExporterSHA256 = statement'.binding.tlsExporterSHA256 ∧
      statement.binding.requestContextSHA256 = statement'.binding.requestContextSHA256 ∧
      statement.binding.nonce = statement'.binding.nonce := by
  have ha := (validateSessionBindingStatement_eq_none_iff.mp h).1
  have ha' := (validateSessionBindingStatement_eq_none_iff.mp h').1
  have hfld : ∀ f ∈ requiredBindingFields, 0 ∉ f.get statement.binding :=
    fun f hf => nul_notMem_of_given (ha.binding.fields f hf)
  have hfld' : ∀ f ∈ requiredBindingFields, 0 ∉ f.get statement'.binding :=
    fun f hf => nul_notMem_of_given (ha'.binding.fields f hf)
  simp only [requiredBindingFields, List.forall_mem_cons] at hfld hfld'
  obtain ⟨-, hexpr, hctx, -⟩ := hfld
  obtain ⟨-, hexpr', hctx', -⟩ := hfld'
  have hgr := nul_notMem_of_given (ha.sameGrant ▸ ha.grantHash)
  have hgr' := nul_notMem_of_given (ha'.sameGrant ▸ ha'.grantHash)
  have haud := nul_notMem_of_given (ha.sameAudience ▸ ha.audience)
  have haud' := nul_notMem_of_given (ha'.sameAudience ▸ ha'.audience)
  simp only [replayKey, List.append_assoc] at hkey
  obtain ⟨hg, hkey⟩ := Lib.append_cons_inj hgr hgr' hkey
  obtain ⟨ha, hkey⟩ := Lib.append_cons_inj haud haud' hkey
  obtain ⟨he, hkey⟩ := Lib.append_cons_inj hexpr hexpr' hkey
  obtain ⟨hc, hn⟩ := Lib.append_cons_inj hctx hctx' hkey
  exact ⟨hg, ha, he, hc, hn⟩

/-- Statements that end at different times may have one key. -/
theorem replayKey_of_two_statements :
    replayKey (statementUntil 8) = replayKey (statementUntil 9) ∧
      (statementUntil 8).binding.nonce = (statementUntil 9).binding.nonce :=
  have h : ∀ t ∈ [8, 9], validateSessionBindingStatementWithOptions shortGrant (statementUntil t)
      ({} : SessionBindingOptions Unit) () = (none, ()) := by decide
  have hidentified := replayKey_identifies (h 8 (by decide)) (h 9 (by decide)) rfl
  ⟨rfl, hidentified.2.2.2.2⟩

end SecureBinding.IdentityPolicy
