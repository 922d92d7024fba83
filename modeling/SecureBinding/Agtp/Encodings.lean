import SecureBinding.Agtp.CWT

/-!
# Agtp.Encodings

When a JWT and a CWT carry the same claims.

`pkg/agtp` reads the claims of its JWT profile with `encoding/json` into a struct and
those of its CWT profile out of a decoded CBOR map. This module says when such a map
has the claims of such a struct: `HoldsString`, `HoldsTime`, `HoldsStrings`,
`HoldsAudience` and `HoldsConfirmation` for one claim each, `SameRegistered`,
`SameGrantClaims` and `SameBindingClaims` for whole claim sets.

For each kind of claim one lemma says that the reader of the CWT profile returns what
the struct has; from these, the grants and statements the two profiles make of the same
claims agree (`cwtGrantOf_eq`, `cwtStatementOf_eq`), and so do their checks.
-/

namespace SecureBinding.Agtp

open Go IdentityPolicy
open JWT (Claims VerifyOptions grantOf grantValues statementOf bindingOf claimTime
  requireSessionBindingFields)

/-! ### One claim -/

/-- A text claim; the empty text may be left out. -/
inductive HoldsString : Option Value → GoString → Prop
  | absent : HoldsString none []
  | str (s : GoString) : HoldsString (some (.str s)) s

/-- A time claim in whole seconds, of any of the integer types a decoder produces. -/
inductive HoldsTime : Option Value → Option Time → Prop
  | absent : HoldsTime none none
  | int (n : Int) : HoldsTime (some (.int n)) (some (Time.unix n))
  | int64 (n : Int) : HoldsTime (some (.int64 n)) (some (Time.unix n))
  | uint64 (n : Nat) (h : n ≤ 2 ^ 63 - 1) : HoldsTime (some (.uint64 n)) (some (Time.unix n))

/-- A claim that is a list of texts; the empty list may be left out. -/
inductive HoldsStrings : Option Value → List GoString → Prop
  | absent : HoldsStrings none []
  | strs (ss : List GoString) : HoldsStrings (some (.strs ss)) ss
  | arr (ss : List GoString) : HoldsStrings (some (.arr (ss.map .str))) ss

/-- An audience: a text, or a list of texts. -/
inductive HoldsAudience : Option Value → List GoString → Prop
  | single (s : GoString) : HoldsAudience (some (.str s)) [s]
  | list {value : Option Value} {ss : List GoString} (h : HoldsStrings value ss) :
    HoldsAudience value ss

/-- A confirmation claim with its key id. -/
inductive HoldsConfirmation : Option Value → GoString → Prop
  | absent : HoldsConfirmation none []
  | map (cnf : ClaimMap) {keyID : GoString}
    (h : HoldsString (cwtClaimValue cnf (.str (lit "kid"))) keyID) :
    HoldsConfirmation (some (.map cnf)) keyID
  | strMap (cnf : List (GoString × Value)) {keyID : GoString}
    (h : HoldsString (cnf.lookup (lit "kid")) keyID) :
    HoldsConfirmation (some (.strMap cnf)) keyID

/-- The map has the text under the label. -/
abbrev TextAt (m : ClaimMap) (key : Label) (s : GoString) : Prop :=
  HoldsString (cwtClaimValue m key) s

/-- The map has the text under the name. -/
abbrev TextNamed (m : ClaimMap) (name : String) (s : GoString) : Prop :=
  TextAt m (.str (lit name)) s

/-- The map has the list of texts under the name. -/
abbrev ListNamed (m : ClaimMap) (name : String) (ss : List GoString) : Prop :=
  HoldsStrings (cwtClaimValue m (.str (lit name))) ss

/-! ### The relations computed -/

def textOf : Value → Option GoString
  | .str s => some s
  | _ => none

def timeOf : Value → Option Time
  | .int n => some (Time.unix n)
  | .int64 n => some (Time.unix n)
  | .uint64 n => if n ≤ 2 ^ 63 - 1 then some (Time.unix n) else none
  | _ => none

def textsOf : Value → Option (List GoString)
  | .strs ss => some ss
  | .arr vs => vs.mapM textOf
  | _ => none

/-- Where a confirmation claim has its key id. -/
def keyIDValue : Value → Option (Option Value)
  | .map cnf => some (cwtClaimValue cnf (.str (lit "kid")))
  | .strMap cnf => some (cnf.lookup (lit "kid"))
  | _ => none

section Compute

variable {v : Value} {value : Option Value} {s : GoString} {ss : List GoString}

theorem textOf_eq_some_iff : textOf v = some s ↔ v = .str s := by
  cases v <;> simp [textOf]

theorem mapM_textOf_eq_some_iff {vs : List Value} :
    vs.mapM textOf = some ss ↔ vs = ss.map Value.str := by
  induction vs generalizing ss with
  | nil => simp [eq_comm]
  | cons v vs ih =>
    simp only [List.mapM_cons, Option.bind_eq_bind, Option.bind_eq_some_iff, Option.pure_def,
      Option.some.injEq, textOf_eq_some_iff, ih]
    constructor
    · intro h
      obtain ⟨s, rfl, ss', rfl, rfl⟩ := h
      rfl
    · intro h
      cases ss with
      | nil => simp at h
      | cons s ss =>
        obtain ⟨rfl, rfl⟩ := List.cons.inj h
        exact ⟨s, rfl, ss, rfl, rfl⟩

theorem holdsString_none_iff : HoldsString none s ↔ s = [] :=
  ⟨fun h => by cases h; rfl, fun h => h ▸ .absent⟩

theorem holdsString_some_iff : HoldsString (some v) s ↔ textOf v = some s := by
  rw [textOf_eq_some_iff]
  exact ⟨fun h => by cases h; rfl, fun h => h ▸ .str s⟩

theorem holdsTime_none_iff {t : Option Time} : HoldsTime none t ↔ t = none :=
  ⟨fun h => by cases h; rfl, fun h => h ▸ .absent⟩

theorem holdsTime_some_iff {t : Option Time} :
    HoldsTime (some v) t ↔ t.isSome = true ∧ timeOf v = t := by
  constructor
  · intro h
    cases h with
    | int n => exact ⟨rfl, rfl⟩
    | int64 n => exact ⟨rfl, rfl⟩
    | uint64 n hn => exact ⟨rfl, if_pos hn⟩
  · intro h
    obtain ⟨hsome, rfl⟩ := h
    cases v with
    | int n => exact .int n
    | int64 n => exact .int64 n
    | uint64 n =>
      by_cases hn : n ≤ 2 ^ 63 - 1
      · rw [timeOf, if_pos hn]
        exact .uint64 n hn
      · rw [timeOf, if_neg hn] at hsome
        cases hsome
    | _ => cases hsome

theorem holdsStrings_none_iff : HoldsStrings none ss ↔ ss = [] :=
  ⟨fun h => by cases h; rfl, fun h => h ▸ .absent⟩

theorem holdsStrings_some_iff : HoldsStrings (some v) ss ↔ textsOf v = some ss := by
  constructor
  · intro h
    cases h with
    | strs => rfl
    | arr => exact mapM_textOf_eq_some_iff.mpr rfl
  · intro h
    cases v with
    | strs ss' => exact Option.some.inj h ▸ .strs ss'
    | arr vs => exact mapM_textOf_eq_some_iff.mp h ▸ .arr ss
    | _ => cases h

theorem holdsAudience_iff :
    HoldsAudience value ss ↔ (value.bind textOf).map (fun s => [s]) = some ss ∨
      HoldsStrings value ss := by
  constructor
  · intro h
    cases h with
    | single s => exact .inl rfl
    | list h => exact .inr h
  · intro h
    cases h with
    | inl h =>
      obtain ⟨s, hs, rfl⟩ := Option.map_eq_some_iff.mp h
      obtain ⟨v, rfl, hv⟩ := Option.bind_eq_some_iff.mp hs
      rw [textOf_eq_some_iff.mp hv]
      exact .single s
    | inr h => exact .list h

instance : (value : Option Value) → Decidable (HoldsString value s)
  | none => decidable_of_iff' _ holdsString_none_iff
  | some _ => decidable_of_iff' _ holdsString_some_iff

instance {t : Option Time} : (value : Option Value) → Decidable (HoldsTime value t)
  | none => decidable_of_iff' _ holdsTime_none_iff
  | some _ => decidable_of_iff' _ holdsTime_some_iff

instance : (value : Option Value) → Decidable (HoldsStrings value ss)
  | none => decidable_of_iff' _ holdsStrings_none_iff
  | some _ => decidable_of_iff' _ holdsStrings_some_iff

instance : Decidable (HoldsAudience value ss) := decidable_of_iff' _ holdsAudience_iff

theorem holdsConfirmation_none_iff : HoldsConfirmation none s ↔ s = [] :=
  ⟨fun h => by cases h; rfl, fun h => h ▸ .absent⟩

theorem holdsConfirmation_some_iff :
    HoldsConfirmation (some v) s ↔
      ((keyIDValue v).any fun inner => decide (HoldsString inner s)) = true := by
  rw [Option.any_eq_true]
  constructor
  · intro h
    cases h with
    | map cnf h | strMap cnf h => exact ⟨_, rfl, decide_eq_true h⟩
  · intro h
    obtain ⟨inner, hinner, h⟩ := h
    have hholds := of_decide_eq_true h
    cases v with
    | map cnf => exact .map cnf (Option.some.inj hinner ▸ hholds)
    | strMap cnf => exact .strMap cnf (Option.some.inj hinner ▸ hholds)
    | _ => cases hinner

instance : (value : Option Value) → Decidable (HoldsConfirmation value s)
  | none => decidable_of_iff' _ holdsConfirmation_none_iff
  | some _ => decidable_of_iff' _ holdsConfirmation_some_iff

end Compute

section Readers

variable {m : ClaimMap} {key : Label} {name : String} {s : GoString} {ss : List GoString}

theorem cwtStringClaimOrEmpty_eq (h : HoldsString (cwtClaimValue m key) s) :
    cwtStringClaimOrEmpty m key = s := by
  rw [cwtStringClaimOrEmpty, cwtStringClaim]
  generalize cwtClaimValue m key = value at h
  cases h <;> rfl

theorem namedClaim_eq (h : TextNamed m name s) : namedClaim m name = s := cwtStringClaimOrEmpty_eq h

/-- The issuer is compared in its trimmed form. An issuer that is left out never matches,
since the expected one is not blank. -/
theorem cwtIssuer_matches_iff {expected : GoString}
    (h : HoldsString (cwtClaimValue m key) s) (hexpected : isBlank expected = false) :
    (cwtStringClaim m key).map trimSpace = some expected ↔ trimSpace s = expected := by
  rw [cwtStringClaim]
  generalize cwtClaimValue m key = value at h
  cases h with
  | absent =>
    have hne : ¬trimSpace [] = expected := by
      intro heq
      rw [← heq] at hexpected
      exact absurd hexpected (by decide)
    simpa using hne
  | str s => simp [cwtStringValue]

theorem cwtTimeClaim_eq {t : Option Time} (h : HoldsTime (cwtClaimValue m key) t) :
    cwtTimeClaim m key = t := by
  rw [cwtTimeClaim]
  generalize cwtClaimValue m key = value at h
  cases h with
  | absent => rfl
  | int n => rfl
  | int64 n => rfl
  | uint64 n hn => exact if_neg (Nat.not_lt.mpr hn)

theorem filterMap_cwtStringValue : (ss.map Value.str).filterMap cwtStringValue = ss := by
  rw [List.filterMap_map]
  exact List.filterMap_some

theorem namedClaims_eq (h : HoldsStrings (cwtClaimValue m (.str (lit name))) ss) :
    namedClaims m name = ss := by
  rw [namedClaims, cwtStringSliceClaim]
  generalize cwtClaimValue m (.str (lit name)) = value at h
  cases h with
  | absent => rfl
  | strs ss => rfl
  | arr ss => exact filterMap_cwtStringValue

theorem cwtAudienceMatches_iff {audience : List GoString} {expected : GoString}
    (h : HoldsAudience (cwtClaimValue m cwtClaimAudience) audience) :
    cwtAudienceMatches m expected = true ↔ expected ∈ audience := by
  rw [cwtAudienceMatches]
  generalize cwtClaimValue m cwtClaimAudience = value at h
  cases h with
  | single s =>
    show (s == expected) = true ↔ _
    rw [List.mem_singleton, beq_iff_eq, eq_comm]
  | list h =>
    cases h with
    | absent => simp
    | strs => simp [cwtStringValue]
    | arr =>
      show ((audience.map Value.str).any fun item => cwtStringValue item == some expected) = true ↔ _
      simp [cwtStringValue]

/-- Where the reader looks for the confirmation claim. -/
def confirmationValue (m : ClaimMap) : Option Value :=
  (cwtClaimValue m cwtClaimConfirmation).or (cwtClaimValue m (.str (lit "cnf")))

theorem cwtConfirmationKey_eq (h : HoldsConfirmation (confirmationValue m) s) :
    cwtConfirmationKey m = s := by
  rw [cwtConfirmationKey, ← confirmationValue]
  generalize confirmationValue m = value at h
  cases h with
  | absent => rfl
  | map cnf h => exact cwtStringClaimOrEmpty_eq h
  | strMap cnf h =>
    dsimp only
    generalize cnf.lookup (lit "kid") = inner at h
    cases h <;> rfl

end Readers

/-! ### Claim sets -/

/-- The label of the claim `nbf`, which `pkg/agtp` never looks up. -/
def cwtClaimNotBefore : Label := .int64 5

def valueTexts : List (String × (Claims → GoString)) :=
  [("service", fun c => c.values.service), ("tenant", fun c => c.values.tenant),
    ("deployment", fun c => c.values.deployment), ("environment", fun c => c.values.environment),
    ("workload", fun c => c.values.workload), ("agent", fun c => c.values.agent),
    ("agent_public_key", fun c => c.values.agentPublicKey),
    ("computation_id", fun c => c.values.computationID), ("task_id", fun c => c.values.taskID),
    ("thread_id", fun c => c.values.threadID),
    ("delegation_id", fun c => c.values.delegationID),
    ("intent_ref", fun c => c.values.intentRef),
    ("capability_ref", fun c => c.values.capabilityRef),
    ("ontology_id", fun c => c.values.ontologyID), ("scope", Claims.scope),
    ("resource", Claims.resource)]

def valueLists : List (String × (Claims → List GoString)) :=
  [("scopes", fun c => c.values.scopes), ("resources", fun c => c.values.resources),
    ("authorization_details", fun c => c.values.authorizationDetails),
    ("authorized_endpoint_keys", Claims.endpointKeyIDs)]

/-- The names of the text claims of a session binding, its grant's hash apart. -/
def bindingTexts : List (String × (Claims → GoString)) :=
  [("leaf_public_key_sha256", Claims.leafKeySHA256), ("tls_exporter_sha256", Claims.tlsExporter),
    ("request_context_sha256", Claims.requestContext),
    ("attestation_binder_sha256", Claims.attestationBind), ("nonce", Claims.nonce)]

/-- The map has the registered claims of the struct, the subject apart. -/
structure SameStandard (c : JWT.RegisteredClaims) (m : ClaimMap) : Prop where
  issuer : TextAt m cwtClaimIssuer c.issuer
  audience : HoldsAudience (cwtClaimValue m cwtClaimAudience) c.audience
  expiresAt : HoldsTime (cwtClaimValue m cwtClaimExpirationTime) c.expiresAt
  notBefore : HoldsTime (cwtClaimValue m cwtClaimNotBefore) c.notBefore
  issuedAt : HoldsTime (cwtClaimValue m cwtClaimIssuedAt) c.issuedAt
  id : TextAt m cwtClaimCWTID c.id

/-- The map has the registered claims and the profile claims of the struct. -/
structure SameRegistered (c : Claims) (m : ClaimMap) : Prop where
  issuer : TextAt m cwtClaimIssuer c.issuer
  subject : TextAt m cwtClaimSubject c.subject
  audience : HoldsAudience (cwtClaimValue m cwtClaimAudience) c.audience
  expiresAt : HoldsTime (cwtClaimValue m cwtClaimExpirationTime) c.expiresAt
  notBefore : HoldsTime (cwtClaimValue m cwtClaimNotBefore) c.notBefore
  issuedAt : HoldsTime (cwtClaimValue m cwtClaimIssuedAt) c.issuedAt
  id : TextAt m cwtClaimCWTID c.id
  profileType : TextNamed m "profile_type" c.profileType
  profileVersion : TextNamed m "profile_version" c.profileVersion
  legacyType : TextNamed m "agtp_type" c.legacyType
  legacyVersion : TextNamed m "agtp_version" c.legacyVersion

theorem SameRegistered.standard {c : Claims} {m : ClaimMap} (h : SameRegistered c m) :
    SameStandard c.toRegisteredClaims m :=
  ⟨h.issuer, h.audience, h.expiresAt, h.notBefore, h.issuedAt, h.id⟩

/-- The map has the claims of the struct, both being those of a grant. -/
structure SameGrantClaims (c : Claims) (m : ClaimMap) : Prop extends SameRegistered c m where
  confirmation : HoldsConfirmation (confirmationValue m) c.confirmationKeyID
  texts : ∀ claim ∈ valueTexts, TextNamed m claim.1 (claim.2 c)
  lists : ∀ claim ∈ valueLists, ListNamed m claim.1 (claim.2 c)

/-- The map has the claims of the struct, both being those of a statement. The hash of a
grant is a hash of its token, so that statements for the two encodings of one grant do
not name the same hash: `grantHash` is the one the map has. -/
structure SameBindingClaims (c : Claims) (m : ClaimMap) (grantHash : GoString) : Prop
    extends SameRegistered c m where
  hash : TextNamed m "grant_hash" grantHash
  hashGiven : isBlank grantHash = isBlank c.grantHash
  texts : ∀ claim ∈ bindingTexts, TextNamed m claim.1 (claim.2 c)

section Same

variable {Key : Type} {c : Claims} {m : ClaimMap} {grantHash : GoString}

/-- The profile checks read nothing but the profile claims. -/
theorem validateProfileClaims_cwt (h : SameRegistered c m) (tokenType : GoString) :
    validateProfileClaims (cwtProfileClaims m) tokenType = validateProfileClaims c tokenType := by
  simp only [validateProfileClaims, cwtProfileClaims, namedClaim_eq h.profileType,
    namedClaim_eq h.profileVersion, namedClaim_eq h.legacyType, namedClaim_eq h.legacyVersion]

theorem cwtGrantValues_eq (h : SameGrantClaims c m) : cwtGrantValues m = grantValues c := by
  have hsub := cwtStringClaimOrEmpty_eq h.subject
  have htexts : ∀ claim ∈ valueTexts, namedClaim m claim.1 = claim.2 c :=
    fun claim hmem => namedClaim_eq (h.texts claim hmem)
  have hlists : ∀ claim ∈ valueLists, namedClaims m claim.1 = claim.2 c :=
    fun claim hmem => namedClaims_eq (h.lists claim hmem)
  simp only [valueTexts, valueLists, List.forall_mem_cons] at htexts hlists
  simp only [cwtGrantValues, grantValues, hsub, htexts, hlists]

/-- The two profiles make the same grant of the same claims, but for its hash: that is a
hash of the token, with a seed for each profile. -/
theorem cwtGrantOf_eq (h : SameGrantClaims c m) {sha256 : Bytes → Bytes} {jopts : VerifyOptions Key}
    {copts : CWTVerifyOptions Key} (haud : copts.expectedAudience = jopts.expectedAudience)
    (tokenString : GoString) (token : Bytes) (signerKey : GoString) :
    cwtGrantOf sha256 token copts m signerKey =
      { grantOf sha256 tokenString jopts c signerKey with
        grantHash := identityGrantCWTHash sha256 token } := by
  have hkeys : namedClaims m "authorized_endpoint_keys" = c.endpointKeyIDs :=
    namedClaims_eq (h.lists ("authorized_endpoint_keys", Claims.endpointKeyIDs)
      (by simp [valueLists]))
  simp only [cwtGrantOf, grantOf, claimTime, haud, cwtGrantValues_eq h, hkeys,
    cwtStringClaimOrEmpty_eq h.issuer, cwtConfirmationKey_eq h.confirmation,
    cwtTimeClaim_eq h.issuedAt, cwtTimeClaim_eq h.expiresAt]

theorem cwtBindingClaims_eq (h : SameBindingClaims c m grantHash) :
    cwtBindingClaims m =
      { grantHash, leafKeySHA256 := c.leafKeySHA256, tlsExporter := c.tlsExporter
        requestContext := c.requestContext, attestationBind := c.attestationBind
        nonce := c.nonce } := by
  have htexts : ∀ claim ∈ bindingTexts, namedClaim m claim.1 = claim.2 c :=
    fun claim hmem => namedClaim_eq (h.texts claim hmem)
  simp only [bindingTexts, List.forall_mem_cons] at htexts
  simp only [cwtBindingClaims, namedClaim_eq h.hash, htexts]

/-- A statement must have the same fields in both profiles. -/
theorem validateSessionBindingClaims_cwt (h : SameBindingClaims c m grantHash) :
    validateSessionBindingClaims (cwtBindingClaims m) = validateSessionBindingClaims c := by
  simp only [validateSessionBindingClaims, requireSessionBindingFields, cwtBindingClaims_eq h,
    h.hashGiven]

/-- The two profiles make the same statement of the same claims. -/
theorem cwtStatementOf_eq (h : SameBindingClaims c m grantHash) {jopts : VerifyOptions Key}
    {copts : CWTVerifyOptions Key} (haud : copts.expectedAudience = jopts.expectedAudience)
    (signerKey : GoString) :
    cwtStatementOf copts m signerKey = { statementOf jopts c signerKey with grantHash } := by
  simp only [cwtStatementOf, statementOf, bindingOf, claimTime, haud, cwtBindingClaims_eq h,
    cwtTimeClaim_eq h.issuedAt, cwtTimeClaim_eq h.expiresAt]

end Same

end SecureBinding.Agtp
