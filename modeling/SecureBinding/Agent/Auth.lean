import SecureBinding.Agent.Computation
import SecureBinding.Go.Crypto
import SecureBinding.Go.Encoding
import SecureBinding.Go.Time
import SecureBinding.Lib.Once
import SecureBinding.Lib.Transition

/-!
# Agent.Auth

The authenticator of signed agent requests (`agent/auth/auth.go`), and concurrent calls of
it.

`AuthenticateUser` reads the clock twice: `validateIssuedAt` compares a first reading with
the time of signing, and `markNonce` purges and searches the seen nonces with a second one.
It is modelled as two atomic steps: `authenticateUser` is everything up to the call of
`markNonce`, which holds the lock for the whole of its body. Between the two any number
of other calls may take steps and the clock may move forward.

The two comparisons meet at one instant. A request signed at `t` is fresh up to and
including `t + maxSignatureAge`, while its nonce is forgotten from that very instant on.
-/

namespace SecureBinding.Agent.Auth

open Go Go.Crypto

/-! ### The authenticator -/

/-- The role is a string, and callers may pass any. -/
abbrev UserRole := GoString

def signatureMetadataKey : GoString := lit "signature"

def signatureTimestampMetadataKey : GoString := lit "signature-timestamp"

def signatureNonceMetadataKey : GoString := lit "signature-nonce"

def signaturePayloadVersion : GoString := lit "agents-secure-binding-agent-auth-v1"

def maxSignatureAge : Duration := 5 * 60 * 1000000000

def maxSignatureFutureSkew : Duration := 60 * 1000000000

def consumerRole : UserRole := lit "consumer"

def dataProviderRole : UserRole := lit "data-provider"

def algorithmProviderRole : UserRole := lit "algorithm-provider"

inductive Error
  | missingMetadata
  /-- `ErrInvalidMetadata`, wrapped around the error that was met. -/
  | invalidMetadata (cause : GoString)
  | signatureVerificationFailed
  | signatureExpired
  | replayDetected

/-- What is used of Go's libraries beyond the primitives. -/
structure Library (V : Type) extends Primitives V where
  /-- `rsa.VerifyPKCS1v15` with SHA-256: key, digest, signature. -/
  verifyPKCS1v15 : Bytes → Bytes → Bytes → Bool
  /-- `x509.ParsePKIXPublicKey`. -/
  parsePKIXPublicKey : Bytes → Except GoString PublicKey
  /-- `time.Parse(time.RFC3339Nano, ·)`. -/
  parseTime : GoString → Except GoString Time

/-- The keys of the `service`; its mutex and its map are part of the state below. -/
structure Service where
  resultConsumers : List PublicKey := []
  datasetProviders : List PublicKey := []
  algorithmProvider : PublicKey

variable {V : Type}

def decodePublicKey : PublicKey → Except GoString PublicKey
  | .rsa key => .ok (.rsa key)
  | .ecdsa key => .ok (.ecdsa key)
  | .ed25519 key => .ok (.ed25519 key)
  | .other _ => .error (lit "unsupported public key type")

/-- One key of the manifest. -/
def userKey (lib : Library V) (der : Bytes) : Except GoString PublicKey :=
  lib.parsePKIXPublicKey der >>= decodePublicKey

def new (lib : Library V) (manifest : Computation) : Except GoString Service := do
  let resultConsumers ← manifest.resultConsumers.mapM (userKey lib)
  let datasetProviders ← manifest.datasets.toList.mapM fun dp => userKey lib dp.userKey
  let algorithmProvider ← userKey lib manifest.algorithm.userKey
  return { resultConsumers, datasetProviders, algorithmProvider }

/-- A `metadata.MD`, by the values `Get` finds. -/
abbrev MD := GoString → List GoString

def extractMetadataValue (md : MD) (key : GoString) : Except GoString GoString :=
  match md key with
  | [value] =>
    if value = [] then .error (lit "rpc error: code = Unauthenticated desc = invalid metadata")
    else .ok value
  | _ => .error (lit "rpc error: code = Unauthenticated desc = invalid metadata")

def extractSignature (md : MD) : Except GoString GoString :=
  extractMetadataValue md signatureMetadataKey

def signaturePayload (role : UserRole) (method issuedAt nonce : GoString) : Bytes :=
  signaturePayloadVersion ++ lit "\nrole=" ++ role ++ lit "\nmethod=" ++ method ++
    lit "\nissued_at=" ++ issuedAt ++ lit "\nnonce=" ++ nonce

/-- `verifySignature`; which error it returns is not looked at. -/
def verifySignature (lib : Library V) (role : UserRole)
    (method issuedAt nonce signature : GoString) (publicKey : PublicKey) : Bool :=
  let payload := signaturePayload role method issuedAt nonce
  let hash := lib.sha256 payload
  match base64StdDecode signature with
  | none => false
  | some sigByte =>
    match publicKey with
    | .rsa key => lib.verifyPKCS1v15 key hash sigByte
    | .ecdsa key => lib.verifyASN1 key hash sigByte
    | .ed25519 key => lib.verifyEd25519 key payload sigByte
    | .other _ => false

def validateIssuedAt (issuedAt now : Time) : Except Error Unit :=
  if issuedAt < now - maxSignatureAge ∨ now + maxSignatureFutureSkew < issuedAt then
    .error .signatureExpired
  else .ok ()

/-- The arguments of `AuthenticateUser`, with the metadata the context carries. -/
structure Request where
  role : UserRole
  method : GoString
  md : Option MD

/-- The context a call returns: nil, the incoming one, or that with the index of the
consumer in the manifest. -/
inductive Context
  | nil
  | incoming
  | indexed (index : Nat)

/-- What a call returns that does not return a nil error. -/
structure Refusal where
  ctx : Context
  err : Error

/-- A call that has found its key: the arguments of `markNonce`, and the context to
return after it. -/
structure Pending where
  role : UserRole
  method : GoString
  nonce : GoString
  expiresAt : Time
  ctx : Context

/-- The loops over the keys of a role, up to the first key that verifies. -/
def findKey (svc : Service) (role : UserRole) (verify : PublicKey → Bool) : Option Context :=
  if role = consumerRole then (svc.resultConsumers.findIdx? verify).map .indexed
  else if role = dataProviderRole then
    if svc.datasetProviders.any verify then some .incoming else none
  else if role = algorithmProviderRole then
    if verify svc.algorithmProvider then some .incoming else none
  else none

/-- An error wrapped with `ErrInvalidMetadata`. -/
def wrapInvalid {α : Type} : Except GoString α → Except Refusal α :=
  Except.mapError fun cause => ⟨.nil, .invalidMetadata cause⟩

/-- `AuthenticateUser` up to `markNonce`. -/
def authenticateUser (lib : Library V) (svc : Service) (req : Request) (now : Time) :
    Except Refusal Pending := do
  let md ← Lib.ofOption ⟨.nil, .missingMetadata⟩ req.md
  let signature ← wrapInvalid (extractSignature md)
  let issuedAt ← wrapInvalid (extractMetadataValue md signatureTimestampMetadataKey)
  let nonce ← wrapInvalid (extractMetadataValue md signatureNonceMetadataKey)
  let issuedAtTime ← wrapInvalid (lib.parseTime issuedAt)
  (validateIssuedAt issuedAtTime now).mapError fun err => ⟨.nil, err⟩
  let ctx ← Lib.ofOption ⟨.incoming, .signatureVerificationFailed⟩
    (findKey svc req.role (verifySignature lib req.role req.method issuedAt nonce signature))
  return ⟨req.role, req.method, nonce, issuedAtTime + maxSignatureAge, ctx⟩

/-- The key of `seenNonces`. -/
def Pending.key (p : Pending) : GoString := p.role ++ [0] ++ p.method ++ [0] ++ p.nonce

/-- The loop of `markNonce` that deletes what has expired. -/
def purge (now : Time) (seen : GoString → Option Time) (key : GoString) : Option Time :=
  (seen key).filter fun expires => expires.after now

def markNonce (p : Pending) (now : Time) (seen : GoString → Option Time) :
    Option Error × (GoString → Option Time) :=
  let seen := purge now seen
  if (seen p.key).any fun expires => expires.after now then (some .replayDetected, seen)
  else (none, Function.update seen p.key (some p.expiresAt))

/-- What a call returns after `markNonce`. -/
def Pending.result (p : Pending) : Option Error → Except Refusal Context
  | some err => .error ⟨.nil, err⟩
  | none => .ok p.ctx

/-! ### What a call is about -/

/-- The values a signature is made over. -/
structure Signed where
  role : UserRole
  method : GoString
  issuedAt : GoString
  nonce : GoString
  deriving Repr, DecidableEq

/-- The values a call carries. -/
def Request.signed (req : Request) : Option Signed := do
  let md ← req.md
  let issuedAt ← (extractMetadataValue md signatureTimestampMetadataKey).toOption
  let nonce ← (extractMetadataValue md signatureNonceMetadataKey).toOption
  return ⟨req.role, req.method, issuedAt, nonce⟩

/-- `p` is what `markNonce` is called with for `req`. -/
def Prepared (lib : Library V) (req : Request) (p : Pending) : Prop :=
  ∃ issuedAt issuedAtTime, req.signed = some ⟨p.role, p.method, issuedAt, p.nonce⟩ ∧
    lib.parseTime issuedAt = .ok issuedAtTime ∧ p.expiresAt = issuedAtTime + maxSignatureAge

variable {p : Pending}

/-- Calls that carry the same values use the same entry, with the same expiry. -/
theorem Prepared.entry_eq {lib : Library V} {req req' : Request} {p' : Pending}
    (h : Prepared lib req p) (h' : Prepared lib req' p') (hsame : req.signed = req'.signed) :
    p.key = p'.key ∧ p.expiresAt = p'.expiresAt := by
  obtain ⟨issuedAt, t, hsig, hpar, hexp⟩ := h
  obtain ⟨issuedAt', t', hsig', hpar', hexp'⟩ := h'
  have heq : (⟨p.role, p.method, issuedAt, p.nonce⟩ : Signed) =
      ⟨p'.role, p'.method, issuedAt', p'.nonce⟩ :=
    Option.some.inj (hsig.symm.trans (hsame.trans hsig'))
  simp only [Signed.mk.injEq] at heq
  obtain ⟨hrole, hmet, rfl, hnon⟩ := heq
  obtain rfl : t = t' := Except.ok.inj (hpar.symm.trans hpar')
  exact ⟨by simp only [Pending.key, hrole, hmet, hnon], hexp.trans hexp'.symm⟩

theorem wrapInvalid_ok_iff {α : Type} {x : Except GoString α} {a : α} :
    wrapInvalid x = .ok a ↔ x = .ok a :=
  Lib.mapError_ok_iff

/-- What is known of a call that gets to `markNonce`. -/
theorem prepared_of_authenticateUser {lib : Library V} {svc : Service} {req : Request}
    {now : Time} (h : authenticateUser lib svc req now = .ok p) :
    Prepared lib req p := by
  simp only [authenticateUser, Lib.bind_ok_iff, Lib.ofOption_ok_iff, wrapInvalid_ok_iff,
    Lib.pure_ok_iff] at h
  obtain ⟨md, hmd, signature, -, issuedAt, hissued, nonce, hnon, t, hpar, -, -, ctx, -, rfl⟩ := h
  refine ⟨issuedAt, t, ?_, hpar, rfl⟩
  simp [Request.signed, hmd, hissued, hnon, Except.toOption]

/-! ### Seen nonces -/

section Nonces

variable {seen : GoString → Option Time} {key : GoString} {e now : Time}

/-- The map is a record whose entries live until they expire. -/
theorem markNonce_eq (p : Pending) (now : Time) (seen : GoString → Option Time) :
    markNonce p now seen =
      (if (Lib.insertNew (fun e => e.after now) p.key p.expiresAt seen).1 then none
        else some .replayDetected,
      (Lib.insertNew (fun e => e.after now) p.key p.expiresAt seen).2) := by
  have hpurge : purge now seen = Lib.sweep (fun e => e.after now) seen := rfl
  obtain ⟨e, he, h⟩ | ⟨hnone, h⟩ :=
    Lib.insertNew_cases (fun e => e.after now) p.key p.expiresAt seen
  · -- What is left after the loop lives, so that the second comparison says nothing new.
    have hlive : e.after now = true := (Lib.sweep_eq_some_iff.mp he).2
    simp [markNonce, h, hpurge, he, hlive]
  · simp [markNonce, h, hpurge, hnone]

/-- A nonce is refused while its entry has not expired, -/
theorem markNonce_refuses (h : seen p.key = some e) (hlt : now < e) :
    (markNonce p now seen).1 = some .replayDetected := by
  have hnew : (Lib.insertNew (fun e => e.after now) p.key p.expiresAt seen).1 = false :=
    Lib.insertNew_refuses h (Time.after_iff.mpr hlt)
  rw [markNonce_eq, hnew]
  rfl

/-- which stays with the expiry it has. -/
theorem markNonce_keeps (h : seen key = some e) (hlt : now < e) :
    (markNonce p now seen).2 key = some e := by
  rw [markNonce_eq]
  exact Lib.insertNew_keeps h (Time.after_iff.mpr hlt)

theorem markNonce_records (h : (markNonce p now seen).1 = none) :
    (markNonce p now seen).2 p.key = some p.expiresAt := by
  rw [markNonce_eq] at h ⊢
  exact Lib.insertNew_records (by simpa using h)

end Nonces

/-! ### Concurrent calls -/

inductive Phase
  | idle
  | verified (p : Pending)
  | returned (r : Except Refusal Context)

/-- The shared map and clock, and the state of every call. -/
structure State (ι : Type) where
  clock : Time
  seen : GoString → Option Time
  phase : ι → Phase

variable {ι : Type}

/-- A new authenticator and no call started. -/
def init (clock : Time) : State ι := ⟨clock, fun _ => none, fun _ => .idle⟩

inductive Action (ι : Type)
  | tick (now : Time)
  | check (i : ι)
  | mark (i : ι)

/-- The phase of a call after its first half. -/
def afterCheck : Except Refusal Pending → Phase
  | .ok p => .verified p
  | .error refusal => .returned (.error refusal)

/-- The effect of a step, if it is enabled. The clock never goes backwards. -/
def step [DecidableEq ι] (lib : Library V) (svc : Service) (calls : ι → Request) (s : State ι) :
    Action ι → Option (State ι)
  | .tick now => if s.clock ≤ now then some { s with clock := now } else none
  | .check i =>
    match s.phase i with
    | .idle =>
      let r := authenticateUser lib svc (calls i) s.clock
      some { s with phase := Function.update s.phase i (afterCheck r) }
    | _ => none
  | .mark i =>
    match s.phase i with
    | .verified p =>
      let (err, seen) := markNonce p s.clock s.seen
      some { s with seen, phase := Function.update s.phase i (.returned (p.result err)) }
    | _ => none

/-- Call `i` returned a nil error. -/
def Succeeded (s : State ι) (i : ι) : Prop := ∃ ctx, s.phase i = .returned (.ok ctx)

/-- For each role, method, time of signing and nonce at most one call that carries them has
returned a nil error. -/
def OneShot (calls : ι → Request) (s : State ι) : Prop :=
  ∀ signed i j, (calls i).signed = some signed → (calls j).signed = some signed →
    Succeeded s i → Succeeded s j → i = j

/-- A call whose values were accepted before calls `markNonce` before the instant at which
its nonce is forgotten. -/
def InWindow (calls : ι → Request) (s : State ι) : Action ι → Prop
  | .mark i => ∀ p, s.phase i = .verified p →
      (∃ j, Succeeded s j ∧ (calls j).signed = (calls i).signed) → s.clock < p.expiresAt
  | _ => True

structure Inv (lib : Library V) (calls : ι → Request) (s : State ι) : Prop where
  oneShot : ∀ i j, Succeeded s i → Succeeded s j → (calls i).signed = (calls j).signed → i = j
  verified : ∀ i p, s.phase i = .verified p → Prepared lib (calls i) p
  /-- What was accepted is on record until it expires. -/
  recorded : ∀ i, Succeeded s i → ∃ p, Prepared lib (calls i) p ∧
    (s.clock < p.expiresAt → s.seen p.key = some p.expiresAt)

variable {lib : Library V} {svc : Service} {calls : ι → Request} {s t : State ι} {a : Action ι}
  {i : ι}

theorem inv_init {clock : Time} : Inv lib calls (init clock) where
  oneShot i j hi := by
    obtain ⟨ctx, h⟩ := hi
    simp [init] at h
  verified i p h := by simp [init] at h
  recorded i hi := by
    obtain ⟨ctx, h⟩ := hi
    simp [init] at h

theorem inv_tick {now : Time} (hi : Inv lib calls s) (hle : s.clock ≤ now) :
    Inv lib calls { s with clock := now } := by
  refine ⟨hi.oneShot, hi.verified, fun i hsucc => ?_⟩
  obtain ⟨p, hp, hseen⟩ := hi.recorded i hsucc
  exact ⟨p, hp, fun hlt => hseen (lt_of_le_of_lt hle hlt)⟩

/-- The first half of a call never ends in success, -/
theorem afterCheck_ne_ok {r : Except Refusal Pending} {ctx : Context} :
    afterCheck r ≠ .returned (.ok ctx) := by
  cases r <;> simp [afterCheck]

/-- and in `markNonce` when every check has passed. -/
theorem afterCheck_eq_verified_iff {r : Except Refusal Pending} :
    afterCheck r = .verified p ↔ r = .ok p := by
  cases r <;> simp [afterCheck]

/-- The clock has not come to the end of the window. -/
def beforeExpiry (s : State ι) : Action ι → Bool
  | .mark i =>
    match s.phase i with
    | .verified p => s.clock < p.expiresAt
    | _ => true
  | _ => true

theorem inWindow_of_beforeExpiry (s : State ι) (a : Action ι) (h : beforeExpiry s a = true) :
    InWindow calls s a := by
  cases a with
  | mark i =>
    intro p hph _
    simpa [beforeExpiry, hph] using h
  | tick now => trivial
  | check i => trivial

variable [DecidableEq ι]

theorem step_cases (h : step lib svc calls s a = some t) :
    (∃ now, a = .tick now ∧ s.clock ≤ now ∧ t = { s with clock := now }) ∨
    (∃ i, a = .check i ∧ t = { s with
      phase := Function.update s.phase i
        (afterCheck (authenticateUser lib svc (calls i) s.clock)) }) ∨
    (∃ i p, a = .mark i ∧ s.phase i = .verified p ∧ t = { s with
      seen := (markNonce p s.clock s.seen).2
      phase := Function.update s.phase i
        (.returned (p.result (markNonce p s.clock s.seen).1)) }) := by
  cases a with
  | tick now =>
    simp only [step, Lib.enabled_iff] at h
    exact .inl ⟨now, rfl, h.1, h.2.symm⟩
  | check i =>
    simp only [step] at h
    split at h
    · exact .inr (.inl ⟨i, rfl, (Option.some.inj h).symm⟩)
    · cases h
  | mark i =>
    simp only [step] at h
    split at h
    · rename_i p hph
      exact .inr (.inr ⟨i, p, rfl, hph, (Option.some.inj h).symm⟩)
    · cases h

/-- The first half of a call makes no call succeed. -/
theorem inv_check (hi : Inv lib calls s) : Inv lib calls { s with
    phase := Function.update s.phase i
      (afterCheck (authenticateUser lib svc (calls i) s.clock)) } := by
  -- Which calls have succeeded does not change.
  have hsucc : ∀ j, (∃ ctx, Function.update s.phase i
      (afterCheck (authenticateUser lib svc (calls i) s.clock)) j = .returned (.ok ctx)) →
      Succeeded s j := by
    intro j ⟨ctx, hj⟩
    exact ⟨ctx, Lib.of_update_of_not (p := (· = Phase.returned (.ok ctx))) afterCheck_ne_ok hj⟩
  exact {
    oneShot := fun j k hj hk => hi.oneShot j k (hsucc j hj) (hsucc k hk)
    verified := (Function.forall_update_iff s.phase fun j phase => ∀ p, phase = .verified p →
      Prepared lib (calls j) p).mpr ⟨fun _ h =>
        prepared_of_authenticateUser (afterCheck_eq_verified_iff.mp h), fun j _ => hi.verified j⟩
    recorded := fun j hj => hi.recorded j (hsucc j hj) }

/-- After `markNonce` call `i` has succeeded if it was not refused; the others have if they
had before. -/
theorem succeeded_of_mark {err : Option Error} {j : ι}
    (h : ∃ ctx, Function.update s.phase i (.returned (p.result err)) j = .returned (.ok ctx)) :
    (j = i ∧ err = none) ∨ Succeeded s j := by
  obtain ⟨ctx, h⟩ := h
  obtain ⟨rfl, h⟩ | h := Lib.of_update (p := (· = Phase.returned (.ok ctx))) h
  · cases err with
    | none => exact .inl ⟨rfl, rfl⟩
    | some err => simp [Pending.result] at h
  · exact .inr ⟨ctx, h⟩

omit [DecidableEq ι] in
/-- A nonce whose values were accepted before is refused in its window: the entry of the
earlier call is still there. -/
theorem Inv.refused {j : ι} (hi : Inv lib calls s)
    (hph : s.phase i = .verified p) (hg : InWindow calls s (.mark i))
    (hj : Succeeded s j) (hsame : (calls j).signed = (calls i).signed) :
    (markNonce p s.clock s.seen).1 = some .replayDetected := by
  have hlt : s.clock < p.expiresAt := hg p hph ⟨j, hj, hsame⟩
  obtain ⟨q, hq, hseen⟩ := hi.recorded j hj
  obtain ⟨hkey, hexp⟩ := hq.entry_eq (hi.verified i p hph) hsame
  rw [hkey, hexp] at hseen
  exact markNonce_refuses (hseen hlt) hlt

theorem inv_mark (hi : Inv lib calls s) (hph : s.phase i = .verified p)
    (hg : InWindow calls s (.mark i)) : Inv lib calls { s with
      seen := (markNonce p s.clock s.seen).2
      phase := Function.update s.phase i
        (.returned (p.result (markNonce p s.clock s.seen).1)) } := by
  -- The call is let through only if no call with its values was.
  have hfre : (markNonce p s.clock s.seen).1 = none → ∀ j, Succeeded s j →
      (calls j).signed ≠ (calls i).signed := by
    intro hnone j hj hsame
    simp [hi.refused hph hg hj hsame] at hnone
  have honce : Lib.AtMostOnce (fun i => (calls i).signed) (Succeeded s) := hi.oneShot
  refine ⟨honce.verdict (fun _ => succeeded_of_mark) hfre, ?_, fun j hj => ?_⟩
  · refine (Function.forall_update_iff s.phase fun j phase => ∀ p, phase = .verified p →
      Prepared lib (calls j) p).mpr ⟨?_, fun j _ => hi.verified j⟩
    intro q h
    cases h
  · obtain ⟨rfl, hnone⟩ | hj := succeeded_of_mark hj
    · exact ⟨p, hi.verified j p hph, fun _ => markNonce_records hnone⟩
    · obtain ⟨q, hq, hseen⟩ := hi.recorded j hj
      exact ⟨q, hq, fun hlt => markNonce_keeps (hseen hlt) hlt⟩

theorem inv_step (hi : Inv lib calls s) (hg : InWindow calls s a)
    (h : step lib svc calls s a = some t) : Inv lib calls t := by
  obtain ⟨now, rfl, hle, rfl⟩ | ⟨i, rfl, rfl⟩ | ⟨i, p, rfl, hph, rfl⟩ := step_cases h
  · exact inv_tick hi hle
  · exact inv_check hi
  · exact inv_mark hi hph hg

/-! ### The instant at which both comparisons meet -/

/-- The instant 1000, in RFC 3339. -/
def sampleTimestamp : GoString := lit "0001-01-01T00:00:00.000001Z"

/-- The sample primitives, with keys that are their own encoding. One time can be read. -/
def sampleLibrary : Library Unit where
  toPrimitives := samplePrimitives
  verifyPKCS1v15 key digest sig := sig = key ++ digest
  parsePKIXPublicKey der := .ok (.ed25519 der)
  parseTime text := if text = sampleTimestamp then .ok 1000 else .error (lit "parsing time")

def sampleService : Service := { algorithmProvider := .ed25519 [1] }

/-- Metadata for a call of the algorithm provider, signed with the key `[1]`. -/
def sampleMD (method : GoString) : MD := fun key =>
  if key = signatureMetadataKey then
    [base64StdEncode
      (1 :: signaturePayload algorithmProviderRole method sampleTimestamp (lit "n"))]
  else if key = signatureTimestampMetadataKey then [sampleTimestamp]
  else if key = signatureNonceMetadataKey then [lit "n"]
  else []

/-- Two calls with the same metadata. -/
def sampleCalls : Fin 2 → Request := fun _ =>
  ⟨algorithmProviderRole, lit "Algo", some (sampleMD (lit "Algo"))⟩

/-- For every number of calls, every interleaving and every clock schedule: if every call
that repeats accepted values gets to `markNonce` before they expire, then at most one call
with these values returns a nil error. -/
theorem accepted_once_of_run {clock : Time} {as : List (Action ι)}
    (hguard : Lib.Guarded (step lib svc calls) (InWindow calls) (init clock) as)
    (hrun : Lib.run (step lib svc calls) (init clock) as = some s) : OneShot calls s := by
  have hinv : Inv lib calls s := Lib.invariant_of_run inv_step inv_init hguard hrun
  intro signed i j hi hj hsi hsj
  exact hinv.oneShot i j hsi hsj (hi.trans hj.symm)

/-- A second later the second call is refused. -/
theorem accepted_once_sample : ∃ s,
    Lib.run (step sampleLibrary sampleService sampleCalls) (init 1000)
        [.check 0, .mark 0, .tick 1000001000, .check 1, .mark 1] = some s ∧
      s.phase 1 = .returned (.error ⟨.nil, .replayDetected⟩) ∧ OneShot sampleCalls s := by
  have h : ((Lib.run (step sampleLibrary sampleService sampleCalls) (init 1000)
      [.check 0, .mark 0, .tick 1000001000, .check 1, .mark 1]).map fun s => s.phase 1) =
        some (.returned (.error ⟨.nil, .replayDetected⟩)) := by
    rfl
  obtain ⟨s, hrun, hs⟩ := Option.map_eq_some_iff.mp h
  have hg : Lib.Guarded (step sampleLibrary sampleService sampleCalls)
      (fun s a => beforeExpiry s a = true) (init 1000)
      [.check 0, .mark 0, .tick 1000001000, .check 1, .mark 1] := by
    decide +kernel
  exact ⟨s, hrun, hs, accepted_once_of_run (hg.mono inWindow_of_beforeExpiry) hrun⟩

/-- One call at the time of signing, and another one five minutes later. -/
def lastInstant (i j : ι) : List (Action ι) :=
  [.check i, .mark i, .tick (1000 + maxSignatureAge), .check j, .mark j]

/-- At the last instant of its window a request is accepted a second time. -/
theorem accepted_twice : ∃ s,
    Lib.run (step sampleLibrary sampleService sampleCalls) (init 1000) (lastInstant 0 1) = some s ∧
      ¬OneShot sampleCalls s := by
  have h : ((Lib.run (step sampleLibrary sampleService sampleCalls) (init 1000)
      (lastInstant 0 1)).map fun s => (s.phase 0, s.phase 1)) =
        some (.returned (.ok .incoming), .returned (.ok .incoming)) := by
    rfl
  obtain ⟨s, hrun, hs⟩ := Option.map_eq_some_iff.mp h
  refine ⟨s, hrun, fun hone => ?_⟩
  have := hone ⟨algorithmProviderRole, lit "Algo", sampleTimestamp, lit "n"⟩ 0 1 (by decide) (by decide)
    ⟨_, congrArg Prod.fst hs⟩ ⟨_, congrArg Prod.snd hs⟩
  exact absurd this (by decide)

end SecureBinding.Agent.Auth
