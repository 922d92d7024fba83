import SecureBinding.EA.Completeness
import SecureBinding.Lib.Transition

/-!
# EA.Effects

What a call of `createAuthenticator` or `validateAuthenticator` leaves behind for the next
one: the contexts that the session holds as used, and the certificates in the pool of the
caller.

A call that fails changes the session in one case only, when the attestation is refused: the
context has been recorded by then. The pool grows with every authenticator whose messages
pass, whatever becomes of it afterwards.
-/

namespace SecureBinding.EA

open Go Go.Crypto Lib

variable {V : Type}

/-! ### Calls -/

/-- The arguments of `createAuthenticator`, without the session. -/
structure CreateArgs where
  signer : Signer
  st : Tls.ConnectionState
  role : Role
  req : Option AuthenticatorRequest
  policy : Option SpontaneousAuthenticatorPolicy
  identity : Identity
  leafEntryExtensions : List Extension

/-- The arguments of `validateAuthenticator`, without the session and the options. -/
structure ValidateArgs where
  st : Tls.ConnectionState
  role : Role
  req : Option AuthenticatorRequest
  policy : Option SpontaneousAuthenticatorPolicy
  attPolicy : Option EAAttestation.VerificationPolicy
  authBytes : Bytes

/-- `validateAuthenticator` on a state. -/
def ValidateArgs.run (prim : Primitives V) (s : State V) (args : ValidateArgs) :
    Except ValidateError ValidationResult × State V :=
  validateAuthenticator prim s args.st args.role args.req args.policy args.attPolicy args.authBytes

/-- The checks of `validateAuthenticator` on the messages. -/
def ValidateArgs.check (prim : Primitives V) (args : ValidateArgs) : Except Error Checked :=
  checkAuthenticator prim args.st args.role args.req args.policy args.authBytes

inductive Call (V : Type)
  | create (args : CreateArgs)
  | validate (verifyOpts : Option (VerifyOptions V)) (args : ValidateArgs)

/-- Whether a call succeeds, and the session it leaves. -/
def Call.run (prim : Primitives V) (session : Option Session) : Call V → Bool × Option Session
  | create args =>
    let res := createAuthenticator prim args.signer session args.st args.role args.req args.policy
      args.identity args.leafEntryExtensions
    (res.1.isOk, res.2)
  | validate verifyOpts args =>
    let res := args.run prim ⟨session, verifyOpts⟩
    (res.1.isOk, res.2.session)

/-! ### The session -/

/-- The authenticator passes every check up to the session, which records its context; and
then its attestation is refused: it is missing but required, malformed, or does not
verify. -/
def RefusedAfterMark (prim : Primitives V) (session : Option Session) : Call V → Prop
  | .create _ => False
  | .validate verifyOpts args =>
    ∃ context leaf intermediates cmw, args.check prim = .ok (.full context leaf intermediates cmw)
      ∧ verifyLeaf prim verifyOpts leaf intermediates = .ok ()
      ∧ session ≠ none ∧ Unused session context
      ∧ (attest prim args.st args.attPolicy context leaf intermediates cmw).isOk = false

/-- Recording a context and then going on leaves the session alone on failure unless it is
the rest that fails. -/
theorem thenMark_unchanged_iff {α : Type} {s : State V} {context : Bytes}
    {next : Except ValidateError α} :
    ((thenMark s context next).1.isOk = false → (thenMark s context next).2.session = s.session) ↔
      ¬ (s.session ≠ none ∧ Unused s.session context ∧ next.isOk = false) := by
  by_cases hunu : Unused s.session context
  · rw [thenMark_of_unused hunu]
    show (next.isOk = false → s.session.map _ = s.session) ↔ _
    rw [record_eq_self_iff]
    refine ⟨fun h hboth => hboth.1 (h hboth.2.2), fun h hfails => ?_⟩
    by_contra hsome
    exact h ⟨hsome, hunu, hfails⟩
  · rw [thenMark_of_not_unused hunu]
    exact ⟨fun _ hboth => hunu hboth.2.1, fun _ _ => rfl⟩

variable {prim : Primitives V} {session : Option Session} {call : Option Session × ValidateArgs}
  {pool : List Certificate}

theorem create_unchanged {args : CreateArgs}
    (h : ((Call.create args : Call V).run prim session).1 = false) :
    ((Call.create args : Call V).run prim session).2 = session := by
  simp only [Call.run] at h ⊢
  unfold createAuthenticator at h ⊢
  cases hbld : buildAuthenticator prim args.signer args.st args.role args.req args.policy
      args.identity args.leafEntryExtensions with
  | error e => rfl
  | ok p =>
    obtain ⟨ctx, bytes⟩ := p
    simp only [hbld] at h ⊢
    -- Recording the context is the last step, and the only one left to fail.
    by_cases hunu : Unused session ctx
    · rw [markContextUsed_of_unused hunu] at h
      cases h
    · rw [markContextUsed_of_not_unused hunu]

theorem rejected_unchanged_iff {call : Call V} :
    ((call.run prim session).1 = false → (call.run prim session).2 = session) ↔
      ¬ RefusedAfterMark prim session call := by
  cases call with
  | create args => exact ⟨fun _ h => h, fun _ => create_unchanged⟩
  | validate verifyOpts args =>
    simp only [Call.run]
    unfold ValidateArgs.run validateAuthenticator
    show _ ↔ ¬ ∃ context leaf intermediates cmw,
      checkAuthenticator prim args.st args.role args.req args.policy args.authBytes = _ ∧ _
    -- The checks change nothing; the context is marked after the chain, before the attestation.
    cases checkAuthenticator prim args.st args.role args.req args.policy args.authBytes with
    | error e => simp
    | ok c =>
      cases c with
      | empty context =>
        rw [thenMark_unchanged_iff]
        simp [Except.toBool]
      | full context leaf intermediates cmw =>
        dsimp only
        cases hleaf : verifyLeaf prim verifyOpts leaf intermediates with
        | error e =>
          simp only [implies_true, true_iff]
          rintro ⟨_, _, _, _, ⟨rfl, rfl, rfl, rfl⟩, hok, -⟩
          rw [hleaf] at hok
          cases hok
        | ok u =>
          rw [thenMark_unchanged_iff, isOk_mapError, not_iff_not]
          constructor
          · intro h
            exact ⟨context, leaf, intermediates, cmw, rfl, hleaf, h⟩
          · rintro ⟨_, _, _, _, heq, -, h⟩
            cases heq
            exact h

/-- A call that is refused, as a step of the session; `none` for a call that succeeds. -/
def rejectedStep (prim : Primitives V) (session : Option Session) (call : Call V) :
    Option (Option Session) :=
  if (call.run prim session).1 then none else some (call.run prim session).2

theorem rejectedStep_eq_some_iff {session' : Option Session}
    {call : Call V} : rejectedStep prim session call = some session' ↔
      (call.run prim session).1 = false ∧ (call.run prim session).2 = session' := by
  unfold rejectedStep
  cases (call.run prim session).1 <;> simp

/-- A call that fails leaves the session alone, unless it is the attestation of an otherwise
good authenticator that is refused: its context has been recorded by then. After failures of
any other kind, however many, every call does what it would have done before them. -/
theorem rejected_leaves_session_iff (prim : Primitives V) :
    (∀ (session : Option Session) (call : Call V),
      ((call.run prim session).1 = false → (call.run prim session).2 = session) ↔
        ¬ RefusedAfterMark prim session call) ∧
    ∀ (session session' : Option Session) (calls : List (Call V)),
      Guarded (rejectedStep prim) (fun session call => ¬ RefusedAfterMark prim session call) session
        calls →
      run (rejectedStep prim) session calls = some session' →
      session' = session ∧ ∀ call : Call V, call.run prim session' = call.run prim session := by
  refine ⟨fun session call => rejected_unchanged_iff, ?_⟩
  intro session session' calls hg hrun
  have heq : session' = session := by
    refine @invariant_of_run _ _ _ _ _ _ _ (fun s => s = session) ?_ rfl hg hrun
    intro s call t hs hcall hstep
    obtain ⟨hrej, rfl⟩ := rejectedStep_eq_some_iff.mp hstep
    rw [rejected_unchanged_iff.mpr hcall hrej]
    exact hs
  exact ⟨heq, fun call => by rw [heq]⟩

/-- The sample answer, checked against a policy that requires evidence. -/
def answerWith (cmw : Option Bytes) : Call Unit :=
  .validate none ⟨connectionWith 7, roleServer, some sampleRequest, none, some samplePolicy,
    sampleAuthenticator 7 cmw⟩

/-- An answer without the attestation is refused, and yet its context is used up: the answer
that follows, with the attestation, is refused as well. It is accepted if it comes first. -/
theorem refused_attestation_uses_context :
    ((answerWith none).run samplePrimitives (some {})).1 = false ∧
      ((answerWith none).run samplePrimitives (some {})).2 = some ⟨[[1]]⟩ ∧
      ((answerWith (some sampleCMW)).run samplePrimitives (some ⟨[[1]]⟩)).1 = false ∧
      ((answerWith (some sampleCMW)).run samplePrimitives (some {})).1 = true := by
  decide +kernel

/-- Bytes that are no authenticator use nothing up. -/
theorem rejected_leaves_session_sample :
    run (rejectedStep samplePrimitives) (some {})
        [.validate none ⟨connectionWith 7, roleServer, some sampleRequest, none, some samplePolicy,
          [1, 2]⟩] = some (some {}) ∧
      ((answerWith (some sampleCMW)).run samplePrimitives (some {})).1 = true ∧
      ¬ RefusedAfterMark samplePrimitives (some {}) (answerWith (some sampleCMW)) := by
  have hok : ((answerWith (some sampleCMW)).run samplePrimitives (some {})).1 = true := by
    decide +kernel
  refine ⟨by decide +kernel, hok, ?_⟩
  refine ((rejected_leaves_session_iff samplePrimitives).1 _ _).mp ?_
  intro hrej
  rw [hok] at hrej
  cases hrej

/-! ### The pool -/

/-- The intermediates that an authenticator adds to a pool: those of a chain whose messages
pass. -/
def ValidateArgs.sent (prim : Primitives V) (args : ValidateArgs) : List Certificate :=
  match args.check prim with
  | .ok (.full _ _ intermediates _) => intermediates
  | _ => []

def afterCall (prim : Primitives V) (opts : VerifyOptions V)
    (call : Option Session × ValidateArgs) : VerifyOptions V :=
  ((call.2.run prim ⟨call.1, some opts⟩).2.verifyOpts).getD opts

theorem thenMark_verifyOpts {α : Type} {s : State V} {context : Bytes}
    {next : Except ValidateError α} : (thenMark s context next).2.verifyOpts = s.verifyOpts := by
  by_cases h : Unused s.session context
  · rw [thenMark_of_unused h]
  · rw [thenMark_of_not_unused h]

theorem afterCall_eq {opts : VerifyOptions V} :
    afterCall prim opts call = addIntermediates (call.2.sent prim) opts := by
  have hnil : addIntermediates [] opts = opts := by
    obtain ⟨settings, pool⟩ := opts
    cases pool <;> rfl
  unfold afterCall ValidateArgs.run ValidateArgs.sent ValidateArgs.check validateAuthenticator
  cases checkAuthenticator prim call.2.st call.2.role call.2.req call.2.policy call.2.authBytes with
  | error e => exact hnil.symm
  | ok c =>
    cases c with
    | empty context =>
      rw [thenMark_verifyOpts]
      exact hnil.symm
    | full context leaf intermediates cmw =>
      dsimp only
      cases verifyLeaf prim (some opts) leaf intermediates with
      | error e => rfl
      | ok u =>
        rw [thenMark_verifyOpts]
        rfl

/-- What a sequence of calls leaves: the pool has grown by what all of them sent. -/
theorem foldl_afterCall {settings : V} {calls : List (Option Session × ValidateArgs)} :
    calls.foldl (afterCall prim) ⟨settings, some pool⟩
      = ⟨settings, some ((calls.flatMap fun call => call.2.sent prim).foldl addCert pool)⟩ := by
  induction calls generalizing pool with
  | nil => rfl
  | cons call calls ih =>
    rw [List.foldl_cons, afterCall_eq, List.flatMap_cons, List.foldl_append]
    exact ih

theorem exists_raw_addCert {c : Certificate} {raw : Bytes} :
    (∃ d ∈ addCert pool c, d.raw = raw) ↔ (∃ d ∈ pool, d.raw = raw) ∨ c.raw = raw := by
  unfold addCert
  split
  · rename_i hany
    obtain ⟨d, hd, hraw⟩ := List.any_eq_true.mp hany
    have hraw : d.raw = c.raw := by simpa using hraw
    constructor
    · exact .inl
    · rintro (h | rfl)
      · exact h
      · exact ⟨d, hd, hraw⟩
  · simp

/-- A pool holds what it was given, each certificate once. -/
theorem exists_raw_foldl_addCert {cs : List Certificate} {raw : Bytes} :
    ∀ {pool : List Certificate}, (∃ d ∈ cs.foldl addCert pool, d.raw = raw) ↔
      (∃ d ∈ pool, d.raw = raw) ∨ ∃ c ∈ cs, c.raw = raw := by
  induction cs with
  | nil => simp
  | cons c cs ih =>
    intro pool
    rw [List.foldl_cons, ih, exists_raw_addCert]
    simp only [List.mem_cons, exists_eq_or_imp]
    exact or_assoc

/-- Verification that gains by every further intermediate. A certificate is told by its raw
bytes, as a pool tells them. -/
def MonotoneVerify (prim : Primitives V) : Prop :=
  ∀ settings pool pool' leaf, (∀ c ∈ pool, ∃ d ∈ pool', d.raw = c.raw) →
    prim.verifyCertificate settings pool leaf = .ok () →
    prim.verifyCertificate settings pool' leaf = .ok ()

/-- Whether an authenticator is accepted with these options. -/
def verdict (prim : Primitives V) (opts : VerifyOptions V)
    (call : Option Session × ValidateArgs) : Bool :=
  (call.2.run prim ⟨call.1, some opts⟩).1.isOk

/-- What acceptance of a chain asks for beside its verification. -/
def OtherwiseGood (prim : Primitives V) (call : Option Session × ValidateArgs) (context : Bytes)
    (leaf : Certificate) (intermediates : List Certificate) : Prop :=
  ∃ cmw, call.2.check prim = .ok (.full context leaf intermediates cmw) ∧ Unused call.1 context ∧
    (attest prim call.2.st call.2.attPolicy context leaf intermediates cmw).isOk = true

theorem verdict_eq_true_iff {opts : VerifyOptions V} : verdict prim opts call = true ↔
      AcceptedEmpty prim call.1 call.2.st call.2.role call.2.req call.2.authBytes ∨
      ∃ context leaf intermediates, OtherwiseGood prim call context leaf intermediates ∧
        prim.verifyCertificate opts.settings (poolWith opts intermediates) leaf = .ok () := by
  unfold verdict ValidateArgs.run OtherwiseGood ValidateArgs.check AcceptedEmpty
  simp only [isOk_iff_exists, validateAuthenticator_ok_iff, verifyLeaf, mapError_ok_iff]
  constructor
  · rintro ⟨res, ⟨r, hr, hauth, hunu, -⟩ | ⟨context, leaf, intermediates, cmw, h⟩⟩
    · exact .inl ⟨r, hr, hauth, hunu⟩
    · obtain ⟨hchk, hvf, hunu, hats⟩ := h
      exact .inr ⟨context, leaf, intermediates, ⟨cmw, hchk, hunu, res, hats⟩, hvf⟩
  · rintro (⟨r, hr, hauth, hunu⟩ | ⟨context, leaf, intermediates, hgood, hvf⟩)
    · exact ⟨_, .inl ⟨r, hr, hauth, hunu, rfl⟩⟩
    · obtain ⟨cmw, hchk, hunu, res, hats⟩ := hgood
      exact ⟨res, .inr ⟨context, leaf, intermediates, cmw, hchk, hvf, hunu, hats⟩⟩

/-- Certificates that were sent before make a chain verify that does not verify without
them. -/
def Helped (prim : Primitives V) (settings : V) (pool earlier : List Certificate)
    (call : Option Session × ValidateArgs) : Prop :=
  ∃ context leaf intermediates, OtherwiseGood prim call context leaf intermediates ∧
    prim.verifyCertificate settings (intermediates.foldl addCert (earlier.foldl addCert pool)) leaf
      = .ok () ∧
    prim.verifyCertificate settings (intermediates.foldl addCert pool) leaf ≠ .ok ()

theorem verdict_mono (hmono : MonotoneVerify prim) {settings : V} {earlier : List Certificate}
    (h : verdict prim ⟨settings, some pool⟩ call = true) :
    verdict prim ⟨settings, some (earlier.foldl addCert pool)⟩ call = true := by
  rw [verdict_eq_true_iff] at h ⊢
  obtain hemp | ⟨context, leaf, intermediates, hgood, hvf⟩ := h
  · exact .inl hemp
  · refine .inr ⟨context, leaf, intermediates, hgood, hmono _ _ _ _ ?_ hvf⟩
    intro c hc
    show ∃ d ∈ intermediates.foldl addCert (earlier.foldl addCert pool), d.raw = c.raw
    rw [exists_raw_foldl_addCert, exists_raw_foldl_addCert]
    obtain hpool | hsent := exists_raw_foldl_addCert.mp ⟨c, hc, rfl⟩
    · exact .inl (.inl hpool)
    · exact .inr hsent

/-- The options keep the certificates of every peer. They never hinder a later one; and the
verdict on it is the one it would have got first, unless what earlier peers sent completes
its chain. -/
theorem verdict_independent_iff (prim : Primitives V) (hmono : MonotoneVerify prim) (settings : V)
    (pool : List Certificate) (calls : List (Option Session × ValidateArgs))
    (call : Option Session × ValidateArgs) :
    (verdict prim ⟨settings, some pool⟩ call = true →
      verdict prim (calls.foldl (afterCall prim) ⟨settings, some pool⟩) call = true) ∧
    (verdict prim (calls.foldl (afterCall prim) ⟨settings, some pool⟩) call
        = verdict prim ⟨settings, some pool⟩ call ↔
      ¬ Helped prim settings pool (calls.flatMap fun call => call.2.sent prim) call) := by
  rw [foldl_afterCall]
  refine ⟨verdict_mono hmono, ?_⟩
  constructor
  · rintro heq ⟨context, leaf, intermediates, hgood, hwith, hwithout⟩
    have hlat : verdict prim ⟨settings, some ((calls.flatMap fun call => call.2.sent prim).foldl
        addCert pool)⟩ call = true :=
      verdict_eq_true_iff.mpr (.inr ⟨context, leaf, intermediates, hgood, hwith⟩)
    rw [heq] at hlat
    obtain ⟨r, hr, hauth, -⟩ | ⟨context', leaf', intermediates', hgood', hvf⟩ :=
      verdict_eq_true_iff.mp hlat
    · obtain ⟨cmw, hchk, -⟩ := hgood
      have hemp : call.2.check prim = .ok (.empty r.context) :=
        checkAuthenticator_eq_empty_iff.mpr ⟨r, hr, rfl, hauth⟩
      rw [hemp] at hchk
      cases hchk
    · obtain ⟨cmw, hchk, -⟩ := hgood
      obtain ⟨cmw', hchk', -⟩ := hgood'
      rw [hchk] at hchk'
      cases hchk'
      exact hwithout hvf
  · -- A later pool can only help, and here it does not.
    intro hnot
    rw [Bool.eq_iff_iff]
    refine ⟨fun hlat => ?_, verdict_mono hmono⟩
    rw [verdict_eq_true_iff] at hlat ⊢
    obtain hemp | ⟨context, leaf, intermediates, hgood, hvf⟩ := hlat
    · exact .inl hemp
    · refine .inr ⟨context, leaf, intermediates, hgood, ?_⟩
      by_contra hwithout
      exact hnot ⟨context, leaf, intermediates, hgood, hvf, hwithout⟩

/-- Primitives with which the leaf `[9]` verifies always, and another one only with the
intermediate `[7]`. -/
def chainPrimitives : Primitives Unit :=
  { samplePrimitives with
    verifyCertificate := fun _ pool leaf =>
      if leaf.raw = [9] ∨ pool.any fun c => c.raw == [7] then .ok ()
      else .error "x509: certificate signed by unknown authority" }

theorem chainPrimitives_monotone : MonotoneVerify chainPrimitives := by
  intro settings pool pool' leaf hsub hvf
  simp only [chainPrimitives] at hvf ⊢
  rw [if_pos]
  by_contra hnot
  rw [if_neg] at hvf
  · cases hvf
  · intro hcond
    apply hnot
    obtain hleaf | hany := hcond
    · exact .inl hleaf
    · obtain ⟨c, hc, hraw⟩ := List.any_eq_true.mp hany
      obtain ⟨d, hd, heq⟩ := hsub c hc
      exact .inr (List.any_eq_true.mpr ⟨d, hd, by rw [heq]; exact hraw⟩)

/-- The answer of a peer with a chain to the sample request, on a session of its own. -/
def peerWith (chain : List Bytes) : Option Session × ValidateArgs :=
  (none, ⟨connectionWith 7, roleServer, some sampleRequest, none, none,
    (createAuthenticator chainPrimitives sampleSigner none (connectionWith 7) roleServer
      (some sampleRequest) none ⟨chain, some (.ecdsa "P-256" (chain.headD []))⟩ []).1.toOption.getD []⟩)

/-- A peer that sends its leaf alone is refused. It is accepted after another peer has sent
the intermediate that is missing. -/
theorem earlier_peer_completes_chain :
    verdict chainPrimitives ⟨(), some []⟩ (peerWith [[8]]) = false ∧
      verdict chainPrimitives ([peerWith [[9], [7]]].foldl (afterCall chainPrimitives) ⟨(), some []⟩)
        (peerWith [[8]]) = true := by
  decide +kernel

/-- A peer that sends all of its chain gets the same verdict before and after. -/
theorem verdict_independent_sample :
    verdict chainPrimitives ([peerWith [[9], [7]]].foldl (afterCall chainPrimitives) ⟨(), some []⟩)
        (peerWith [[8], [7]]) = verdict chainPrimitives ⟨(), some []⟩ (peerWith [[8], [7]]) ∧
      ¬ Helped chainPrimitives () []
        ([peerWith [[9], [7]]].flatMap fun call => call.2.sent chainPrimitives)
        (peerWith [[8], [7]]) := by
  have hsame : verdict chainPrimitives ([peerWith [[9], [7]]].foldl (afterCall chainPrimitives)
      ⟨(), some []⟩) (peerWith [[8], [7]])
      = verdict chainPrimitives ⟨(), some []⟩ (peerWith [[8], [7]]) := by
    decide +kernel
  exact ⟨hsame, (verdict_independent_iff chainPrimitives chainPrimitives_monotone () []
    [peerWith [[9], [7]]] (peerWith [[8], [7]])).2.mp hsame⟩

end SecureBinding.EA
