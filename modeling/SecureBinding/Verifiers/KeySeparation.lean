import SecureBinding.Clients.IdentityJWTSound
import SecureBinding.Agtp.CWT

/-!
# Verifiers.KeySeparation

Are the key that verifies the grant and the key that verifies the statement two
entries of the key tables?

Every table is looked up by the trimmed key id. The check that keeps the two apart
compares the key ids of the two headers as the verifier passes them on. `pkg/clients`
trims them first, so the check compares what is looked up; `pkg/agtp` passes them on
as they are spelled, and two spellings of one id pass the check.
-/

namespace SecureBinding.Verifiers

open Go IdentityPolicy JWT Token
open Agtp (Cose CWTVerifyOptions CWTParsed SessionIdentityCWTOptions)

variable {Key σ : Type} {sha256 : Bytes → Bytes} {lib : Library Key} {cose : Cose Key}

/-! ### Entries -/

/-- The key in the local table under an id. -/
def localKey (source : KeySource Key) (keyID : GoString) : Option Key :=
  match source.table with
  | .error _ => none
  | .ok table => table.keys.lookup (trimSpace keyID)

/-- The entry of the local table that a look-up of the id finds. -/
def localEntry (source : KeySource Key) (keyID : GoString) : Option (GoString × Key) :=
  (localKey source keyID).map fun key => (trimSpace keyID, key)

/-- Two key ids select one entry: they differ in surrounding white space only, and the
two tables hold the same key under it. -/
def SameEntry (grantKeys bindingKeys : KeySource Key) (grantID bindingID : GoString) : Prop :=
  trimSpace grantID = trimSpace bindingID ∧
    localKey grantKeys grantID = localKey bindingKeys bindingID

/-- What a key function over local keys returns is in the table. -/
theorem localEntry_of_resolve {source : KeySource Key} {spell : GoString → GoString}
    {keyFunc : KeyFunc Key} {keyID : GoString} {key : Key} (hloc : source.keyFunc = none)
    (hrsv : source.resolve spell = .ok keyFunc) (hkey : keyFunc keyID = .ok key) :
    localEntry source keyID = some (trimSpace keyID, key) := by
  unfold KeySource.resolve at hrsv
  rw [hloc] at hrsv
  obtain ⟨table, htab, rfl⟩ := Lib.map_ok_iff.mp hrsv
  unfold KeyTable.lookup at hkey
  split at hkey
  · cases hkey
  · split at hkey
    · cases hkey
    · rename_i hlkp
      cases hkey
      simp [localEntry, localKey, htab, hlkp]

/-- The entries that verified the two tokens: what the key ids of their headers find
in the tables, each of them with a key under which its token verifies. -/
structure VerifyingEntries (grantKeys bindingKeys : KeySource Key) (grantID bindingID : GoString)
    (grantSigned bindingSigned : Key → Prop) (grantEntry bindingEntry : GoString × Key) :
    Prop where
  grant : localEntry grantKeys grantID = some grantEntry
  grantSigned : grantSigned grantEntry.2
  binding : localEntry bindingKeys bindingID = some bindingEntry
  bindingSigned : bindingSigned bindingEntry.2

theorem VerifyingEntries.eq_iff {grantKeys bindingKeys : KeySource Key}
    {grantID bindingID : GoString} {grantSigned bindingSigned : Key → Prop}
    {grantEntry bindingEntry : GoString × Key}
    (h : VerifyingEntries grantKeys bindingKeys grantID bindingID grantSigned bindingSigned
      grantEntry bindingEntry) :
    grantEntry = bindingEntry ↔ SameEntry grantKeys bindingKeys grantID bindingID := by
  obtain ⟨grantKey, hgr, rfl⟩ := Option.map_eq_some_iff.mp h.grant
  obtain ⟨bindingKey, hbin, rfl⟩ := Option.map_eq_some_iff.mp h.binding
  unfold SameEntry
  rw [hgr, hbin, Prod.mk.injEq, Option.some.injEq]

/-! ### The three verifiers -/

/-- The token verifies under the key. -/
def SignedJWT (lib : Library Key) (tokenString : GoString) (key : Key) : Prop :=
  ∃ header payload signature alg bytes, split 0x2e tokenString = [header, payload, signature] ∧
    base64RawURLDecode signature = some bytes ∧
    lib.verify alg (header ++ [0x2e] ++ payload) bytes key = true

/-- The message verifies under the key. -/
def SignedCWT (cose : Cose Key) (token : Bytes) (key : Key) : Prop :=
  ∃ msg alg verify, cose.unmarshalSign1 token = .ok msg ∧
    cose.newVerifier alg key = .ok verify ∧ verify msg = .ok ()

/-- The key id in the protected header of a message, verified or not. -/
def cwtHeaderKeyID (cose : Cose Key) (token : Bytes) : Option GoString :=
  match cose.unmarshalSign1 token with
  | .error _ => none
  | .ok msg => (msg.protectedHeader.lookup Agtp.headerLabelKeyID).bind Agtp.cwtStringValue

section Lookup

variable {fields : Json.StructType Claims} {spell : GoString → GoString} {opts : VerifyOptions Key}
  {now : Time} {tokenString signerKey : GoString} {claims : Claims} {ev : Evidence Key}

theorem signedJWT_of_parsed (h : Parsed lib fields spell opts now tokenString claims signerKey ev) :
    SignedJWT lib tokenString ev.key := by
  obtain ⟨bytes, hby, hvf⟩ := h.signed
  exact ⟨ev.header, ev.payload, ev.signature, ev.alg, bytes, h.split, hby, hvf⟩

/-- The entry of a verified token, when trimming forgets the spelling. -/
theorem localEntry_of_parsed (hspell : ∀ id, trimSpace (spell id) = trimSpace id)
    (h : Parsed lib fields spell opts now tokenString claims signerKey ev)
    (hloc : opts.keyFunc = none) :
    localEntry opts.toKeySource ev.keyID = some (trimSpace ev.keyID, ev.key) := by
  have hent := localEntry_of_resolve hloc h.keyFunc h.key
  rw [h.signer] at hent
  simpa [localEntry, localKey, hspell] using hent

theorem cwtHeaderKeyID_of_cwtParsed {opts : CWTVerifyOptions Key} {token : Bytes}
    {keyID : GoString} {key : Key} (h : CWTParsed cose opts token keyID key) :
    cwtHeaderKeyID cose token = some keyID ∧ SignedCWT cose token key := by
  obtain ⟨msg, alg, verify, hmsg, hid, -, -, hvr, hvf⟩ := h.signed
  refine ⟨?_, msg, alg, verify, hmsg, hvr, hvf⟩
  unfold Agtp.keyIDFromCOSE at hid
  unfold cwtHeaderKeyID
  rw [hmsg]
  dsimp only
  split at hid
  · rename_i id hlkp
    split at hid
    · cases hid
    · cases hid
      exact hlkp
  · cases hid

end Lookup

section Separation

variable {grantToken bindingToken : GoString} {sysNow : SysTime} {w w' : σ}
  {r : SessionIdentityResult}

/-- Accepted tokens of `pkg/clients` are verified under entries with different ids. -/
theorem clients_entries_ne (hlib : Lawful lib) {opts : SessionIdentityJWTOptions Key σ}
    (hgr : opts.grant.keyFunc = none) (hbin : opts.sessionBinding.keyFunc = none)
    (h : Clients.verifySessionIdentityJWT sha256 lib grantToken bindingToken opts sysNow w =
      (.ok r, w')) :
    ∃ grantID bindingID grantEntry bindingEntry,
      headerKeyID grantToken = some grantID ∧ headerKeyID bindingToken = some bindingID ∧
      VerifyingEntries opts.grant.toKeySource opts.sessionBinding.toKeySource grantID bindingID
        (SignedJWT lib grantToken) (SignedJWT lib bindingToken) grantEntry bindingEntry ∧
      grantEntry ≠ bindingEntry := by
  obtain ⟨hju, -⟩ := Clients.verifySessionIdentityJWT_ok_iff.mp h
  obtain ⟨gc, bc, gev, bev, hacc⟩ := Clients.accepted_of_judge hlib hju
  have hg := hacc.grantParsed
  have hb := hacc.bindingParsed
  have hseparate : r.statement.signerKey ≠ r.grant.issuerKey :=
    hacc.admissible.authorizes.signer.separate (Clients.signerKey_ne_nil hg)
  have hgentry := localEntry_of_parsed trimSpace_trimSpace hg hgr
  have hbentry := localEntry_of_parsed trimSpace_trimSpace hb hbin
  refine ⟨gev.keyID, bev.keyID, (trimSpace gev.keyID, gev.key), (trimSpace bev.keyID, bev.key),
    hg.headerKeyID_eq, hb.headerKeyID_eq,
    ⟨hgentry, signedJWT_of_parsed hg, hbentry, signedJWT_of_parsed hb⟩, ?_⟩
  intro heq
  -- The trimmed ids are the very ones that the separation check has compared.
  rw [hg.signer, hb.signer] at hseparate
  exact hseparate (Prod.mk.inj heq).1.symm

theorem agtp_entries {opts : SessionIdentityJWTOptions Key σ} (hlib : Lawful lib)
    (hgr : opts.grant.keyFunc = none) (hbin : opts.sessionBinding.keyFunc = none)
    (h : Agtp.verifySessionIdentityJWT sha256 lib grantToken bindingToken opts sysNow w =
      (.ok r, w')) :
    ∃ grantID bindingID grantEntry bindingEntry,
      headerKeyID grantToken = some grantID ∧ headerKeyID bindingToken = some bindingID ∧
      VerifyingEntries opts.grant.toKeySource opts.sessionBinding.toKeySource grantID bindingID
        (SignedJWT lib grantToken) (SignedJWT lib bindingToken) grantEntry bindingEntry := by
  obtain ⟨hju, -⟩ := accepts_iff.mp h
  obtain ⟨-, -, hvg, hvb, -⟩ := judge_ok_iff.mp hju
  obtain ⟨gc, gk, gev, hg, -⟩ := Agtp.parsed_of_verifyIdentityGrantJWT hlib hvg
  obtain ⟨bc, bk, bev, hb, -⟩ := Agtp.parsed_of_verifySessionBindingJWT hlib hvb
  have hgentry := localEntry_of_parsed (fun _ => rfl) hg hgr
  have hbentry := localEntry_of_parsed (fun _ => rfl) hb hbin
  exact ⟨gev.keyID, bev.keyID, _, _, hg.headerKeyID_eq, hb.headerKeyID_eq, hgentry,
    signedJWT_of_parsed hg, hbentry, signedJWT_of_parsed hb⟩

theorem cwt_entries {opts : SessionIdentityCWTOptions Key σ}
    (hgr : opts.grant.keyFunc = none) (hbin : opts.sessionBinding.keyFunc = none)
    (h : Agtp.verifySessionIdentityCWT sha256 cose grantToken bindingToken opts sysNow w =
      (.ok r, w')) :
    ∃ grantID bindingID grantEntry bindingEntry, cwtHeaderKeyID cose grantToken = some grantID ∧
      cwtHeaderKeyID cose bindingToken = some bindingID ∧
      VerifyingEntries opts.grant.toKeySource opts.sessionBinding.toKeySource grantID bindingID
        (SignedCWT cose grantToken) (SignedCWT cose bindingToken) grantEntry bindingEntry := by
  obtain ⟨hju, -⟩ := accepts_iff.mp h
  obtain ⟨-, -, hvg, hvb, -⟩ := judge_ok_iff.mp hju
  obtain ⟨gkey, hg⟩ := Agtp.cwtParsed_of_verifyIdentityGrantCWT hvg
  obtain ⟨bkey, hb⟩ := Agtp.cwtParsed_of_verifySessionBindingCWT hvb
  obtain ⟨gfunc, hgresolve, hgkey⟩ := hg.keyFunc
  obtain ⟨bfunc, hbresolve, hbkey⟩ := hb.keyFunc
  obtain ⟨hgid, hgsigned⟩ := cwtHeaderKeyID_of_cwtParsed hg
  obtain ⟨hbid, hbsigned⟩ := cwtHeaderKeyID_of_cwtParsed hb
  exact ⟨_, _, _, _, hgid, hbid, localEntry_of_resolve hgr hgresolve hgkey, hgsigned,
    localEntry_of_resolve hbin hbresolve hbkey, hbsigned⟩

/-- **Key separation.** `pkg/clients` never accepts two tokens that one entry verifies.
The two verifiers of `pkg/agtp` accept such a pair exactly when the key ids of the
headers differ in surrounding white space only, and the tables agree on the id. -/
theorem verifying_entries_ne_iff (hlib : Lawful lib) (cose : Cose Key) (sha256 : Bytes → Bytes)
    (grantToken bindingToken : GoString) (sysNow : SysTime) (w w' : σ) (r : SessionIdentityResult) :
    (∀ opts : SessionIdentityJWTOptions Key σ,
      opts.grant.keyFunc = none → opts.sessionBinding.keyFunc = none →
      Clients.verifySessionIdentityJWT sha256 lib grantToken bindingToken opts sysNow w =
        (.ok r, w') →
      ∃ grantID bindingID grantEntry bindingEntry,
        headerKeyID grantToken = some grantID ∧ headerKeyID bindingToken = some bindingID ∧
        VerifyingEntries opts.grant.toKeySource opts.sessionBinding.toKeySource grantID bindingID
          (SignedJWT lib grantToken) (SignedJWT lib bindingToken) grantEntry bindingEntry ∧
        grantEntry ≠ bindingEntry) ∧
    (∀ opts : SessionIdentityJWTOptions Key σ,
      opts.grant.keyFunc = none → opts.sessionBinding.keyFunc = none →
      Agtp.verifySessionIdentityJWT sha256 lib grantToken bindingToken opts sysNow w = (.ok r, w') →
      ∃ grantID bindingID grantEntry bindingEntry,
        headerKeyID grantToken = some grantID ∧ headerKeyID bindingToken = some bindingID ∧
        VerifyingEntries opts.grant.toKeySource opts.sessionBinding.toKeySource grantID bindingID
          (SignedJWT lib grantToken) (SignedJWT lib bindingToken) grantEntry bindingEntry ∧
        (grantEntry ≠ bindingEntry ↔
          ¬SameEntry opts.grant.toKeySource opts.sessionBinding.toKeySource grantID bindingID)) ∧
    (∀ opts : SessionIdentityCWTOptions Key σ,
      opts.grant.keyFunc = none → opts.sessionBinding.keyFunc = none →
      Agtp.verifySessionIdentityCWT sha256 cose grantToken bindingToken opts sysNow w =
        (.ok r, w') →
      ∃ grantID bindingID grantEntry bindingEntry, cwtHeaderKeyID cose grantToken = some grantID ∧
        cwtHeaderKeyID cose bindingToken = some bindingID ∧
        VerifyingEntries opts.grant.toKeySource opts.sessionBinding.toKeySource grantID bindingID
          (SignedCWT cose grantToken) (SignedCWT cose bindingToken) grantEntry bindingEntry ∧
        (grantEntry ≠ bindingEntry ↔
          ¬SameEntry opts.grant.toKeySource opts.sessionBinding.toKeySource grantID
            bindingID)) := by
  refine ⟨?_, ?_, ?_⟩
  · intro opts hgr hbin h
    exact clients_entries_ne hlib hgr hbin h
  · intro opts hgr hbin h
    obtain ⟨gid, bid, ge, be, hgid, hbid, hes⟩ := agtp_entries hlib hgr hbin h
    exact ⟨gid, bid, ge, be, hgid, hbid, hes, not_congr hes.eq_iff⟩
  · intro opts hgr hbin h
    obtain ⟨gid, bid, ge, be, hgid, hbid, hes⟩ := cwt_entries hgr hbin h
    exact ⟨gid, bid, ge, be, hgid, hbid, hes, not_congr hes.eq_iff⟩

end Separation

/-- The grant of `sampleGrant`, but confirming the key id `m1` with a blank after it. -/
def respelledGrant : GoString := litPieces
  ["eyJhbGciOiJ0Iiwia2lkIjoibTEifQ.", "eyJpc3MiOiJtIiwic3ViIjoiYSIsImF1ZCI6InYi",
    "LCJleHAiOjIwLCJqdGkiOiIxIiwicHJvZmlsZV90", "eXBlIjoic2JhaXAuaWRlbnRpdHktZ3JhbnQiLCJw",
    "cm9maWxlX3ZlcnNpb24iOiIxIiwiY25mIjp7Imtp", "ZCI6Im0xICJ9fQ.AQ"]

/-- The statement of `sampleStatement`, signed with the manager's key and with that key
id in its header. -/
def respelledStatement : GoString := litPieces
  ["eyJhbGciOiJ0Iiwia2lkIjoibTEgIn0.", "eyJpc3MiOiJhIiwiYXVkIjoidiIsImV4cCI6MTUs",
    "Imp0aSI6IjIiLCJwcm9maWxlX3R5cGUiOiJzYmFp", "cC5zZXNzaW9uLWJpbmRpbmciLCJwcm9maWxlX3Zl",
    "cnNpb24iOiIxIiwiZ3JhbnRfaGFzaCI6InNoYTI1", "NjphYiIsImxlYWZfcHVibGljX2tleV9zaGEyNTYi",
    "OiJsIiwidGxzX2V4cG9ydGVyX3NoYTI1NiI6Ingi", "LCJyZXF1ZXN0X2NvbnRleHRfc2hhMjU2IjoiYyIs",
    "Im5vbmNlIjoibiJ9.AQ"]

/-- Options with one key for both tokens. -/
def oneKeyOptions : SessionIdentityJWTOptions Bytes CacheValue :=
  { sampleSessionOptions CacheValue.cache with
    grant := sampleVerifyOptions (lit "m") (lit "m1") [1]
    sessionBinding := sampleVerifyOptions (lit "a") (lit "m1") [1] }

/-- The manager signs both tokens with its one key and `pkg/agtp` accepts them; the entry
that verifies the grant verifies the statement. -/
theorem one_entry_verifies_both :
    ((Agtp.verifySessionIdentityJWT (fun _ => [0xab]) sampleLibrary respelledGrant
        respelledStatement oneKeyOptions Clients.sampleNow
        (.memory (some (.new (Time.unix 10))))).1.isOk = true ∧
      headerKeyID respelledGrant = some (lit "m1") ∧
      headerKeyID respelledStatement = some (lit "m1 ")) ∧
    localEntry oneKeyOptions.grant.toKeySource (lit "m1") = some (lit "m1", [1]) ∧
    localEntry oneKeyOptions.sessionBinding.toKeySource (lit "m1 ") = some (lit "m1", [1]) := by
  unfold respelledGrant respelledStatement
  simp only [litPieces_cons]
  repeat rw [lit_ofList]
  decide +kernel

/-- COSE and CBOR libraries that find no token well formed; the sample tokens are not. -/
def noCose : Cose Bytes where
  unmarshalSign1 _ := .error "cbor: invalid COSE_Sign1_Tagged object"
  algorithm _ := .error "algorithm not found"
  newVerifier _ _ := .error "algorithm not supported"
  unmarshalMap _ := .error "EOF"

theorem agtp_sample_accepted :
    ∃ w, Agtp.verifySessionIdentityJWT (fun _ => [0xab]) sampleLibrary sampleGrant sampleStatement
      Clients.sampleOptions Clients.sampleNow (.memory (some (.new (Time.unix 10)))) =
        (.ok Clients.sampleResult, w) := by
  have hju : judge
      (fun now => Agtp.verifyIdentityGrantJWT (fun _ => [0xab]) sampleLibrary sampleGrant
        { Clients.sampleOptions.grant with now } Clients.sampleNow)
      (fun now => Agtp.verifySessionBindingJWT sampleLibrary sampleStatement
        { Clients.sampleOptions.sessionBinding with now } Clients.sampleNow)
      Clients.sampleOptions.toSessionOptions Clients.sampleNow = .ok Clients.sampleResult := by
    unfold sampleGrant sampleStatement
    simp only [litPieces_cons]
    repeat rw [lit_ofList]
    decide +kernel
  have hmark : markSessionBindingUsed (some CacheValue.cache) Clients.sampleResult.statement
      (.memory (some (.new (Time.unix 10)))) = (none, _) := rfl
  exact ⟨_, accepts_iff.mpr ⟨hju, hmark⟩⟩

/-- The sample tokens are accepted by `pkg/agtp`, and verified under two entries. -/
theorem verifying_entries_ne_sample :
    ∃ grantID bindingID grantEntry bindingEntry,
      headerKeyID sampleGrant = some grantID ∧ headerKeyID sampleStatement = some bindingID ∧
      VerifyingEntries Clients.sampleOptions.grant.toKeySource
        Clients.sampleOptions.sessionBinding.toKeySource grantID bindingID
        (SignedJWT sampleLibrary sampleGrant) (SignedJWT sampleLibrary sampleStatement)
        grantEntry bindingEntry ∧
      grantEntry ≠ bindingEntry := by
  obtain ⟨w, h⟩ := agtp_sample_accepted
  -- The key ids are those the accepted grant and statement name.
  obtain ⟨hju, -⟩ := accepts_iff.mp h
  obtain ⟨-, -, hgr, hstm, -⟩ := judge_ok_iff.mp hju
  obtain ⟨_, _, _, hg, hgrantOf⟩ := Agtp.parsed_of_verifyIdentityGrantJWT sampleLibrary_lawful hgr
  obtain ⟨_, _, _, hs, hstatementOf⟩ :=
    Agtp.parsed_of_verifySessionBindingJWT sampleLibrary_lawful hstm
  have hids : headerKeyID sampleGrant = some (lit "m1") ∧
      headerKeyID sampleStatement = some (lit "a1") := by
    rw [hg.headerKeyID_eq, hs.headerKeyID_eq]
    have hgrantID := congrArg VerifiedGrant.issuerKey hgrantOf
    have hstatementID := congrArg VerifiedSessionBindingStatement.signerKey hstatementOf
    exact ⟨congrArg some (hgrantID.trans hg.signer).symm,
      congrArg some (hstatementID.trans hs.signer).symm⟩
  obtain ⟨-, hagtp, -⟩ := verifying_entries_ne_iff sampleLibrary_lawful noCose (fun _ => [0xab])
    sampleGrant sampleStatement Clients.sampleNow (.memory (some (.new (Time.unix 10)))) w
    Clients.sampleResult
  obtain ⟨gid, bid, ge, be, hgid, hbid, hes, hne⟩ := hagtp Clients.sampleOptions rfl rfl h
  refine ⟨gid, bid, ge, be, hgid, hbid, hes, hne.mpr ?_⟩
  obtain rfl := Option.some.inj (hids.1.symm.trans hgid)
  obtain rfl := Option.some.inj (hids.2.symm.trans hbid)
  intro hsame
  exact absurd hsame.1 (by decide +kernel)

end SecureBinding.Verifiers
