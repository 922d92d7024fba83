import SecureBinding.Clients.IdentityJWTSound
import SecureBinding.Agtp.JWT

/-!
# Verifiers.Ambiguity

Can a claim be given twice in an accepted token?

The duplicate scanner compares the names of members byte by byte. The header is decoded
into a map, which does the same; the payload is decoded into a struct, where a member
also matches a field whose name it equals ignoring case. So an accepted header is never
ambiguous, and an accepted payload is unambiguous exactly when it spells each of its
claims in one way.
-/

namespace SecureBinding.Verifiers

open Go Go.Json IdentityPolicy JWT
open Token (SessionIdentityResult)

variable {Key : Type} {sha256 : Bytes → Bytes} {lib : Library Key}

/-! ### The claim structs -/

/-- What the fields of a struct are decoded into is well named. -/
def FieldsWellNamed (fields : StructType Claims) : Prop := ∀ f ∈ fields, f.2.shape.WellNamed

theorem fieldsWellNamed_append {fields fields' : StructType Claims} :
    FieldsWellNamed (fields ++ fields') ↔ FieldsWellNamed fields ∧ FieldsWellNamed fields' :=
  List.forall_mem_append

theorem fieldsWellNamed_registeredClaims : FieldsWellNamed (registeredClaims lib) := by
  simp [FieldsWellNamed, registeredClaims, stringField, claimStringsField, dateField, Shape.WellNamed.leaf]

theorem fieldsWellNamed_profileClaims : FieldsWellNamed profileClaims := by
  simp [FieldsWellNamed, profileClaims, stringField, Shape.WellNamed.leaf]

theorem fieldsWellNamed_bindingClaims : FieldsWellNamed bindingClaims := by
  simp [FieldsWellNamed, bindingClaims, stringField, Shape.WellNamed.leaf]

theorem fieldsWellNamed_valueClaims : FieldsWellNamed valueClaims := by
  simp [FieldsWellNamed, valueClaims, stringField, stringsField, Shape.WellNamed.leaf]

theorem wellNamed_confirmationClaim : (StructType.shape confirmationClaim).WellNamed :=
  StructType.wellNamed_shape (by simp [confirmationClaim])
    (by simp [confirmationClaim, stringField, Shape.WellNamed.leaf])

theorem fieldsWellNamed_keyClaims : FieldsWellNamed keyClaims := by
  simp [FieldsWellNamed, keyClaims, stringsField, wellNamed_confirmationClaim, Shape.WellNamed.leaf]

theorem fieldsWellNamed_envelope :
    FieldsWellNamed
      [stringField "identity_grant_jwt" fun s c => { c with identityGrantJWT := s }] := by
  simp [FieldsWellNamed, stringField, Shape.WellNamed.leaf]

/-- The fields of all claim structs together. -/
def allClaims (lib : Library Key) : StructType Claims :=
  registeredClaims lib ++ profileClaims ++ keyClaims
    ++ [stringField "identity_grant_jwt" fun s c => { c with identityGrantJWT := s }]
    ++ bindingClaims ++ valueClaims

theorem fieldsWellNamed_allClaims : FieldsWellNamed (allClaims lib) := by
  refine fieldsWellNamed_append.mpr ⟨?_, fieldsWellNamed_valueClaims⟩
  refine fieldsWellNamed_append.mpr ⟨?_, fieldsWellNamed_bindingClaims⟩
  refine fieldsWellNamed_append.mpr ⟨?_, fieldsWellNamed_envelope⟩
  refine fieldsWellNamed_append.mpr ⟨?_, fieldsWellNamed_keyClaims⟩
  exact fieldsWellNamed_append.mpr ⟨fieldsWellNamed_registeredClaims, fieldsWellNamed_profileClaims⟩

/-- The names do not depend on the library, so one library decides for all. -/
theorem nodup_names_allClaims : ((allClaims lib).map fun f => foldName f.1).Nodup := by
  have hnms : ((allClaims sampleLibrary).map fun f => foldName f.1).Nodup := by decide +kernel
  exact hnms

/-- A struct with some of the fields, in their order, is well named. -/
theorem wellNamed_of_sublist (lib : Library Key) {fields : StructType Claims}
    (h : fields.Sublist (allClaims lib)) : (StructType.shape fields).WellNamed := by
  refine StructType.wellNamed_shape (nodup_names_allClaims.sublist (h.map _)) ?_
  intro f hf
  exact fieldsWellNamed_allClaims f (h.subset hf)

theorem wellNamed_bindingJWTClaims : (StructType.shape (bindingJWTClaims lib)).WellNamed :=
  wellNamed_of_sublist lib (((List.sublist_append_left _ _).append (.refl _)).append (.refl _))

theorem wellNamed_identityGrantClaims : (StructType.shape (identityGrantClaims lib)).WellNamed := by
  refine wellNamed_of_sublist lib (.append ?_ (.refl _))
  exact (List.sublist_append_left _ _).trans (List.sublist_append_left _ _)

theorem wellNamed_sessionBindingClaims : (StructType.shape (sessionBindingClaims lib)).WellNamed := by
  refine wellNamed_of_sublist lib (.trans (.append ?_ (.refl _)) (List.sublist_append_left _ _))
  exact (List.sublist_append_left _ _).trans (List.sublist_append_left _ _)

theorem wellNamed_sessionEnvelopeClaims :
    (StructType.shape (sessionEnvelopeClaims lib)).WellNamed := by
  refine wellNamed_of_sublist lib (.trans (.append ?_ (.refl _)) (List.sublist_append_left _ _))
  exact (List.sublist_append_left _ _).append (.refl _)

/-! ### Accepted tokens -/

/-- A token that a verifier accepts, with the struct its payload is decoded into. -/
inductive AcceptedToken (sha256 : Bytes → Bytes) (lib : Library Key) :
    StructType Claims → GoString → Prop
  | clientsGrant {tokenString : GoString} {opts : VerifyOptions Key} {sysNow : SysTime}
      {grant : VerifiedGrant}
      (h : Clients.verifyIdentityGrantJWT sha256 lib tokenString opts sysNow = .ok grant) :
      AcceptedToken sha256 lib (bindingJWTClaims lib) tokenString
  | clientsBinding {tokenString : GoString} {opts : VerifyOptions Key} {sysNow : SysTime}
      {statement : VerifiedSessionBindingStatement}
      (h : Clients.verifySessionBindingJWT lib tokenString opts sysNow = .ok statement) :
      AcceptedToken sha256 lib (bindingJWTClaims lib) tokenString
  | agtpGrant {tokenString : GoString} {opts : VerifyOptions Key} {sysNow : SysTime}
      {grant : VerifiedGrant}
      (h : Agtp.verifyIdentityGrantJWT sha256 lib tokenString opts sysNow = .ok grant) :
      AcceptedToken sha256 lib (identityGrantClaims lib) tokenString
  | agtpBinding {tokenString : GoString} {opts : VerifyOptions Key} {sysNow : SysTime}
      {statement : VerifiedSessionBindingStatement}
      (h : Agtp.verifySessionBindingJWT lib tokenString opts sysNow = .ok statement) :
      AcceptedToken sha256 lib (sessionBindingClaims lib) tokenString
  | agtpEnvelope {tokenString : GoString} {σ : Type} {opts : SessionIdentityJWTOptions Key σ}
      {sysNow : SysTime} {r : SessionIdentityResult} {w w' : σ}
      (h : Agtp.verifySessionIdentityJWTEnvelope sha256 lib tokenString opts sysNow w = (.ok r, w')) :
      AcceptedToken sha256 lib (sessionEnvelopeClaims lib) tokenString

/-- An accepted token was parsed, by one of the two packages, into a well-named struct. -/
theorem parsed_of_acceptedToken (hlib : Lawful lib) {fields : StructType Claims}
    {tokenString : GoString} (h : AcceptedToken sha256 lib fields tokenString) :
    (StructType.shape fields).WellNamed ∧ ∃ spell opts now claims signerKey ev,
      Parsed lib fields spell opts now tokenString claims signerKey ev := by
  cases h with
  | clientsGrant h =>
    obtain ⟨claims, signerKey, ev, hev, -⟩ := Clients.parsed_of_verifyIdentityGrantJWT hlib h
    exact ⟨wellNamed_bindingJWTClaims, _, _, _, claims, signerKey, ev, hev⟩
  | clientsBinding h =>
    obtain ⟨claims, signerKey, ev, hev, -⟩ := Clients.parsed_of_verifySessionBindingJWT hlib h
    exact ⟨wellNamed_bindingJWTClaims, _, _, _, claims, signerKey, ev, hev⟩
  | agtpGrant h =>
    obtain ⟨claims, signerKey, ev, hev, -⟩ := Agtp.parsed_of_verifyIdentityGrantJWT hlib h
    exact ⟨wellNamed_identityGrantClaims, _, _, _, claims, signerKey, ev, hev⟩
  | agtpBinding h =>
    obtain ⟨claims, signerKey, ev, hev, -⟩ := Agtp.parsed_of_verifySessionBindingJWT hlib h
    exact ⟨wellNamed_sessionBindingClaims, _, _, _, claims, signerKey, ev, hev⟩
  | agtpEnvelope h =>
    obtain ⟨claims, signerKey, ev, hev, -⟩ :=
      Agtp.parsed_of_openEnvelope hlib (Agtp.openEnvelope_of_accepted h)
    exact ⟨wellNamed_sessionEnvelopeClaims, _, _, _, claims, signerKey, ev, hev⟩

/-- The JSON values in the header and the payload of a token. -/
def tokenValues (tokenString : GoString) : Option (Json × Json) :=
  match split 0x2e tokenString with
  | [header, payload, _] =>
    match (base64RawURLDecode header).bind Json.parse,
      (base64RawURLDecode payload).bind Json.parse with
    | some header, some payload => some (header, payload)
    | _, _ => none
  | _ => none

/-- **No ambiguous claims, up to case.** In an accepted token no two members of an object
go to the same field, in the header or the payload, exactly when no object of the
payload has two spellings of one field name that differ in case only. -/
theorem accepted_token_unambiguous_iff (hlib : Lawful lib) {fields : StructType Claims}
    {tokenString : GoString} (h : AcceptedToken sha256 lib fields tokenString) :
    ∃ header payload, tokenValues tokenString = some (header, payload) ∧
      (Unambiguous .any header ∧ Unambiguous (StructType.shape fields) payload ↔
        UniformlySpelled (StructType.shape fields) payload) := by
  obtain ⟨hnms, spell, opts, now, claims, signerKey, ev, hev⟩ := parsed_of_acceptedToken hlib h
  refine ⟨.obj ev.members, ev.payloadValue, ?_, ?_⟩
  · unfold tokenValues
    rw [hev.split]
    simp [hev.headerText, hev.payloadText, hev.headerValue, hev.payloadValue]
  · -- The scanner has seen to equal names; what is left are different ones.
    rw [← unambiguous_iff_uniformlySpelled hnms hev.payloadUnique]
    exact and_iff_right (unambiguous_any hev.headerUnique)

/-- A grant that gives its subject twice, as `sub` and as `SUB`. -/
def ambiguousGrant : GoString := litPieces
  ["eyJhbGciOiJ0Iiwia2lkIjoibTEifQ.", "eyJzdWIiOiJhIiwiU1VCIjoiYiIsImlzcyI6Im0i",
    "LCJhdWQiOiJ2IiwiZXhwIjoyMCwianRpIjoiMSIs", "InByb2ZpbGVfdHlwZSI6InNiYWlwLmlkZW50aXR5",
    "LWdyYW50IiwicHJvZmlsZV92ZXJzaW9uIjoiMSIs", "ImNuZiI6eyJraWQiOiJhMSJ9fQ.AQ"]

/-- The names of the members of an object. -/
def memberNames : Json → List GoString
  | .obj members => members.map Prod.fst
  | _ => []

theorem pairwise_memberNames {shape : Shape} {v : Json} (h : Unambiguous shape v) :
    (memberNames v).Pairwise fun name name' => ¬shape.SameSlot name name' := by
  cases h with
  | obj pairs _ => exact List.pairwise_map.mpr pairs
  | null => exact .nil
  | bool => exact .nil
  | num => exact .nil
  | str => exact .nil
  | arr _ => exact .nil

/-- The ambiguous grant is accepted, for the agent its last member names. -/
theorem ambiguous_grant_accepted :
    (Clients.verifyIdentityGrantJWT (fun _ => [0xab]) sampleLibrary ambiguousGrant
        (sampleVerifyOptions (lit "m") (lit "m1") [1]) Clients.sampleNow).map
        (fun grant => grant.values.agent) = .ok (lit "b") ∧
    ∃ header payload, tokenValues ambiguousGrant = some (header, payload) ∧
      ¬Unambiguous (StructType.shape (bindingJWTClaims sampleLibrary)) payload := by
  have hagent : (Clients.verifyIdentityGrantJWT (fun _ => [0xab]) sampleLibrary ambiguousGrant
      (sampleVerifyOptions (lit "m") (lit "m1") [1]) Clients.sampleNow).map
      (fun grant => grant.values.agent) = .ok (lit "b") := by
    unfold ambiguousGrant
    simp only [litPieces_cons]
    repeat rw [lit_ofList]
    decide +kernel
  have hnms : (tokenValues ambiguousGrant).map (fun values => (memberNames values.2).take 2) =
      some [lit "sub", lit "SUB"] := by
    unfold ambiguousGrant
    simp only [litPieces_cons]
    repeat rw [lit_ofList]
    decide +kernel
  obtain ⟨⟨header, payload⟩, hvls, hpair⟩ := Option.map_eq_some_iff.mp hnms
  refine ⟨hagent, header, payload, hvls, ?_⟩
  intro hfree
  have hfst := (pairwise_memberNames hfree).sublist (List.take_sublist 2 _)
  rw [hpair] at hfst
  have hno := (List.pairwise_cons.mp hfst).1 (lit "SUB") (List.mem_singleton.mpr rfl)
  exact hno ⟨lit "sub", by decide +kernel, by decide +kernel⟩

/-- The sample grant is accepted, so the law holds of it. -/
theorem accepted_token_unambiguous_sample :
    ∃ header payload, tokenValues sampleGrant = some (header, payload) ∧ (Unambiguous .any header ∧
          Unambiguous (StructType.shape (bindingJWTClaims sampleLibrary)) payload ↔
        UniformlySpelled (StructType.shape (bindingJWTClaims sampleLibrary)) payload) := by
  obtain ⟨-, -, hgr, -⟩ := Token.judge_ok_iff.mp Clients.sample_judged
  exact accepted_token_unambiguous_iff sampleLibrary_lawful (.clientsGrant hgr)

end SecureBinding.Verifiers
