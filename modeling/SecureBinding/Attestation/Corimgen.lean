import SecureBinding.Attestation.Corim
import SecureBinding.Go.Encoding

/-!
# Attestation.Corimgen

The model of `pkg/attestation/corimgen/generator.go`: a CoRIM policy made from options.

The UUIDs that a call draws are inputs, one for each place that draws one (`UUIDs`).
-/

namespace SecureBinding.Corimgen

open Go Lib Corim

/-! ### Options -/

/-- `Options`, for signing keys of type `Signer`. -/
structure Options (Signer : Type) where
  platform : GoString := []
  measurement : GoString := []
  product : GoString := []
  svn : Nat := 0
  policy : Nat := 0
  rtmrs : GoString := []
  mrSeam : GoString := []
  hostData : GoString := []
  launchTCB : Nat := 0
  signingKey : Option Signer := none

/-- `SNPDefaultMeasurement`: 48 zero bytes. -/
def snpDefaultMeasurement : GoString := hexEncode (List.replicate 48 0)

def tdxDefaultMrSeam : GoString :=
  litPieces ["5b38e33a6487958b72c3c12a938eaa5e", "3fd4510c51aeeab58c7d5ecee41d7c43",
    "6489d6c8e4f92f160b7cad34207b00c1"]

def tdxDefaultMrTd : GoString :=
  litPieces ["91eb2b44d141d4ece09f0c75c2c53d24", "7a3c68edd7fafe8a3520c942a604a407",
    "de03ae6dc5f87f27428b2538873118b7"]

def tdxDefaultRTMRs : List GoString :=
  [litPieces ["ce0891f46a18db93e7691f1cf73ed765", "93f7dec1b58f0927ccb56a99242bf63b",
      "c9551561f9ee7833d40395fae59547ab"],
    litPieces ["062ac322e26b10874a84977a09735408", "a856aec77ff62b4975b1e90e33c18f05",
      "220ea522cdbffc3b2cf4451cc209e418"],
    litPieces ["5fd86e8c3d5e45386f1ed0852de7e83a", "e1b774ee4366bd5213c9890e8e3ac8fa",
      "d3f7e690891d37f7c81ac20a445cc0ff"],
    hexEncode (List.replicate 48 0)]

/-- The default of an option that is not set. -/
def orDefault (value fallback : GoString) : GoString := if value = [] then fallback else value

section Generator

variable {Signer : Type}

def applyDefaults (opts : Options Signer) : Options Signer :=
  if opts.platform = lit "snp" then
    { opts with measurement := orDefault opts.measurement snpDefaultMeasurement }
  else if opts.platform = lit "tdx" then
    { opts with
      measurement := orDefault opts.measurement tdxDefaultMrTd
      mrSeam := orDefault opts.mrSeam tdxDefaultMrSeam
      rtmrs := orDefault opts.rtmrs (List.intercalate (lit ",") tdxDefaultRTMRs) }
  else opts

/-! ### The generator -/

/-- The random UUIDs of a call. -/
structure UUIDs where
  corim : Bytes
  tag : Bytes
  classID : Bytes
  measurement : Bytes
  mrSeam : Bytes
  rtmr : Nat → Bytes

/-- The libraries of the generator: CoRIM, and of `github.com/google/uuid` `UUID.String` and
`NewSHA1` in the OID name space. -/
structure Env (Signer : Type) where
  lib : Library Signer
  uuidString : Bytes → GoString
  newSHA1 : GoString → Bytes

variable (env : Env Signer) (uuids : UUIDs)

/-- A measurement with one digest, given in hexadecimal. The digest is declared as SHA-256. -/
def newMeasurement (decodeError createError : String) (uuid : Bytes) (text : GoString) :
    Except String Measurement := do
  let digest ← (hexDecode text).mapError fun e => decodeError ++ e.text
  let m ← (env.lib.newUUIDMeasurement uuid).mapError (createError ++ ·)
  return addDigest env.lib m 1 digest

/-- The measurement of the SEAM module, if the options give one. -/
def seamMeasurements (opts : Options Signer) : Except String (List Measurement) :=
  if opts.mrSeam = [] then .ok []
  else
    (newMeasurement env "failed to decode MRSEAM: " "failed to create MRSEAM measurement: "
      uuids.mrSeam opts.mrSeam).map fun m => [m]

/-- The runtime measurements, if the options give any. -/
def rtmrMeasurements (opts : Options Signer) : Except String (List Measurement) :=
  if opts.rtmrs = [] then .ok []
  else
    (split 0x2c opts.rtmrs).zipIdx.mapM fun (rtmr, i) =>
      newMeasurement env "failed to decode RTMR: " "failed to create RTMR measurement: "
        (uuids.rtmr i) (trimSpace rtmr)

/-- The measurements besides the main one, which only a TDX platform has. -/
def platformMeasurements (opts : Options Signer) : Except String (List Measurement) :=
  if opts.platform = lit "tdx" then do
    let seam ← seamMeasurements env uuids opts
    let rtmrs ← rtmrMeasurements env uuids opts
    return seam ++ rtmrs
  else .ok []

/-- The instance of the environment: the name of the product, if there is one. -/
def productInstance (opts : Options Signer) : Except String (Option Bytes) :=
  if opts.product = [] then .ok none
  else
    ((env.lib.newUUIDInstance (env.newSHA1 opts.product)).mapError
      ("failed to create instance: " ++ ·)).map some

/-- `createReferenceValue`. The host data, the policy and the launch TCB are not looked at. -/
def createReferenceValue (opts : Options Signer) : Except String ReferenceValue := do
  let instanceID ← productInstance env opts
  let main ← newMeasurement env "failed to decode measurement: " "failed to create measurement: "
    uuids.measurement opts.measurement
  let main := if 0 < opts.svn then setSVN main opts.svn else main
  let more ← platformMeasurements env uuids opts
  return { environment := { classID := uuids.classID, instanceID }, measurements := main :: more }

def createCoMID (opts : Options Signer) : Except String Comid := do
  let refVal ← createReferenceValue env uuids opts
  return { tagID := opts.platform ++ lit "-tag-" ++ env.uuidString uuids.tag
           referenceValues := some [refVal] }

/-- The unsigned manifest of a CoMID. Whether the CoMID was added is not checked. -/
def unsignedCorim (opts : Options Signer) (c : Comid) : UnsignedCorim :=
  addComid env.lib { id := opts.platform ++ lit "-corim-" ++ env.uuidString uuids.corim } c

def generateCoRIM (opts : Options Signer) : Except String Bytes := do
  let opts := applyDefaults opts
  let c ← (createCoMID env uuids opts).mapError ("failed to create CoMID: " ++ ·)
  match opts.signingKey with
  | none => env.lib.toCBOR (unsignedCorim env uuids opts c)
  | some key =>
    (env.lib.newSigner key).mapError ("failed to create COSE signer: " ++ ·)
    (env.lib.sign key (unsignedCorim env uuids opts c)).mapError ("failed to sign CoRIM: " ++ ·)

end Generator

/-! ### What a generated policy holds -/

section Generated

variable {Signer : Type} {env : Env Signer} {uuids : UUIDs} {opts : Options Signer} {b : Bytes}

/-- The file of a generated policy is read as the manifest that was made. -/
theorem parseCorim_of_generateCoRIM (hlib : Lawful env.lib)
    (h : generateCoRIM env uuids opts = .ok b) :
    ∃ c, createCoMID env uuids (applyDefaults opts) = .ok c ∧
      parseCorim env.lib b = .ok (unsignedCorim env uuids (applyDefaults opts) c) := by
  simp only [generateCoRIM, bind_ok_iff, mapError_ok_iff] at h
  obtain ⟨c, hc, h⟩ := h
  refine ⟨c, hc, ?_⟩
  unfold parseCorim
  split at h
  · obtain ⟨e, he⟩ := hlib.unsigned_not_cose h
    rw [he]
    exact hlib.unsigned_roundTrip h
  · simp only [bind_ok_iff, mapError_ok_iff] at h
    obtain ⟨_, -, hsign⟩ := h
    rw [hlib.signed_roundTrip hsign]

/-- A CoMID holds one reference value, and that the main measurement first. -/
theorem referenceValues_of_createCoMID {c : Comid} (h : createCoMID env uuids opts = .ok c) :
    ∃ rv, createReferenceValue env uuids opts = .ok rv ∧ c.referenceValues = some [rv] := by
  simp only [createCoMID, bind_ok_iff, pure_ok_iff] at h
  obtain ⟨rv, hrv, rfl⟩ := h
  exact ⟨rv, hrv, rfl⟩

/-- The digests of a new measurement: the one given, if the library takes it. -/
theorem digests_of_newMeasurement (hlib : Lawful env.lib) {e₁ e₂ : String} {uuid : Bytes}
    {text : GoString} {m : Measurement} (h : newMeasurement env e₁ e₂ uuid text = .ok m) :
    ∃ digest, hexDecode text = .ok digest ∧
      m.digests = if env.lib.validHashEntry 1 digest then some [⟨1, digest⟩] else none := by
  simp only [newMeasurement, bind_ok_iff, mapError_ok_iff, pure_ok_iff] at h
  obtain ⟨digest, hdig, m', hm', rfl⟩ := h
  refine ⟨digest, hdig, ?_⟩
  rw [hlib.newUUIDMeasurement hm', addDigest]
  split <;> rfl

/-- A reference value starts with the main measurement, and is made of it alone unless the
platform is TDX. -/
theorem measurements_of_createReferenceValue (hlib : Lawful env.lib) {rv : ReferenceValue}
    (h : createReferenceValue env uuids opts = .ok rv) :
    ∃ digest main more, hexDecode opts.measurement = .ok digest ∧ rv.measurements = main :: more ∧
      (main.digests = if env.lib.validHashEntry 1 digest then some [⟨1, digest⟩] else none) ∧
      (opts.platform ≠ lit "tdx" → more = []) := by
  simp only [createReferenceValue, bind_ok_iff, pure_ok_iff] at h
  obtain ⟨instanceID, -, main, hmain, more, hmore, rfl⟩ := h
  obtain ⟨digest, hdig, hdgs⟩ := digests_of_newMeasurement hlib hmain
  refine ⟨digest, _, more, hdig, rfl, ?_, ?_⟩
  · rw [← hdgs]
    split <;> rfl
  · intro hplat
    rw [platformMeasurements, if_neg hplat] at hmore
    exact (Except.ok.inj hmore).symm

end Generated

end SecureBinding.Corimgen
