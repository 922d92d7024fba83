import SecureBinding.Go.Strings
import SecureBinding.Lib.Except

/-!
# Attestation.Corim

The interface to `github.com/veraison/corim`: manifests of reference values.

A CoRIM carries tags, and a tag that starts with `ComidTag` carries a CoMID, whose reference
values carry measurements with digests. The codecs and the validity checks of the library are
parameters (`Library`). What the development assumes of them is that decoding is the inverse of
encoding, and that a valid CoMID has valid parts (`Lawful`).
-/

namespace SecureBinding.Corim

open Go

/-! ### Manifests -/

structure HashEntry where
  hashAlgID : Nat
  hashValue : Bytes
  deriving Repr, DecidableEq

/-- `comid.Measurement`: its key, and of its values the digests and the security version
number. `others` stands for the values that are not read. -/
structure Measurement where
  key : Bytes
  digests : Option (List HashEntry) := none
  svn : Option Nat := none
  others : Bytes := []
  deriving Repr, DecidableEq

/-- `comid.Environment`: the identifiers of its class and its instance. -/
structure Environment where
  classID : Bytes
  instanceID : Option Bytes := none
  deriving Repr, DecidableEq

structure ReferenceValue where
  environment : Environment
  measurements : List Measurement
  deriving Repr, DecidableEq

/-- `comid.Comid`: its tag identity and its reference values, `none` for a nil pointer. -/
structure Comid where
  tagID : GoString
  tagVersion : Nat := 0
  referenceValues : Option (List ReferenceValue) := none
  deriving Repr, DecidableEq

structure UnsignedCorim where
  id : GoString := []
  tags : List Bytes := []
  deriving Repr, DecidableEq

/-- `corim.ComidTag`: the CBOR tag 506. -/
def comidTag : Bytes := [0xd9, 0x01, 0xfa]

/-! ### The library -/

/-- The library, for signing keys of type `Signer`. -/
structure Library (Signer : Type) where
  /-- `swid.ValidHashEntry`: does the length of a digest fit its algorithm? -/
  validHashEntry : Nat → Bytes → Bool
  /-- `comid.NewUUIDMeasurement`. -/
  newUUIDMeasurement : Bytes → Except String Measurement
  /-- `comid.NewUUIDInstance`. -/
  newUUIDInstance : Bytes → Except String Bytes
  /-- `Measurements.Valid`. -/
  measurementsValid : List Measurement → Except String Unit
  /-- `ReferenceValue.Valid`. -/
  referenceValueValid : ReferenceValue → Except String Unit
  /-- `Comid.Valid`. -/
  comidValid : Comid → Except String Unit
  /-- `Comid.ToCBOR`. -/
  comidToCBOR : Comid → Except String Bytes
  /-- `Comid.FromCBOR`. -/
  comidFromCBOR : Bytes → Except String Comid
  /-- `UnsignedCorim.ToCBOR`. -/
  toCBOR : UnsignedCorim → Except String Bytes
  /-- `UnsignedCorim.FromCBOR`. -/
  fromCBOR : Bytes → Except String UnsignedCorim
  /-- `cose.NewSigner` for ES256. -/
  newSigner : Signer → Except String Unit
  /-- `SignedCorim.Sign`. -/
  sign : Signer → UnsignedCorim → Except String Bytes
  /-- `SignedCorim.FromCOSE`, which reads the message and does not verify it. -/
  fromCOSE : Bytes → Except String UnsignedCorim

/-- The documented behaviour of the library. -/
structure Lawful {Signer : Type} (lib : Library Signer) : Prop where
  newUUIDMeasurement : ∀ {u m}, lib.newUUIDMeasurement u = .ok m → m = { key := u }
  comid_roundTrip : ∀ {c b}, lib.comidToCBOR c = .ok b → lib.comidFromCBOR b = .ok c
  unsigned_roundTrip : ∀ {u b}, lib.toCBOR u = .ok b → lib.fromCBOR b = .ok u
  /-- An unsigned manifest is not a COSE message. -/
  unsigned_not_cose : ∀ {u b}, lib.toCBOR u = .ok b → ∃ e, lib.fromCOSE b = .error e
  signed_roundTrip : ∀ {k u b}, lib.sign k u = .ok b → lib.fromCOSE b = .ok u
  /-- A valid CoMID has valid parts. -/
  valid_parts : ∀ {c rvs rv}, lib.comidValid c = .ok () → c.referenceValues = some rvs → rv ∈ rvs →
    lib.referenceValueValid rv = .ok () ∧ lib.measurementsValid rv.measurements = .ok ()

section

variable {Signer : Type} (lib : Library Signer)

/-- `Measurement.AddDigest`: a digest whose length does not fit its algorithm is refused. -/
def addDigest (m : Measurement) (algID : Nat) (digest : Bytes) : Measurement :=
  if lib.validHashEntry algID digest then
    { m with digests := some (m.digests.getD [] ++ [⟨algID, digest⟩]) }
  else m

def setSVN (m : Measurement) (svn : Nat) : Measurement := { m with svn := some svn }

/-- `UnsignedCorim.AddComid`: a CoMID that is not valid, or cannot be encoded, is not added. -/
def addComid (u : UnsignedCorim) (c : Comid) : UnsignedCorim :=
  match lib.comidValid c with
  | .error _ => u
  | .ok _ =>
    match lib.comidToCBOR c with
    | .error _ => u
    | .ok b => { u with tags := u.tags ++ [comidTag ++ b] }

/-- What `loadCoRIM` of `pkg/atls` makes of the contents of a file: a signed manifest, or else
an unsigned one. -/
def parseCorim (b : Bytes) : Except String UnsignedCorim :=
  match lib.fromCOSE b with
  | .ok u => .ok u
  | .error _ => lib.fromCBOR b

end

/-! ### A library for concrete runs -/

/-- A measurement without a value is not valid. -/
def valuesSet (ms : List Measurement) : Except String Unit :=
  if ms.all fun m => m.digests.isSome || m.svn.isSome || m.others ≠ [] then .ok ()
  else .error "no measurement value set"

/-- A library whose codecs know one CoMID and one manifest. Of the hash algorithms it has
SHA-256, which is 1, and SHA-384, which is 7. -/
def tableLibrary (c : Comid) (u : UnsignedCorim) : Library Unit where
  validHashEntry algID digest := algID == 1 && digest.length == 32 || algID == 7 && digest.length == 48
  newUUIDMeasurement uuid := .ok { key := uuid }
  newUUIDInstance := .ok
  measurementsValid := valuesSet
  referenceValueValid rv := valuesSet rv.measurements
  comidValid c := (c.referenceValues.getD []).forM fun rv => valuesSet rv.measurements
  comidToCBOR c' := if c' = c then .ok [1] else .error "unknown CoMID"
  comidFromCBOR b := if b = [1] then .ok c else .error "not a CoMID"
  toCBOR u' := if u' = u then .ok [2] else .error "unknown manifest"
  fromCBOR b := if b = [2] then .ok u else .error "not a manifest"
  newSigner _ := .ok ()
  sign _ _ := .error "no key"
  fromCOSE _ := .error "not a COSE message"

theorem tableLibrary_lawful (c : Comid) (u : UnsignedCorim) : Lawful (tableLibrary c u) where
  newUUIDMeasurement h := (Except.ok.inj h).symm
  comid_roundTrip := by
    intro c' b h
    simp only [tableLibrary] at h ⊢
    split at h <;> simp_all
  unsigned_roundTrip := by
    intro u' b h
    simp only [tableLibrary] at h ⊢
    split at h <;> simp_all
  unsigned_not_cose _ := ⟨_, rfl⟩
  signed_roundTrip h := by cases h
  valid_parts := by
    intro c' rvs rv hval hrvs hrv
    simp only [tableLibrary, hrvs, Option.getD_some, Lib.forM_ok_iff] at hval
    exact ⟨hval rv hrv, hval rv hrv⟩

end SecureBinding.Corim
