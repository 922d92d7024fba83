import SecureBinding.EA.Create

/-!
# Clients.TlsConfig

The model of `pkg/tls`: what the clients load from files for TLS and for attested TLS.

A pool of certificates is a value of a type `P`. The files, and what `crypto/tls` and
`crypto/x509` make of them, are an environment.
-/

namespace SecureBinding.Clients

open Go EA Lib

inductive Security
  | withoutTLS
  | withTLS
  | withMTLS
  | withATLS
  | withMATLS
  deriving Repr, DecidableEq

inductive LoadError
  | statPolicy (text : String)
  | policyIrregular
  | missingRootCA
  | readCertificate (text : String)
  | appendRootCA
  | rootCA (err : LoadError)
  | clientCertKey (text : String)

/-- `tls.Config` of `crypto/tls`, with the fields that are set. -/
structure TLSConfig (P : Type) where
  minVersion : UInt16
  rootCAs : Option P := none
  certificates : List Identity := []
  nextProtos : List GoString := []

/-- `Result`. -/
structure LoadResult (P : Type) where
  config : Option (TLSConfig P)
  security : Security

structure Files (P : Type) where
  /-- `os.Stat`, and whether the file is a regular one. -/
  stat : GoString → Except String Bool
  readFile : GoString → Except String Bytes
  /-- `AppendCertsFromPEM` on a new pool; none if there was nothing to append. -/
  appendCertsFromPEM : Bytes → Option P
  loadX509KeyPair : GoString → GoString → Except String Identity

def versionTLS12 : UInt16 := 0x0303

section Load

variable {P : Type} (files : Files P)

def loadRootCAs (serverCAFile : GoString) : Except LoadError P := do
  let certPEM ← (files.readFile serverCAFile).mapError .readCertificate
  ofOption .appendRootCA (files.appendCertsFromPEM certPEM)

def validateRegularFile (path : GoString) : Except LoadError Unit := do
  let regular ← (files.stat path).mapError .statPolicy
  ensure (regular = true) .policyIrregular

/-- The certificate of the client, if one is configured. -/
def loadClientCertificate (clientCert clientKey : GoString) : Except LoadError (Option Identity) :=
  if clientCert ≠ [] ∨ clientKey ≠ [] then
    ((files.loadX509KeyPair clientCert clientKey).mapError .clientCertKey).map some
  else .ok none

/-- The roots of `LoadBasicConfig`, if a file for them is configured. -/
def loadBasicRoots (serverCAFile : GoString) : Except LoadError (Option P) :=
  if serverCAFile ≠ [] then ((loadRootCAs files serverCAFile).mapError .rootCA).map some
  else .ok none

def loadBasicConfig (serverCAFile clientCert clientKey : GoString) :
    Except LoadError (LoadResult P) :=
  if serverCAFile = [] ∧ clientCert = [] ∧ clientKey = [] then .ok ⟨none, .withoutTLS⟩
  else do
    let rootCAs ← loadBasicRoots files serverCAFile
    let certificate ← loadClientCertificate files clientCert clientKey
    return {
      config := some { minVersion := versionTLS12, rootCAs, certificates := certificate.toList }
      security :=
        if certificate.isSome then .withMTLS else if rootCAs.isSome then .withTLS
        else .withoutTLS }

/-- `LoadATLSConfig`. Its last assignment, of a variable that nothing reads, is left out. -/
def loadATLSConfig (attestationPolicy serverCAFile clientCert clientKey : GoString) :
    Except LoadError (TLSConfig P × Security) := do
  validateRegularFile files attestationPolicy
  ensure (serverCAFile ≠ []) .missingRootCA
  let rootCAs ← loadRootCAs files serverCAFile
  let certificate ← loadClientCertificate files clientCert clientKey
  return ({ minVersion := Tls.versionTLS13, rootCAs := some rootCAs,
            certificates := certificate.toList }, .withMATLS)

end Load

/-! ### When loading succeeds -/

variable {P : Type} {files : Files P}

/-- The configured roots can be loaded. -/
def RootsLoad (files : Files P) (serverCAFile : GoString) : Prop :=
  ∃ pool, loadRootCAs files serverCAFile = .ok pool

/-- The certificate of the client can be loaded, if one is configured. -/
def CertificateLoads (files : Files P) (clientCert clientKey : GoString) : Prop :=
  clientCert = [] ∧ clientKey = [] ∨ ∃ identity, files.loadX509KeyPair clientCert clientKey = .ok identity

variable {clientCert clientKey serverCAFile : GoString}

theorem loadClientCertificate_isOk_iff :
    (∃ certificate, loadClientCertificate files clientCert clientKey = .ok certificate) ↔
      CertificateLoads files clientCert clientKey := by
  unfold loadClientCertificate CertificateLoads
  by_cases h : clientCert ≠ [] ∨ clientKey ≠ []
  · have hnot : ¬(clientCert = [] ∧ clientKey = []) := by
      intro hnil
      obtain h | h := h
      · exact h hnil.1
      · exact h hnil.2
    simp only [if_pos h, map_ok_iff, mapError_ok_iff, hnot, false_or]
    constructor
    · rintro ⟨_, identity, hload, -⟩
      exact ⟨identity, hload⟩
    · rintro ⟨identity, hload⟩
      exact ⟨some identity, identity, hload, rfl⟩
  · have hnil : clientCert = [] ∧ clientKey = [] := by simpa using h
    simp [hnil]

theorem loadBasicRoots_isOk_iff : (∃ roots, loadBasicRoots files serverCAFile = .ok roots) ↔
      serverCAFile = [] ∨ RootsLoad files serverCAFile := by
  unfold loadBasicRoots RootsLoad
  by_cases h : serverCAFile = []
  · simp [h]
  · simp only [ne_eq, h, not_false_eq_true, if_true, map_ok_iff, mapError_ok_iff, false_or]
    constructor
    · rintro ⟨_, pool, hload, -⟩
      exact ⟨pool, hload⟩
    · rintro ⟨pool, hload⟩
      exact ⟨some pool, pool, hload, rfl⟩

/-- `LoadBasicConfig` succeeds. -/
structure BasicLoads (files : Files P) (serverCAFile clientCert clientKey : GoString) : Prop where
  roots : serverCAFile = [] ∨ RootsLoad files serverCAFile
  certificate : CertificateLoads files clientCert clientKey

theorem loadBasicConfig_isOk_iff :
    (∃ res, loadBasicConfig files serverCAFile clientCert clientKey = .ok res) ↔
      BasicLoads files serverCAFile clientCert clientKey := by
  constructor
  · rintro ⟨res, h⟩
    unfold loadBasicConfig at h
    split at h
    · rename_i hnil
      exact ⟨.inl hnil.1, .inl hnil.2⟩
    · obtain ⟨roots, hroots, h⟩ := bind_ok_iff.mp h
      obtain ⟨certificate, hcert, -⟩ := bind_ok_iff.mp h
      exact ⟨loadBasicRoots_isOk_iff.mp ⟨roots, hroots⟩,
        loadClientCertificate_isOk_iff.mp ⟨certificate, hcert⟩⟩
  · intro h
    obtain ⟨roots, hroots⟩ := loadBasicRoots_isOk_iff.mpr h.roots
    obtain ⟨certificate, hcert⟩ := loadClientCertificate_isOk_iff.mpr h.certificate
    unfold loadBasicConfig
    split
    · exact ⟨_, rfl⟩
    · rw [hroots, hcert]
      exact ⟨_, rfl⟩

/-- Without a configured file there is no TLS; with one there is. -/
theorem security_of_loadBasicConfig
    {res : LoadResult P} (h : loadBasicConfig files serverCAFile clientCert clientKey = .ok res) :
    res.security = .withoutTLS ↔ serverCAFile = [] ∧ clientCert = [] ∧ clientKey = [] := by
  unfold loadBasicConfig at h
  split at h
  · rename_i hnil
    cases h
    simp [hnil]
  · rename_i hnot
    simp only [hnot]
    obtain ⟨roots, hroots, h⟩ := bind_ok_iff.mp h
    obtain ⟨certificate, hcert, h⟩ := bind_ok_iff.mp h
    cases pure_ok_iff.mp h
    -- One of the two is there, since one of the files is configured.
    have hsome : certificate.isSome = true ∨ roots.isSome = true := by
      by_cases hca : serverCAFile = []
      · left
        have hcli : clientCert ≠ [] ∨ clientKey ≠ [] := by
          by_contra hnone
          simp only [not_or, not_not] at hnone
          exact hnot ⟨hca, hnone⟩
        rw [loadClientCertificate, if_pos hcli] at hcert
        obtain ⟨identity, -, rfl⟩ := map_ok_iff.mp hcert
        rfl
      · right
        rw [loadBasicRoots, if_pos hca] at hroots
        obtain ⟨pool, -, rfl⟩ := map_ok_iff.mp hroots
        rfl
    obtain hsome | hsome := hsome
    · simp [hsome]
    · simp only
      split <;> simp

/-- `LoadATLSConfig` succeeds. -/
structure ATLSLoads (files : Files P) (attestationPolicy serverCAFile clientCert clientKey : GoString) :
    Prop where
  policy : files.stat attestationPolicy = .ok true
  roots : serverCAFile ≠ [] ∧ RootsLoad files serverCAFile
  certificate : CertificateLoads files clientCert clientKey

theorem loadATLSConfig_isOk_iff {attestationPolicy : GoString} :
    (∃ res, loadATLSConfig files attestationPolicy serverCAFile clientCert clientKey = .ok res) ↔
      ATLSLoads files attestationPolicy serverCAFile clientCert clientKey := by
  constructor
  · rintro ⟨res, h⟩
    obtain ⟨u, hpol, h⟩ := bind_ok_iff.mp h
    obtain ⟨regular, hstat, hregular⟩ := bind_ok_iff.mp hpol
    obtain ⟨u', hca, h⟩ := bind_ok_iff.mp h
    obtain ⟨pool, hpool, h⟩ := bind_ok_iff.mp h
    obtain ⟨certificate, hcert, -⟩ := bind_ok_iff.mp h
    refine ⟨?_, ⟨ensure_ok_iff.mp hca, pool, hpool⟩,
      loadClientCertificate_isOk_iff.mp ⟨certificate, hcert⟩⟩
    rw [mapError_ok_iff.mp hstat, ensure_ok_iff.mp hregular]
  · intro h
    obtain ⟨hca, pool, hpool⟩ := h.roots
    obtain ⟨certificate, hcert⟩ := loadClientCertificate_isOk_iff.mpr h.certificate
    have hpol : validateRegularFile files attestationPolicy = .ok () :=
      bind_ok_iff.mpr ⟨true, mapError_ok_iff.mpr h.policy, rfl⟩
    refine ⟨_, bind_ok_iff.mpr ⟨(), hpol, bind_ok_iff.mpr ⟨(), ensure_ok_iff.mpr hca,
      bind_ok_iff.mpr ⟨pool, hpool, bind_ok_iff.mpr ⟨certificate, hcert, rfl⟩⟩⟩⟩⟩

/-- What attested TLS needs is enough for plain TLS. -/
theorem ATLSLoads.basic {attestationPolicy : GoString}
    (h : ATLSLoads files attestationPolicy serverCAFile clientCert clientKey) :
    BasicLoads files serverCAFile clientCert clientKey :=
  ⟨.inr h.roots.2, h.certificate⟩

end SecureBinding.Clients
