import SecureBinding.Go.Strings

/-!
# Go.Crypto

The cryptography the development rests on, as an environment: hashes and MACs with the
lengths they have, signatures, and what is used of `crypto/x509`.
-/

namespace SecureBinding.Go.Crypto

inductive Hash
  | sha256
  | sha384
  | sha512
  deriving Repr, DecidableEq

def Hash.size : Hash → Nat
  | sha256 => 32
  | sha384 => 48
  | sha512 => 64

/-- A public key, by its type in Go. -/
inductive PublicKey
  | ecdsa (key : Bytes)
  | rsa (key : Bytes)
  | ed25519 (key : Bytes)
  | other (key : Bytes)
  deriving Repr, DecidableEq

/-- `x509.Certificate`, with the fields that are read. -/
structure Certificate where
  raw : Bytes
  rawSubjectPublicKeyInfo : Bytes
  publicKey : PublicKey
  deriving Repr, DecidableEq

/-- `x509.VerifyOptions`: the pool of intermediates, and `settings` for the rest. The
pool is a pointer, and `none` when it is nil. -/
structure VerifyOptions (V : Type) where
  settings : V
  intermediates : Option (List Certificate) := none

/-- `CertPool.AddCert`: a certificate is added once. -/
def addCert (pool : List Certificate) (c : Certificate) : List Certificate :=
  if pool.any fun d => d.raw == c.raw then pool else pool ++ [c]

structure Primitives (V : Type) where
  sum : Hash → Bytes → Bytes
  length_sum : ∀ h data, (sum h data).length = h.size
  hmac : Hash → Bytes → Bytes → Bytes
  length_hmac : ∀ h key data, (hmac h key data).length = h.size
  /-- `ecdsa.VerifyASN1`: key, digest, signature. -/
  verifyASN1 : Bytes → Bytes → Bytes → Bool
  /-- `rsa.VerifyPSS` with SHA-256 and a salt as long as the hash. -/
  verifyPSS : Bytes → Bytes → Bytes → Bool
  /-- `ed25519.Verify`: key, message, signature. -/
  verifyEd25519 : Bytes → Bytes → Bytes → Bool
  parseCertificate : Bytes → Except String Certificate
  marshalPKIXPublicKey : PublicKey → Except String Bytes
  /-- `Certificate.Verify`: settings, intermediates, leaf. -/
  verifyCertificate : V → List Certificate → Certificate → Except String Unit

/-! ### Signing -/

/-- A private key, by its type in Go; of an ECDSA key also the name of the curve. -/
inductive PrivateKey
  | ecdsa (curve : String) (key : Bytes)
  | rsa (key : Bytes)
  | ed25519 (key : Bytes)
  | other (key : Bytes)

/-- What one call gets from `rand.Reader`, alone and inside of the signatures it makes. -/
structure Signer where
  /-- `rand.Read`, for a number of bytes. -/
  read : Nat → Except String Bytes
  length_of_read : ∀ {n out}, read n = .ok out → out.length = n
  /-- The bytes of the public key that belongs to a key. -/
  publicBytes : PrivateKey → Bytes
  /-- `ecdsa.SignASN1`: curve, key, digest. -/
  signASN1 : String → Bytes → Bytes → Except String Bytes
  /-- `rsa.SignPSS` with SHA-256 and a salt as long as the hash. -/
  signPSS : Bytes → Bytes → Except String Bytes
  /-- `ed25519.Sign`: key, message. -/
  signEd25519 : Bytes → Bytes → Bytes

/-- `Public`. -/
def Signer.publicKey (signer : Signer) (priv : PrivateKey) : PublicKey :=
  match priv with
  | .ecdsa _ _ => .ecdsa (signer.publicBytes priv)
  | .rsa _ => .rsa (signer.publicBytes priv)
  | .ed25519 _ => .ed25519 (signer.publicBytes priv)
  | .other _ => .other (signer.publicBytes priv)

/-- Signatures verify under the public key. -/
structure Signer.Correct {V : Type} (signer : Signer) (prim : Primitives V) : Prop where
  asn1 : ∀ {curve k digest sig}, signer.signASN1 curve k digest = .ok sig →
    prim.verifyASN1 (signer.publicBytes (.ecdsa curve k)) digest sig = true
  pss : ∀ {k digest sig}, signer.signPSS k digest = .ok sig →
    prim.verifyPSS (signer.publicBytes (.rsa k)) digest sig = true
  ed25519 : ∀ k msg,
    prim.verifyEd25519 (signer.publicBytes (.ed25519 k)) msg (signer.signEd25519 k msg) = true

/-- `sha256.Sum256`. -/
def Primitives.sha256 {V : Type} (prim : Primitives V) : Bytes → Bytes := prim.sum .sha256

/-! ### A sample environment -/

/-- Primitives to run the models with: every hash and MAC repeats the sum of what goes in, every
certificate is its own key, every chain is good, and a signature is the key and what is signed. -/
def samplePrimitives : Primitives Unit where
  sum h data := List.replicate h.size (data.foldl (· + ·) 0)
  length_sum _ _ := List.length_replicate
  hmac h key data := List.replicate h.size ((key ++ data).foldl (· + ·) 0)
  length_hmac _ _ _ := List.length_replicate
  verifyASN1 key digest sig := sig = key ++ digest
  verifyPSS key digest sig := sig = key ++ digest
  verifyEd25519 key msg sig := sig = key ++ msg
  parseCertificate der := .ok ⟨der, der, .ecdsa der⟩
  marshalPKIXPublicKey _ := .error "x509: unknown public key"
  verifyCertificate _ _ _ := .ok ()

/-- The signer that belongs to them: a key is its own public key. -/
def sampleSigner : Signer where
  read n := .ok (List.replicate n 1)
  length_of_read h := by
    cases h
    exact List.length_replicate
  publicBytes
    | .ecdsa _ k | .rsa k | .ed25519 k | .other k => k
  signASN1 _ k digest := .ok (k ++ digest)
  signPSS k digest := .ok (k ++ digest)
  signEd25519 k msg := k ++ msg

theorem sampleSigner_correct : sampleSigner.Correct samplePrimitives where
  asn1 h := by
    cases h
    exact decide_eq_true rfl
  pss h := by
    cases h
    exact decide_eq_true rfl
  ed25519 _ _ := decide_eq_true rfl

end SecureBinding.Go.Crypto
