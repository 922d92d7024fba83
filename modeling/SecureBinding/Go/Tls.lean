import SecureBinding.Go.Strings

/-!
# Go.Tls

What the development needs of `crypto/tls`: the state of a connection, with the exporter
that belongs to it, and the numbers and names of the protocol.
-/

namespace SecureBinding.Go.Tls

def versionTLS13 : UInt16 := 0x0304

/-- `TLS_AES_128_GCM_SHA256`. -/
def tlsAes128GcmSha256 : UInt16 := 0x1301

/-- `TLS_AES_256_GCM_SHA384`. -/
def tlsAes256GcmSha384 : UInt16 := 0x1302

/-- `TLS_CHACHA20_POLY1305_SHA256`. -/
def tlsChacha20Poly1305Sha256 : UInt16 := 0x1303

def ecdsaWithP256AndSHA256 : UInt16 := 0x0403

def pssWithSHA256 : UInt16 := 0x0804

def ed25519 : UInt16 := 0x0807

/-- `ConnectionState`: the version, the cipher suite and `ExportKeyingMaterial`, which
returns as many bytes as it is asked for. -/
structure ConnectionState where
  version : UInt16
  cipherSuite : UInt16
  exportKeyingMaterial : GoString → Bytes → Nat → Except String Bytes
  length_of_export : ∀ {label context n out},
    exportKeyingMaterial label context n = .ok out → out.length = n

/-- The suites that have a name: those of `CipherSuites` and `InsecureCipherSuites`. -/
def cipherSuites : List (UInt16 × String) :=
  [(0x1301, "TLS_AES_128_GCM_SHA256"), (0x1302, "TLS_AES_256_GCM_SHA384"),
    (0x1303, "TLS_CHACHA20_POLY1305_SHA256"),
    (0xc009, "TLS_ECDHE_ECDSA_WITH_AES_128_CBC_SHA"),
    (0xc00a, "TLS_ECDHE_ECDSA_WITH_AES_256_CBC_SHA"),
    (0xc013, "TLS_ECDHE_RSA_WITH_AES_128_CBC_SHA"),
    (0xc014, "TLS_ECDHE_RSA_WITH_AES_256_CBC_SHA"),
    (0xc02b, "TLS_ECDHE_ECDSA_WITH_AES_128_GCM_SHA256"),
    (0xc02c, "TLS_ECDHE_ECDSA_WITH_AES_256_GCM_SHA384"),
    (0xc02f, "TLS_ECDHE_RSA_WITH_AES_128_GCM_SHA256"),
    (0xc030, "TLS_ECDHE_RSA_WITH_AES_256_GCM_SHA384"),
    (0xcca8, "TLS_ECDHE_RSA_WITH_CHACHA20_POLY1305_SHA256"),
    (0xcca9, "TLS_ECDHE_ECDSA_WITH_CHACHA20_POLY1305_SHA256"),
    (0x0005, "TLS_RSA_WITH_RC4_128_SHA"),
    (0x000a, "TLS_RSA_WITH_3DES_EDE_CBC_SHA"),
    (0x002f, "TLS_RSA_WITH_AES_128_CBC_SHA"),
    (0x0035, "TLS_RSA_WITH_AES_256_CBC_SHA"),
    (0x003c, "TLS_RSA_WITH_AES_128_CBC_SHA256"),
    (0x009c, "TLS_RSA_WITH_AES_128_GCM_SHA256"),
    (0x009d, "TLS_RSA_WITH_AES_256_GCM_SHA384"),
    (0xc007, "TLS_ECDHE_ECDSA_WITH_RC4_128_SHA"),
    (0xc011, "TLS_ECDHE_RSA_WITH_RC4_128_SHA"),
    (0xc012, "TLS_ECDHE_RSA_WITH_3DES_EDE_CBC_SHA"),
    (0xc023, "TLS_ECDHE_ECDSA_WITH_AES_128_CBC_SHA256"),
    (0xc027, "TLS_ECDHE_RSA_WITH_AES_128_CBC_SHA256")]

/-- The four hexadecimal digits of a number, as `%04x` writes them. -/
def hexDigits (v : UInt16) : List Char :=
  [v.toNat / 4096, v.toNat / 256, v.toNat / 16, v.toNat].map fun n => Nat.digitChar (n % 16)

/-- The verb `0x%04x`. -/
def formatHex (v : UInt16) : String := "0x" ++ String.ofList (hexDigits v)

/-- `CipherSuiteName`: a suite without a name is written as `0x%04X`. -/
def cipherSuiteName (v : UInt16) : String :=
  match cipherSuites.lookup v with
  | some name => name
  | none => "0x" ++ String.ofList ((hexDigits v).map Char.toUpper)

end SecureBinding.Go.Tls
