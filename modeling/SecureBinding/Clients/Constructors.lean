import SecureBinding.Clients.Config
import SecureBinding.EA.Completeness
import SecureBinding.Runtime.Netguard

/-!
# Clients.Constructors

The model of the gRPC client (`connect`) and the HTTP client (`createTransport`), and of the
connections that they send application data on.

Both are handed a `ClientConfiguration`. The gRPC client asserts that it is a value of
`AttestedClientConfig`, the HTTP client that it is a pointer to one; each takes the form that
it does not expect for a configuration without attested TLS. The HTTP client sets its dialler
for TLS connections only, so that it has no part in a request to an `http` URL.
-/

namespace SecureBinding.Clients

open Go Go.Crypto EA Lib
open Netguard

/-! ### Connections -/

/-- A connection that application data is sent on. -/
inductive Connection
  /-- What `atls.DialContext` returns. -/
  | attested (conn : Transport.Conn)
  | tls
  | plaintext
  deriving Repr, DecidableEq

/-- What happens when a connection is made: the address, what dialling it returns, how a
handshake of TLS alone ends, and what `ClientContext` works with. -/
structure World (σ : Type) where
  network : GoString := lit "tcp"
  addr : GoString := []
  dial : GoString → GoString → Except String Unit
  handshake : Except String Unit
  context : Transport.Context
  net : Transport.Network
  now : Time
  replay : σ

section Dial

variable {P V σ : Type} (prim : Primitives V)

/-- The state that a connection with this configuration starts from. -/
def AtlsConfig.state (cfg : AtlsConfig P V σ) (w : World σ) : Transport.State V σ :=
  { ea := { verifyOpts := cfg.verifyOptions }, replay := w.replay }

/-- `atls.DialContext`, with a configuration and a context. -/
def dialContext (cfg : AtlsConfig P V σ) (network address : GoString) (w : World σ) :
    Except Transport.Error Transport.Conn := do
  (w.dial network address).mapError .external
  (Transport.clientContext prim (some w.context) w.net (some cfg.client) w.now (cfg.state w)).1

/-- The attested-TLS handshake succeeded for this connection, with evidence asked for. -/
def HandshakeSucceeded (w : World σ) (connection : Connection) : Prop :=
  ∃ (conn : Transport.Conn) (client : Transport.ClientConfig σ) (s : Transport.State V σ),
    connection = .attested conn ∧
    client.attestationPolicy.requiresAttestation = true ∧
    (Transport.clientContext prim (some w.context) w.net (some client) w.now s).1 = .ok conn

/-- All connections made this way are attested. -/
def OnlyAttested (connection : World σ → Option Connection) : Prop :=
  ∀ w conn, connection w = some conn → HandshakeSucceeded prim w conn

end Dial

/-! ### gRPC -/

/-- `credentials.TransportCredentials`. -/
inductive Credentials (P : Type)
  | insecure
  | tls (config : TLSConfig P)

/-- The gRPC client: its credentials, its dialler, and `Secure`. -/
structure GrpcClient (P V σ : Type) where
  credentials : Credentials P
  contextDialer : Option (AtlsConfig P V σ) := none
  security : Security

/-- `unix` or the given network, as `dialTarget` and `httpDialTarget` choose it. -/
def socketOr (network addr : GoString) : GoString × GoString :=
  if (lit "unix://").isPrefixOf addr then (lit "unix", addr.drop (lit "unix://").length)
  else if (lit "/").isPrefixOf addr then (lit "unix", addr)
  else (network, addr)

def dialTarget (addr : GoString) : GoString × GoString := socketOr (lit "tcp") addr

def httpDialTarget (network addr : GoString) : GoString × GoString := socketOr network addr

section Constructors

variable {P V Key σ : Type} (env : Environment P V Key σ)

def loadTLSConfig (serverCAFile clientCert clientKey : GoString) :
    Except LoadError (Credentials P × Security) := do
  let result ← loadBasicConfig env.files serverCAFile clientCert clientKey
  match result.config with
  | none => return (.insecure, result.security)
  | some config =>
    return (if result.security = .withoutTLS then .insecure else .tls config, result.security)

/-- `LoadATLSConfig` for a configuration, and then `buildATLSClientConfig`. -/
def loadAttested (nextProtos : List GoString) (c : AttestedClientConfig Key σ) :
    Except ClientError (AtlsConfig P V σ × Security) := do
  let (config, security) ← (loadATLSConfig env.files c.attestationPolicy c.serverCAFile c.clientCert
    c.clientKey).mapError .load
  let atlsConfig ← buildATLSClientConfig env nextProtos c config
  return (atlsConfig, security)

/-- The branch of `connect` without attested TLS. -/
def connectBasic (conf : StandardClientConfig) : Except ClientError (GrpcClient P V σ) := do
  let (credentials, security) ← (loadTLSConfig env conf.serverCAFile conf.clientCert
    conf.clientKey).mapError .load
  ensure (security ≠ .withoutTLS ∨ plaintextTargetAllowed conf.url = true) .plaintextRemoteGRPC
  return { credentials, security }

/-- The branch of `connect` with attested TLS. -/
def connectAttested (c : AttestedClientConfig Key σ) : Except ClientError (GrpcClient P V σ) := do
  let (atlsConfig, security) ← loadAttested env [lit "h2"] c
  return { credentials := .insecure, contextDialer := some atlsConfig, security }

def connect (cfg : ClientConfiguration Key σ) : Except ClientError (GrpcClient P V σ) := do
  let client ← match cfg with
    | .attested c .value =>
      if c.attestedTLS then connectAttested env c else connectBasic env cfg.config
    | _ => connectBasic env cfg.config
  (env.grpcNewClient cfg.config.url).mapError .grpcConnect
  return client

/-- The connection that the gRPC client sends requests on. -/
def GrpcClient.connection (prim : Primitives V) (client : GrpcClient P V σ) (w : World σ) :
    Option Connection :=
  match client.contextDialer with
  | some cfg =>
    let (network, target) := dialTarget w.addr
    (dialContext prim cfg network target w).toOption.map .attested
  | none =>
    match client.credentials, w.dial w.network w.addr, w.handshake with
    | .insecure, .ok _, _ => some .plaintext
    | .tls _, .ok _, .ok _ => some .tls
    | _, _, _ => none

/-! ### HTTP -/

/-- The HTTP client: the two fields of `http.Transport` that depend on the configuration, and
`Secure`. There is no proxy. -/
structure HttpClient (P V σ : Type) where
  dialTLSContext : Option (AtlsConfig P V σ) := none
  tlsClientConfig : Option (TLSConfig P) := none
  security : Security

/-- The branch of `createTransport` without attested TLS. -/
def createBasic (conf : StandardClientConfig) : Except ClientError (HttpClient P V σ) := do
  let result ← (loadBasicConfig env.files conf.serverCAFile conf.clientCert
    conf.clientKey).mapError .load
  return { tlsClientConfig := if result.security ≠ .withoutTLS then result.config else none,
           security := result.security }

/-- The branch of `createTransport` with attested TLS. -/
def createAttested (c : AttestedClientConfig Key σ) : Except ClientError (HttpClient P V σ) := do
  let (atlsConfig, security) ← loadAttested env [] c
  return { dialTLSContext := some atlsConfig, security }

def createTransport (cfg : ClientConfiguration Key σ) : Except ClientError (HttpClient P V σ) :=
  match cfg with
  | .attested c .pointer =>
    if c.attestedTLS then createAttested env c else createBasic env cfg.config
  | _ => createBasic env cfg.config

/-- The connection that the HTTP client sends a request on, by the scheme of its URL:
`DialTLSContext` is for `https` alone, and other schemes than these two are refused. -/
def HttpClient.connection (prim : Primitives V) (client : HttpClient P V σ) (scheme : GoString)
    (w : World σ) : Option Connection :=
  if scheme = lit "http" then (w.dial w.network w.addr).toOption.map fun _ => .plaintext
  else if scheme = lit "https" then
    match client.dialTLSContext with
    | some cfg =>
      let (network, target) := httpDialTarget w.network w.addr
      (dialContext prim cfg network target w).toOption.map .attested
    | none =>
      match w.dial w.network w.addr, w.handshake with
      | .ok _, .ok _ => some .tls
      | _, _ => none
  else none

end Constructors

/-! ### When the constructors succeed -/

section Outcome

variable {P V Key σ : Type} {env : Environment P V Key σ} {c : AttestedClientConfig Key σ}

/-- Attested TLS can be set up for a configuration. -/
structure AttestedLoads (env : Environment P V Key σ) (c : AttestedClientConfig Key σ) : Prop where
  files : ATLSLoads env.files c.attestationPolicy c.serverCAFile c.clientCert c.clientKey
  config : WellConfigured c

/-- TLS, or plaintext, can be set up for a configuration. -/
def TLSLoads (env : Environment P V Key σ) (conf : StandardClientConfig) : Prop :=
  BasicLoads env.files conf.serverCAFile conf.clientCert conf.clientKey

/-- The guard against plaintext lets the gRPC client pass: a file for TLS is configured, or
the target is taken for a local one. -/
def GuardPasses (conf : StandardClientConfig) : Prop :=
  ¬(conf.serverCAFile = [] ∧ conf.clientCert = [] ∧ conf.clientKey = []) ∨
    plaintextTargetAllowed conf.url = true

/-- `grpc.NewClient` takes the target. -/
def TargetTaken (env : Environment P V Key σ) (conf : StandardClientConfig) : Prop :=
  env.grpcNewClient conf.url = .ok ()

theorem loadAttested_isOk_iff {nextProtos : List GoString} :
    (∃ res, loadAttested env nextProtos c = .ok res) ↔ AttestedLoads env c := by
  constructor
  · rintro ⟨res, h⟩
    obtain ⟨⟨config, security⟩, hload, h⟩ := bind_ok_iff.mp h
    obtain ⟨atlsConfig, hbld, -⟩ := bind_ok_iff.mp h
    exact ⟨loadATLSConfig_isOk_iff.mp ⟨_, mapError_ok_iff.mp hload⟩,
      buildATLSClientConfig_isOk_iff.mp ⟨atlsConfig, hbld⟩⟩
  · intro h
    obtain ⟨⟨config, security⟩, hload⟩ := loadATLSConfig_isOk_iff.mpr h.files
    obtain ⟨atlsConfig, hbld⟩ :=
      (@buildATLSClientConfig_isOk_iff _ _ _ _ env c nextProtos config).mpr h.config
    exact ⟨_, bind_ok_iff.mpr ⟨(config, security), mapError_ok_iff.mpr hload,
      bind_ok_iff.mpr ⟨atlsConfig, hbld, rfl⟩⟩⟩

theorem requiresAttestation_of_loadAttested {nextProtos : List GoString}
    {res : AtlsConfig P V σ × Security} (h : loadAttested env nextProtos c = .ok res) :
    res.1.client.attestationPolicy.requiresAttestation = true := by
  obtain ⟨⟨config, security⟩, -, h⟩ := bind_ok_iff.mp h
  obtain ⟨atlsConfig, hbld, h⟩ := bind_ok_iff.mp h
  cases pure_ok_iff.mp h
  exact requiresAttestation_of_buildATLSClientConfig hbld

theorem loadTLSConfig_security {serverCAFile clientCert clientKey : GoString}
    {res : Credentials P × Security}
    (h : loadTLSConfig env serverCAFile clientCert clientKey = .ok res) :
    ∃ result, loadBasicConfig env.files serverCAFile clientCert clientKey = .ok result ∧
      res.2 = result.security := by
  obtain ⟨result, hload, h⟩ := bind_ok_iff.mp h
  refine ⟨result, hload, ?_⟩
  split at h
  · cases pure_ok_iff.mp h
    rfl
  · cases pure_ok_iff.mp h
    rfl

theorem loadTLSConfig_isOk {serverCAFile clientCert clientKey : GoString} {result : LoadResult P}
    (h : loadBasicConfig env.files serverCAFile clientCert clientKey = .ok result) :
    ∃ res, loadTLSConfig env serverCAFile clientCert clientKey = .ok res := by
  unfold loadTLSConfig
  rw [h, ok_bind]
  split
  · exact ⟨_, rfl⟩
  · exact ⟨_, rfl⟩

theorem connectBasic_isOk_iff {conf : StandardClientConfig} :
    (∃ client : GrpcClient P V σ, connectBasic env conf = .ok client) ↔
      TLSLoads env conf ∧ GuardPasses conf := by
  constructor
  · rintro ⟨client, h⟩
    obtain ⟨⟨credentials, security⟩, hload, h⟩ := bind_ok_iff.mp h
    obtain ⟨u, hg, -⟩ := bind_ok_iff.mp h
    obtain ⟨result, hbasic, rfl⟩ := loadTLSConfig_security (mapError_ok_iff.mp hload)
    refine ⟨loadBasicConfig_isOk_iff.mp ⟨result, hbasic⟩, ?_⟩
    obtain hsec | hall := ensure_ok_iff.mp hg
    · exact .inl fun hnil => hsec ((security_of_loadBasicConfig hbasic).mpr hnil)
    · exact .inr hall
  · rintro ⟨hload, hg⟩
    obtain ⟨result, hbasic⟩ := loadBasicConfig_isOk_iff.mpr hload
    obtain ⟨res, hres⟩ := @loadTLSConfig_isOk _ _ _ _ env _ _ _ _ hbasic
    obtain ⟨result', hbasic', hsec⟩ := loadTLSConfig_security hres
    refine ⟨_, bind_ok_iff.mpr ⟨res, mapError_ok_iff.mpr hres,
      bind_ok_iff.mpr ⟨(), ensure_ok_iff.mpr ?_, rfl⟩⟩⟩
    obtain hfile | hall := hg
    · refine .inl fun hnone => hfile ?_
      rw [hsec] at hnone
      exact (security_of_loadBasicConfig hbasic').mp hnone
    · exact .inr hall

theorem contextDialer_of_connectBasic {conf : StandardClientConfig} {client : GrpcClient P V σ}
    (h : connectBasic env conf = .ok client) : client.contextDialer = none := by
  obtain ⟨res, -, h⟩ := bind_ok_iff.mp h
  obtain ⟨u, -, h⟩ := bind_ok_iff.mp h
  cases pure_ok_iff.mp h
  rfl

end Outcome

end SecureBinding.Clients
