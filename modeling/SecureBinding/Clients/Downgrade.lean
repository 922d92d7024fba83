import SecureBinding.Atls.Forgery
import SecureBinding.Clients.Constructors

/-!
# Clients.Downgrade

Which clients use attested TLS when their configuration asks for it.

The gRPC client does for a configuration that is passed by value, the HTTP client for one
that is passed by pointer, and for URLs other than `http` ones. No configuration makes both
clients use it; they agree only where both refuse.
-/

namespace SecureBinding.Clients

open Go Go.Crypto EA Lib
open Netguard

variable {P V Key σ : Type} {prim : Primitives V} {env : Environment P V Key σ}
  {c : AttestedClientConfig Key σ}

/-! ### What the branches return -/

theorem of_connectAttested {client : GrpcClient P V σ} (h : connectAttested env c = .ok client) :
    AttestedLoads env c ∧ ∃ cfg, client.contextDialer = some cfg ∧
      cfg.client.attestationPolicy.requiresAttestation = true := by
  obtain ⟨⟨atlsConfig, security⟩, hload, h⟩ := bind_ok_iff.mp h
  cases pure_ok_iff.mp h
  exact ⟨loadAttested_isOk_iff.mp ⟨_, hload⟩, atlsConfig, rfl,
    requiresAttestation_of_loadAttested hload⟩

variable {client : HttpClient P V σ} {cfg : AtlsConfig P V σ} {scheme : GoString}

theorem of_createAttested (h : createAttested env c = .ok client) :
    AttestedLoads env c ∧ ∃ cfg, client.dialTLSContext = some cfg ∧
      cfg.client.attestationPolicy.requiresAttestation = true := by
  obtain ⟨⟨atlsConfig, security⟩, hload, h⟩ := bind_ok_iff.mp h
  cases pure_ok_iff.mp h
  exact ⟨loadAttested_isOk_iff.mp ⟨_, hload⟩, atlsConfig, rfl,
    requiresAttestation_of_loadAttested hload⟩

theorem exists_createAttested (h : AttestedLoads env c) :
    ∃ client, createAttested env c = .ok client := by
  obtain ⟨res, hload⟩ := loadAttested_isOk_iff.mpr h
  exact ⟨_, bind_ok_iff.mpr ⟨res, hload, rfl⟩⟩

theorem of_createBasic {conf : StandardClientConfig} (h : createBasic env conf = .ok client) :
    TLSLoads env conf ∧ client.dialTLSContext = none := by
  obtain ⟨result, hload, h⟩ := bind_ok_iff.mp h
  cases pure_ok_iff.mp h
  exact ⟨loadBasicConfig_isOk_iff.mp ⟨result, mapError_ok_iff.mp hload⟩, rfl⟩

theorem exists_createBasic {conf : StandardClientConfig} (h : TLSLoads env conf) :
    ∃ client : HttpClient P V σ, createBasic env conf = .ok client := by
  obtain ⟨result, hload⟩ := loadBasicConfig_isOk_iff.mpr h
  exact ⟨_, bind_ok_iff.mpr ⟨result, mapError_ok_iff.mpr hload, rfl⟩⟩

/-! ### Which branch is taken -/

theorem connect_value (h : c.attestedTLS = true) (client : GrpcClient P V σ) :
    connect env (.attested c .value) = .ok client ↔
      connectAttested env c = .ok client ∧ TargetTaken env c.toStandardClientConfig := by
  simp only [connect, h, if_true, bind_check_ok_iff, mapError_ok_iff]
  rfl

theorem connect_pointer (client : GrpcClient P V σ) :
    connect env (.attested c .pointer) = .ok client ↔
      connectBasic env c.toStandardClientConfig = .ok client ∧
        TargetTaken env c.toStandardClientConfig := by
  simp only [connect, bind_check_ok_iff, mapError_ok_iff]
  rfl

/-- The gRPC client without attested TLS can be constructed. -/
structure PlainGrpc (env : Environment P V Key σ) (conf : StandardClientConfig) : Prop where
  tls : TLSLoads env conf
  guard : GuardPasses conf
  target : TargetTaken env conf

theorem exists_connect_pointer_iff :
    (∃ client, connect env (.attested c .pointer) = .ok client) ↔
      PlainGrpc env c.toStandardClientConfig := by
  constructor
  · rintro ⟨client, h⟩
    obtain ⟨hcon, htgt⟩ := (connect_pointer client).mp h
    obtain ⟨htls, hg⟩ := connectBasic_isOk_iff.mp ⟨client, hcon⟩
    exact ⟨htls, hg, htgt⟩
  · intro h
    obtain ⟨client, hcon⟩ := connectBasic_isOk_iff.mpr ⟨h.tls, h.guard⟩
    exact ⟨client, (connect_pointer client).mpr ⟨hcon, h.target⟩⟩

theorem createTransport_pointer (h : c.attestedTLS = true) :
    createTransport env (.attested c .pointer) = createAttested env c := by
  rw [createTransport, if_pos h]

/-! ### Connections -/

theorem handshakeSucceeded_of_dialContext {network address : GoString}
    {w : World σ} {conn : Connection}
    (hpol : cfg.client.attestationPolicy.requiresAttestation = true)
    (h : (dialContext prim cfg network address w).toOption.map .attested = some conn) :
    HandshakeSucceeded prim w conn := by
  obtain ⟨conn', hconn, rfl⟩ := Option.map_eq_some_iff.mp h
  cases hdial : dialContext prim cfg network address w with
  | error e =>
    rw [hdial] at hconn
    cases hconn
  | ok conn'' =>
    rw [hdial] at hconn
    cases hconn
    obtain ⟨u, -, hcli⟩ := bind_ok_iff.mp hdial
    exact ⟨conn', cfg.client, cfg.state w, rfl, hpol, hcli⟩

/-- A world in which dialling and the handshake of TLS succeed. -/
def willingWorld [Inhabited σ] : World σ where
  dial _ _ := .ok ()
  handshake := .ok ()
  context := {}
  net := ⟨.ok (), connectionWith 7, .ok [], fun _ => .ok (), fun _ => []⟩
  now := 0
  replay := default

theorem not_handshakeSucceeded {w : World σ} {conn : Connection}
    (h : conn = .tls ∨ conn = .plaintext) : ¬HandshakeSucceeded prim w conn := by
  rintro ⟨conn', client, s, rfl, -, -⟩
  obtain h | h := h <;> cases h

theorem GrpcClient.onlyAttested {client : GrpcClient P V σ} (hdia : client.contextDialer = some cfg)
    (hpol : cfg.client.attestationPolicy.requiresAttestation = true) :
    OnlyAttested prim (client.connection prim) := by
  intro w conn hconn
  unfold GrpcClient.connection at hconn
  rw [hdia] at hconn
  exact handshakeSucceeded_of_dialContext hpol hconn

theorem GrpcClient.not_onlyAttested [Inhabited σ] {client : GrpcClient P V σ}
    (hdia : client.contextDialer = none) : ¬OnlyAttested prim (client.connection prim) := by
  intro h
  have hconn : ∃ conn, client.connection prim (willingWorld (σ := σ)) = some conn ∧
      (conn = .tls ∨ conn = .plaintext) := by
    unfold GrpcClient.connection
    rw [hdia]
    cases client.credentials with
    | insecure => exact ⟨.plaintext, rfl, .inr rfl⟩
    | tls config => exact ⟨.tls, rfl, .inl rfl⟩
  obtain ⟨conn, hconn, hkind⟩ := hconn
  exact not_handshakeSucceeded hkind (h _ conn hconn)

/-- No dialler has a part in requests to `http` URLs. -/
theorem HttpClient.not_onlyAttested_http [Inhabited σ] :
    ¬OnlyAttested prim (client.connection prim (lit "http")) := by
  intro h
  exact not_handshakeSucceeded (.inr rfl) (h (willingWorld (σ := σ)) .plaintext rfl)

/-- With the dialler, all URLs but the `http` ones are for attested connections. -/
theorem HttpClient.onlyAttested_iff [Inhabited σ] (hdia : client.dialTLSContext = some cfg)
    (hpol : cfg.client.attestationPolicy.requiresAttestation = true) :
    OnlyAttested prim (client.connection prim scheme) ↔ scheme ≠ lit "http" := by
  constructor
  · intro h hhttp
    subst hhttp
    exact HttpClient.not_onlyAttested_http h
  · intro hhttp w conn hconn
    rw [HttpClient.connection, if_neg hhttp] at hconn
    split at hconn
    · rw [hdia] at hconn
      exact handshakeSucceeded_of_dialContext hpol hconn
    · cases hconn

/-- Without it, only URLs that no request is sent to. -/
theorem HttpClient.onlyAttested_iff_of_none [Inhabited σ] (hdia : client.dialTLSContext = none) :
    OnlyAttested prim (client.connection prim scheme) ↔
      scheme ≠ lit "http" ∧ scheme ≠ lit "https" := by
  constructor
  · intro h
    refine ⟨?_, ?_⟩
    · intro hhttp
      subst hhttp
      exact HttpClient.not_onlyAttested_http h
    · intro hhttps
      subst hhttps
      have hconn : client.connection prim (lit "https") (willingWorld (σ := σ)) = some .tls := by
        rw [HttpClient.connection, if_neg (by decide), if_pos rfl, hdia]
        rfl
      exact not_handshakeSucceeded (.inl rfl) (h _ .tls hconn)
  · intro hsch w conn hconn
    rw [HttpClient.connection, if_neg hsch.1, if_neg hsch.2] at hconn
    cases hconn

/-! ### Downgrades -/

/-- The gRPC client, if there is one, sends requests on attested connections only. -/
def GrpcAttested (prim : Primitives V) (env : Environment P V Key σ)
    (cfg : ClientConfiguration Key σ) : Prop :=
  ∀ client, connect env cfg = .ok client → OnlyAttested prim (client.connection prim)

/-- The HTTP client, if there is one, sends requests to URLs with this scheme on attested
connections only. -/
def HttpAttested (prim : Primitives V) (env : Environment P V Key σ)
    (cfg : ClientConfiguration Key σ) (scheme : GoString) : Prop :=
  ∀ client, createTransport env cfg = .ok client → OnlyAttested prim (client.connection prim scheme)

/-- Both constructors use attested TLS, or both fail. -/
def Agree (env : Environment P V Key σ) (cfg : ClientConfiguration Key σ) : Prop :=
  (∃ grpc http, connect env cfg = .ok grpc ∧ createTransport env cfg = .ok http ∧
      grpc.contextDialer.isSome = true ∧ http.dialTLSContext.isSome = true) ∨
    (¬∃ grpc, connect env cfg = .ok grpc) ∧ ¬∃ http, createTransport env cfg = .ok http

section Asked

variable (h : c.attestedTLS = true)

include h

theorem grpcAttested_value : GrpcAttested prim env (.attested c .value) := by
  intro client hcon
  obtain ⟨-, cfg, hdia, hpol⟩ := of_connectAttested ((connect_value h client).mp hcon).1
  exact GrpcClient.onlyAttested hdia hpol

theorem agree_value_iff :
    Agree env (.attested c .value) ↔ ¬TLSLoads env c.toStandardClientConfig := by
  constructor
  · rintro (⟨grpc, http, -, hhttp, -, hdia⟩ | ⟨-, hnone⟩) hload
    · rw [(of_createBasic hhttp).2] at hdia
      cases hdia
    · exact hnone (exists_createBasic hload)
  · intro hload
    refine .inr ⟨?_, ?_⟩
    · rintro ⟨grpc, hgrpc⟩
      -- What attested TLS is loaded from would do for TLS as well.
      exact hload (of_connectAttested ((connect_value h grpc).mp hgrpc).1).1.files.basic
    · rintro ⟨http, hhttp⟩
      exact hload (of_createBasic hhttp).1

theorem httpAttested_pointer_iff [Inhabited σ] :
    HttpAttested prim env (.attested c .pointer) scheme ↔
      (AttestedLoads env c → scheme ≠ lit "http") := by
  have honly : ∀ client, createTransport env (.attested c .pointer) = .ok client →
      (OnlyAttested prim (client.connection prim scheme) ↔ scheme ≠ lit "http") := by
    intro client hcli
    rw [createTransport_pointer h] at hcli
    obtain ⟨-, cfg, hdia, hpol⟩ := of_createAttested hcli
    exact HttpClient.onlyAttested_iff hdia hpol
  constructor
  · intro hatt hload
    obtain ⟨client, hcli⟩ := exists_createAttested hload
    rw [← createTransport_pointer h] at hcli
    exact (honly client hcli).mp (hatt client hcli)
  · intro hsch client hcli
    refine (honly client hcli).mpr (hsch ?_)
    rw [createTransport_pointer h] at hcli
    exact (of_createAttested hcli).1

theorem agree_pointer_iff :
    Agree env (.attested c .pointer) ↔
      ¬AttestedLoads env c ∧ ¬PlainGrpc env c.toStandardClientConfig := by
  constructor
  · rintro (⟨grpc, http, hgrpc, -, hdia, -⟩ | ⟨hgrpc, hhttp⟩)
    · rw [contextDialer_of_connectBasic ((connect_pointer grpc).mp hgrpc).1] at hdia
      cases hdia
    · refine ⟨fun hload => hhttp ?_, fun hpl => hgrpc (exists_connect_pointer_iff.mpr hpl)⟩
      rw [createTransport_pointer h]
      exact exists_createAttested hload
  · rintro ⟨hload, hpl⟩
    refine .inr ⟨fun hgrpc => hpl (exists_connect_pointer_iff.mp hgrpc), ?_⟩
    rintro ⟨http, hhttp⟩
    rw [createTransport_pointer h] at hhttp
    exact hload (of_createAttested hhttp).1

end Asked

theorem httpAttested_value_iff [Inhabited σ] : HttpAttested prim env (.attested c .value) scheme ↔
      (TLSLoads env c.toStandardClientConfig → scheme ≠ lit "http" ∧ scheme ≠ lit "https") := by
  have honly : ∀ client, createTransport env (.attested c .value) = .ok client →
      (OnlyAttested prim (client.connection prim scheme) ↔
        scheme ≠ lit "http" ∧ scheme ≠ lit "https") := by
    intro client hcli
    exact HttpClient.onlyAttested_iff_of_none (of_createBasic hcli).2
  constructor
  · intro hatt hload
    obtain ⟨client, hcli⟩ := exists_createBasic hload
    exact (honly client hcli).mp (hatt client hcli)
  · intro hsch client hcli
    exact (honly client hcli).mpr (hsch (of_createBasic hcli).1)

theorem grpcAttested_pointer_iff [Inhabited σ] :
    GrpcAttested prim env (.attested c .pointer) ↔ ¬PlainGrpc env c.toStandardClientConfig := by
  rw [← exists_connect_pointer_iff]
  constructor
  · intro hatt hcli
    obtain ⟨client, hcli⟩ := hcli
    have hdia := contextDialer_of_connectBasic ((connect_pointer client).mp hcli).1
    exact GrpcClient.not_onlyAttested hdia (hatt client hcli)
  · intro hnone client hcli
    exact absurd ⟨client, hcli⟩ hnone

/-- A configuration that asks for attested TLS gets it from the gRPC client if it is passed by
value, and from the HTTP client if it is passed by pointer and the URL is not an `http` one.
Otherwise there is an attested connection only where the constructor refuses or no request is
sent; and the constructors agree only where both refuse. -/
theorem attested_never_downgraded_iff [Inhabited σ] (prim : Primitives V)
    (env : Environment P V Key σ) (c : AttestedClientConfig Key σ) (h : c.attestedTLS = true)
    (rep : Representation) (scheme : GoString) :
    (GrpcAttested prim env (.attested c rep) ↔
      rep = .value ∨ ¬PlainGrpc env c.toStandardClientConfig) ∧
    (HttpAttested prim env (.attested c rep) scheme ↔
      (rep = .value → TLSLoads env c.toStandardClientConfig →
        scheme ≠ lit "http" ∧ scheme ≠ lit "https") ∧
      (rep = .pointer → AttestedLoads env c → scheme ≠ lit "http")) ∧
    (Agree env (.attested c rep) ↔ (rep = .value → ¬TLSLoads env c.toStandardClientConfig) ∧
      (rep = .pointer → ¬AttestedLoads env c ∧ ¬PlainGrpc env c.toStandardClientConfig)) := by
  cases rep with
  | value =>
    refine ⟨?_, ?_, ?_⟩
    · exact ⟨fun _ => .inl rfl, fun _ => grpcAttested_value h⟩
    · simp [httpAttested_value_iff]
    · simp [agree_value_iff h]
  | pointer =>
    refine ⟨?_, ?_, ?_⟩
    · simp [grpcAttested_pointer_iff]
    · simp [httpAttested_pointer_iff h]
    · simp [agree_pointer_iff h]

/-! ### Samples -/

/-- Files that can all be loaded, and a gRPC library that takes every target. -/
def sampleEnvironment : Environment Unit Unit Unit Unit where
  files := ⟨fun _ => .ok true, fun _ => .ok [], fun _ => some (), fun _ _ => .ok {}⟩
  newEvidenceVerifier := Atls.newEvidenceVerifier (Atls.sampleEnv {})
  rootSettings _ := ()
  observe _ := fun _ _ => .error "no identity"
  signer := sampleSigner
  grpcNewClient _ := .ok ()

/-- A configuration that asks for attested TLS. -/
def sampleConfig (serverCAFile : GoString) : AttestedClientConfig Unit Unit where
  serverCAFile := serverCAFile
  attestationPolicy := lit "policy"
  attestedTLS := true

/-- The connection of the gRPC client for a configuration. -/
def sampleGrpc (serverCAFile : GoString) (rep : Representation) : Option Connection :=
  (connect sampleEnvironment (.attested (sampleConfig serverCAFile) rep)).toOption.bind
    fun client => client.connection samplePrimitives willingWorld

/-- The connection of the HTTP client for a configuration and a URL with this scheme. -/
def sampleHttp (serverCAFile : GoString) (rep : Representation) (scheme : GoString) :
    Option Connection :=
  (createTransport sampleEnvironment (.attested (sampleConfig serverCAFile) rep)).toOption.bind
    fun client => client.connection samplePrimitives scheme willingWorld

/-- A pointer makes the gRPC client use TLS alone, or none to a local target; a value does the
same to the HTTP client; and an `http` URL goes past the dialler. -/
theorem attested_config_downgraded :
    sampleGrpc (lit "ca") .pointer = some .tls ∧ sampleGrpc [] .pointer = some .plaintext ∧
      sampleHttp (lit "ca") .value (lit "https") = some .tls ∧
      sampleHttp (lit "ca") .pointer (lit "http") = some .plaintext := by
  decide +kernel

/-- By value, the gRPC client is constructed, and attested. -/
theorem attested_grpc_by_value :
    (∃ client, connect sampleEnvironment (.attested (sampleConfig (lit "ca")) .value) = .ok client) ∧
      GrpcAttested samplePrimitives sampleEnvironment
        (.attested (sampleConfig (lit "ca")) .value) :=
  ⟨⟨_, rfl⟩, (attested_never_downgraded_iff samplePrimitives sampleEnvironment
    (sampleConfig (lit "ca")) rfl .value (lit "https")).1.mpr (.inl rfl)⟩

end SecureBinding.Clients
