import SecureBinding.Go.Strings

/-!
# Ingress.Proxy

The ingress proxy of the agent (`pkg/ingress/proxy.go`): one object that is started and
stopped for every computation. `started` and `stopped` are set and never cleared, so a proxy
can be started once, and not after it was stopped: `listening_start` and `listening_stop`.

What the proxy logs, and the context that is passed to it for this only, is left out.
-/

namespace SecureBinding.Ingress

open Go

structure ProxyConfig where
  port : GoString := []
  certFile : GoString := []
  keyFile : GoString := []
  serverCAFile : GoString := []
  clientCAFile : GoString := []
  attestedTLS : Bool := false
  allowPlaintext : Bool := false

structure BackendURL where
  scheme : GoString
  host : GoString := []
  path : GoString := []

/-- What the reverse proxy dials. -/
inductive Target
  | unix (path : GoString)
  | tcp (url : BackendURL)

structure HttpServer where
  addr : GoString
  target : Target

/-- `proxyServer`. Of the certificate provider only matters if there is one; `listening` says
if a listener of the server is open. -/
structure ProxyServer where
  backendURL : BackendURL
  certProvider : Bool
  httpServer : Option HttpServer := none
  started : Bool := false
  stopped : Bool := false
  listening : Bool := false

/-- How the libraries and the system answer a call of `Start`. -/
structure Answers where
  /-- `atls.BuildServerTLSConfig`. -/
  buildServerTLSConfig : (certFile keyFile serverCAFile clientCAFile : GoString) →
    Except GoString Unit
  /-- `SetupRegularTLS`. -/
  setupRegularTLS : (certFile keyFile serverCAFile clientCAFile : GoString) → Except GoString Unit
  /-- `net.Listen("tcp", ·)`. -/
  listen : GoString → Option GoString
  /-- `atls.Listen`, for a network and an address. -/
  attestedListen : GoString → GoString → Option GoString

/-- `net.JoinHostPort` for a host without colons. -/
def joinHostPort (host port : GoString) : GoString := host ++ lit ":" ++ port

def target (url : BackendURL) : Target :=
  if url.scheme = lit "unix" then .unix url.path else .tcp url

def attestedListener (answers : Answers) (addr : GoString) : Option GoString :=
  if (lit "/").isPrefixOf addr then answers.attestedListen (lit "unix") addr
  else answers.attestedListen (lit "tcp") addr

/-- The part of `Start` that configures TLS and listens: the address, and the error if there
is one. -/
def openListener (answers : Answers) (certProvider : Bool) (cfg : ProxyConfig) :
    GoString × Option GoString :=
  let port := if cfg.port = [] then lit "7002" else cfg.port
  let addr := joinHostPort (lit "0.0.0.0") port
  let failed := (lit "failed to listen: " ++ ·)
  if cfg.attestedTLS then
    if !certProvider then
      (addr, some (lit "attested TLS requested for ingress proxy but no certificate provider " ++
        lit "available. Please ensure a CC platform is detected (not NoCC), aTLS is " ++
        lit "enabled, and the attestation service is running"))
    else
      match answers.buildServerTLSConfig cfg.certFile cfg.keyFile cfg.serverCAFile
          cfg.clientCAFile with
      | .error err => (addr, some (lit "failed to setup attested TLS: " ++ err))
      | .ok () => (addr, (attestedListener answers addr).map failed)
  else if cfg.certFile ≠ [] ∧ cfg.keyFile ≠ [] then
    match answers.setupRegularTLS cfg.certFile cfg.keyFile cfg.serverCAFile cfg.clientCAFile with
    | .error err => (addr, some (lit "failed to setup TLS: " ++ err))
    | .ok () => (addr, (answers.listen addr).map failed)
  else if !cfg.allowPlaintext then (addr, some (lit "plaintext ingress proxy is disabled"))
  else
    let addr := joinHostPort (lit "127.0.0.1") port
    (addr, (answers.listen addr).map failed)

/-- `Start`: the error, if there is one. The server is made whether or not the proxy can
listen. -/
def ProxyServer.start (answers : Answers) (p : ProxyServer) (cfg : ProxyConfig) :
    Option GoString × ProxyServer :=
  if p.started then (some (lit "proxy server already started"), p)
  else if p.stopped then (some (lit "proxy server already stopped"), p)
  else
    let (addr, err) := openListener answers p.certProvider cfg
    let p := { p with httpServer := some ⟨addr, target p.backendURL⟩ }
    match err with
    | some err => (some err, p)
    | none => (none, { p with started := true, listening := true })

/-- `Stop`, with the error of `Shutdown`. That closes the listeners before it waits for the
connections, and so also when it fails. -/
def ProxyServer.stop (p : ProxyServer) (shutdownErr : Option GoString) :
    Option GoString × ProxyServer :=
  if p.stopped then (none, p)
  else
    match p.httpServer with
    | none => (none, { p with stopped := true })
    | some _ =>
      (shutdownErr.map (lit "failed to shutdown server: " ++ ·),
        { p with stopped := true, listening := false })

/-! ### When the proxy listens -/

/-- Settings with which a proxy can listen that was not started before. -/
def ValidSettings (answers : Answers) (certProvider : Bool) (cfg : ProxyConfig) : Prop :=
  (openListener answers certProvider cfg).2 = none

instance (answers : Answers) (certProvider : Bool) (cfg : ProxyConfig) :
    Decidable (ValidSettings answers certProvider cfg) :=
  inferInstanceAs (Decidable (_ = none))

/-- What holds of every proxy that was made by `NewProxyServer`. -/
structure ProxyServer.Consistent (p : ProxyServer) : Prop where
  listening_eq : p.listening = (p.started && !p.stopped)
  server_of_started : p.started = true → p.httpServer.isSome = true

variable {answers : Answers} {p : ProxyServer} {cfg : ProxyConfig}

/-- A proxy that was started or stopped before is left as it is; another one gets its server,
and listens with valid settings. -/
theorem start_cases (answers : Answers) (p : ProxyServer) (cfg : ProxyConfig) :
    ((p.started = true ∨ p.stopped = true) ∧ (p.start answers cfg).2 = p) ∨
    (p.started = false ∧ p.stopped = false ∧ ∃ server,
      (ValidSettings answers p.certProvider cfg ∧ (p.start answers cfg).2 =
        { p with httpServer := some server, started := true, listening := true }) ∨
      (¬ValidSettings answers p.certProvider cfg ∧ (p.start answers cfg).2 =
        { p with httpServer := some server })) := by
  by_cases hsta : p.started = true
  · exact .inl ⟨.inl hsta, by simp [ProxyServer.start, hsta]⟩
  by_cases hstp : p.stopped = true
  · exact .inl ⟨.inr hstp, by simp [ProxyServer.start, hsta, hstp]⟩
  refine .inr ⟨by simpa using hsta, by simpa using hstp, ?_⟩
  refine ⟨⟨(openListener answers p.certProvider cfg).1, target p.backendURL⟩, ?_⟩
  cases herr : (openListener answers p.certProvider cfg).2 with
  | none => exact .inl ⟨herr, by simp [ProxyServer.start, hsta, hstp, herr]⟩
  | some err =>
    exact .inr ⟨by simp [ValidSettings, herr],
      by simp [ProxyServer.start, hsta, hstp, herr]⟩

theorem stopped_start : (p.start answers cfg).2.stopped = p.stopped := by
  obtain ⟨-, h⟩ | ⟨-, -, _, ⟨-, h⟩ | ⟨-, h⟩⟩ := start_cases answers p cfg <;> rw [h]

theorem certProvider_start : (p.start answers cfg).2.certProvider = p.certProvider := by
  obtain ⟨-, h⟩ | ⟨-, -, _, ⟨-, h⟩ | ⟨-, h⟩⟩ := start_cases answers p cfg <;> rw [h]

theorem consistent_start (hp : p.Consistent) : (p.start answers cfg).2.Consistent := by
  obtain ⟨-, h⟩ | ⟨hsta, hstp, server, ⟨-, h⟩ | ⟨-, h⟩⟩ := start_cases answers p cfg
  · rwa [h]
  · rw [h]
    exact ⟨by simp [hstp], fun _ => rfl⟩
  · rw [h]
    exact ⟨hp.listening_eq, fun _ => rfl⟩

/-- With valid settings the proxy listens after `Start` exactly when it was not stopped
before. -/
theorem listening_start (hp : p.Consistent) (hval : ValidSettings answers p.certProvider cfg) :
    (p.start answers cfg).2.listening = !p.stopped := by
  obtain ⟨hbef, h⟩ | ⟨hsta, hstp, server, ⟨-, h⟩ | ⟨hinvalid, -⟩⟩ := start_cases answers p cfg
  · rw [h, hp.listening_eq]
    obtain hsta | hstp := hbef
    · simp [hsta]
    · simp [hstp]
  · rw [h, hstp]
    rfl
  · exact absurd hval hinvalid

variable {shutdownErr : Option GoString}

theorem stopped_stop : (p.stop shutdownErr).2.stopped = true := by
  unfold ProxyServer.stop
  split
  · assumption
  · split <;> rfl

theorem certProvider_stop : (p.stop shutdownErr).2.certProvider = p.certProvider := by
  unfold ProxyServer.stop
  split
  · rfl
  · split <;> rfl

theorem consistent_stop (hp : p.Consistent) : (p.stop shutdownErr).2.Consistent := by
  unfold ProxyServer.stop
  split
  · exact hp
  · cases hserver : p.httpServer with
    | none =>
      have hsta : p.started = false := by
        by_contra h
        simpa [hserver] using hp.server_of_started (by simpa using h)
      exact ⟨by simp [hp.listening_eq, hsta], by simp [hsta]⟩
    | some server => exact ⟨by simp, fun _ => by simp⟩

/-- The proxy never listens after `Stop`. -/
theorem listening_stop (hp : p.Consistent) : (p.stop shutdownErr).2.listening = false := by
  rw [(consistent_stop hp).listening_eq, stopped_stop]
  simp

end SecureBinding.Ingress
