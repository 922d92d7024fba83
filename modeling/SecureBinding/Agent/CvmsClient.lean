import SecureBinding.Agent.Auth
import SecureBinding.Agent.Service
import SecureBinding.Ingress.Proxy
import SecureBinding.Runtime.Netguard

/-!
# Agent.CvmsClient

The requests that the CVMS client handles (`agent/cvms/api/grpc/client.go`): `executeRun`
makes a computation of a run request, initialises it, and starts the agent's server and the
ingress proxy; `handleStopComputation` stops them.

Hashes are converted with `[32]byte(hash)`, which panics when the slice is shorter and drops
the rest when it is longer. `executeRun` runs in a goroutine that recovers nothing, so `none`
below is the end of the agent.
-/

namespace SecureBinding.Agent.Cvms

open Go Ingress

/-! ### Run requests -/

structure Source where
  type : GoString := []
  url : GoString := []
  kbsResourcePath : GoString := []
  encrypted : Bool := false

structure DatasetMessage where
  hash : Bytes
  userKey : Bytes := []
  filename : GoString := []
  source : Option Source := none
  decompress : Bool := false

structure AlgorithmMessage where
  hash : Bytes
  userKey : Bytes := []
  source : Option Source := none
  algoType : GoString := []
  algoArgs : List GoString := []

/-- `AgentConfig`, with the fields that are read. -/
structure AgentConfig where
  certFile : GoString := []
  keyFile : GoString := []
  clientCaFile : GoString := []
  serverCaFile : GoString := []
  attestedTls : Bool := false

/-- A decoded `ComputationRunReq`. A sub-message that was not sent is nil; the elements of
repeated fields never are. -/
structure ComputationRunReq where
  id : GoString := []
  name : GoString := []
  description : GoString := []
  datasets : List DatasetMessage := []
  algorithm : Option AlgorithmMessage := none
  /-- The keys of the result consumers. -/
  resultConsumers : List Bytes := []
  agentConfig : Option AgentConfig := none
  kbs : Option KBSConfig := none

/-- `[32]byte(hash)`. -/
def toHash (hash : Bytes) : Option Bytes := if hash.length < 32 then none else some (hash.take 32)

/-- The type is not copied. -/
def toSource (source : Source) : ResourceSource :=
  { url := source.url, kbsResourcePath := source.kbsResourcePath, encrypted := source.encrypted }

def AlgorithmMessage.withHash (a : AlgorithmMessage) (hash : Bytes) : Algorithm :=
  { hash, userKey := a.userKey, source := a.source.map toSource, algoType := a.algoType
    algoArgs := a.algoArgs }

def DatasetMessage.withHash (ds : DatasetMessage) (hash : Bytes) : Dataset :=
  { hash, userKey := ds.userKey, filename := ds.filename, source := ds.source.map toSource
    decompress := ds.decompress }

/-- Without an algorithm in the request the computation gets the zero value. -/
def toAlgorithm : Option AlgorithmMessage → Option Algorithm
  | none => some {}
  | some a => (toHash a.hash).map a.withHash

/-- The first half of `executeRun`. -/
def toComputation (runReq : ComputationRunReq) : Option Computation := do
  let algorithm ← toAlgorithm runReq.algorithm
  let datasets ← runReq.datasets.mapM fun ds => (toHash ds.hash).map ds.withHash
  return {
    id := runReq.id, name := runReq.name, description := runReq.description
    algorithm, datasets := .ofList datasets, resultConsumers := runReq.resultConsumers
    kbs := runReq.kbs.getD {} }

/-! ### The server of the agent -/

/-- `agentServer`: the gRPC server that was made last, by its authenticator, and if it listens. -/
structure AgentServer where
  host : GoString := []
  gs : Option Auth.Service := none
  listening : Bool := false
  /-- The servers made before, which `Stop` no longer reaches and which still listen. -/
  earlier : List Auth.Service := []

def defSvcGRPCSocket : GoString := lit "/run/agents-secure-binding/agent.sock"

variable {V : Type}

/-- `net.Listen`, or the reason not to call it. -/
def AgentServer.listen (as : AgentServer) (answer : GoString → GoString → Option GoString) :
    Option GoString :=
  let socketPath := if as.host = [] ∨ as.host = lit "0.0.0.0" then defSvcGRPCSocket else as.host
  let refused := lit "agent grpc: plaintext listener requires unix socket or loopback: " ++
    socketPath
  if (lit "/").isPrefixOf socketPath ∨ (lit ".").isPrefixOf socketPath then
    answer (lit "unix") socketPath
  else
    match Net.splitHostPort socketPath with
    | .error _ => some refused
    | .ok (host, _) =>
      if Netguard.plaintextBindAllowed host then answer (lit "tcp") socketPath else some refused

def AgentServer.start (lib : Auth.Library V) (answer : GoString → GoString → Option GoString)
    (as : AgentServer) (cmp : Computation) : Option GoString × AgentServer :=
  match Auth.new lib cmp with
  | .error err => (some err, as)
  | .ok authSvc =>
    let earlier := if as.listening then as.gs.toList ++ as.earlier else as.earlier
    match as.listen answer with
    | some err => (some err, { as with gs := some authSvc, listening := false, earlier })
    | none => (none, { as with gs := some authSvc, listening := true, earlier })

def AgentServer.stop (as : AgentServer) : AgentServer :=
  if as.gs.isSome then { as with listening := false } else as

/-! ### Handling requests -/

/-- The messages that the two handlers send. -/
inductive ClientMessage
  | runRes (computationId error : GoString)
  | stopComputationRes (computationId message : GoString)

/-- The client, with the messages that were passed to `sendMessage` and the computations that
PCR 16 was extended with. -/
structure Client where
  svc : Service := {}
  sp : AgentServer := {}
  ingressProxy : Option ProxyServer := none
  sent : List ClientMessage := []
  extended : List Computation := []

/-- A run request, the two readings of the agent's state while it is handled, and how the
libraries and the system answer. -/
structure RunCall where
  runReq : ComputationRunReq
  /-- What `State` returns. -/
  state : AgentState
  /-- What `InitComputation` reads. -/
  initState : AgentState
  /-- `CCPlatform` is Azure or SNP with a vTPM, and `ExtendPCR` goes well. -/
  extendsPCR : Bool := false
  /-- `net.Listen`, for a network and an address. -/
  listen : GoString → GoString → Option GoString
  proxy : Answers

def agentConfigToProxyConfig (cfg : AgentConfig) : ProxyConfig :=
  { port := lit "7002", certFile := cfg.certFile, keyFile := cfg.keyFile
    serverCAFile := cfg.serverCaFile, clientCAFile := cfg.clientCaFile
    attestedTLS := cfg.attestedTls }

def ComputationRunReq.proxyConfig (runReq : ComputationRunReq) : ProxyConfig :=
  agentConfigToProxyConfig (runReq.agentConfig.getD {})

/-- `InitComputation`, with the state it reads: its error and the service after it. -/
def initComputation (state : AgentState) (svc : Service) (cmp : Computation) :
    Option Err × Service :=
  if state ≠ .receivingManifest then (some .errStateNotReady, svc)
  else (none, { svc with computation := cmp })

/-- How a call of `executeRun` ends. -/
structure RunResult where
  client : Client
  /-- `InitComputation` was called and returned nil. -/
  initialised : Bool := false

/-- The part of `executeRun` that holds the client's mutex. -/
def Client.serve (lib : Auth.Library V) (client : Client) (call : RunCall) (ac : Computation) :
    Client :=
  let (err, sp) := client.sp.start lib call.listen ac
  let ingressProxy := client.ingressProxy.map fun p =>
    (p.start call.proxy call.runReq.proxyConfig).2
  { client with
    sp, ingressProxy
    sent := .runRes call.runReq.id (err.getD []) :: client.sent
    extended := if call.extendsPCR then ac :: client.extended else client.extended }

/-- `executeRun`; `none` when it panics. -/
def executeRun (lib : Auth.Library V) (client : Client) (call : RunCall) : Option RunResult := do
  let ac ← toComputation call.runReq
  if call.state ≠ .receivingManifest then return { client }
  match initComputation call.initState client.svc ac with
  | (some _, svc) => return { client := { client with svc } }
  | (none, svc) => return { client := { client with svc }.serve lib call ac, initialised := true }

/-- A stop request, and what the service and `Shutdown` answer. -/
structure StopCall where
  computationId : GoString := []
  /-- `StopComputation`: its error and the service after it. -/
  stopComputation : Service → Option GoString × Service
  shutdownErr : Option GoString := none

def handleStopComputation (client : Client) (call : StopCall) : Client :=
  let (err, svc) := call.stopComputation client.svc
  { client with
    svc, sp := client.sp.stop
    ingressProxy := client.ingressProxy.map fun p => (p.stop call.shutdownErr).2
    sent := .stopComputationRes call.computationId (err.getD []) :: client.sent }

/-! ### Malformed manifests -/

def ComputationRunReq.hashes (runReq : ComputationRunReq) : List Bytes :=
  (runReq.algorithm.map (·.hash)).toList ++ runReq.datasets.map (·.hash)

/-- The algorithm hash and every dataset hash of the request are 32 bytes long, and the
computation has all of each. -/
structure HashesKept (runReq : ComputationRunReq) (ac : Computation) : Prop where
  algorithm : ∃ a, runReq.algorithm = some a ∧ a.hash.length = 32 ∧ ac.algorithm.hash = a.hash
  datasets : ∀ ds ∈ runReq.datasets, ds.hash.length = 32
  datasets_eq : ac.datasets.toList.map (·.hash) = runReq.datasets.map (·.hash)

/-- `executeRun` does not panic, and initialises a computation only with hashes that are kept
in full. -/
def ManifestChecked (runReq : ComputationRunReq) (r : Option RunResult) : Prop :=
  ∃ res, r = some res ∧ (res.initialised = true → HashesKept runReq res.client.svc.computation)

/-- Both readings of the agent's state let the manifest pass. -/
def RunCall.accepted (call : RunCall) : Prop :=
  call.state = .receivingManifest ∧ call.initState = .receivingManifest

instance (call : RunCall) : Decidable call.accepted := inferInstanceAs (Decidable (_ ∧ _))

section Manifests

variable {lib : Auth.Library V} {client : Client} {call : RunCall} {runReq : ComputationRunReq}
  {ac : Computation} {res : RunResult}

theorem toHash_eq_some_iff {hash kept : Bytes} :
    toHash hash = some kept ↔ 32 ≤ hash.length ∧ kept = hash.take 32 := by
  unfold toHash
  split <;> simp_all [eq_comm]

theorem mapM_datasets_eq_some_iff {dss : List DatasetMessage} :
    ∀ {datasets : List Dataset},
      (dss.mapM fun ds => (toHash ds.hash).map ds.withHash) = some datasets ↔
        (∀ ds ∈ dss, 32 ≤ ds.hash.length) ∧
          datasets = dss.map fun ds => ds.withHash (ds.hash.take 32) := by
  induction dss with
  | nil => simp [eq_comm]
  | cons ds dss ih =>
    intro datasets
    simp only [List.mapM_cons, Option.bind_eq_bind, Option.bind_eq_some_iff,
      Option.map_eq_some_iff, toHash_eq_some_iff, Option.pure_def, Option.some.injEq, ih,
      List.forall_mem_cons, List.map_cons]
    constructor
    · rintro ⟨d, ⟨hash, ⟨hlong, rfl⟩, rfl⟩, rest, ⟨hlongs, rfl⟩, rfl⟩
      exact ⟨⟨hlong, hlongs⟩, rfl⟩
    · rintro ⟨⟨hlong, hlongs⟩, rfl⟩
      exact ⟨_, ⟨_, ⟨hlong, rfl⟩, rfl⟩, _, ⟨hlongs, rfl⟩, rfl⟩

/-- What becomes of the algorithm of a request. -/
def truncated : Option AlgorithmMessage → Algorithm
  | none => {}
  | some a => a.withHash (a.hash.take 32)

theorem toAlgorithm_eq_some_iff {message : Option AlgorithmMessage} {algorithm : Algorithm} :
    toAlgorithm message = some algorithm ↔
      (∀ a, message = some a → 32 ≤ a.hash.length) ∧ algorithm = truncated message := by
  cases message with
  | none => simp [toAlgorithm, truncated, eq_comm]
  | some a =>
    simp only [toAlgorithm, Option.map_eq_some_iff, toHash_eq_some_iff,
      Option.some.injEq, forall_eq']
    constructor
    · rintro ⟨hash, ⟨hlong, rfl⟩, rfl⟩
      exact ⟨hlong, rfl⟩
    · rintro ⟨hlong, rfl⟩
      exact ⟨_, ⟨hlong, rfl⟩, rfl⟩

theorem forall_mem_hashes_iff {p : Bytes → Prop} :
    (∀ hash ∈ runReq.hashes, p hash) ↔
      (∀ a, runReq.algorithm = some a → p a.hash) ∧ ∀ ds ∈ runReq.datasets, p ds.hash := by
  simp [ComputationRunReq.hashes, or_imp, forall_and]

/-- The conversions of `executeRun` go well when no hash is too short, and then take the first
32 bytes of each. -/
theorem toComputation_eq_some_iff :
    toComputation runReq = some ac ↔ (∀ hash ∈ runReq.hashes, 32 ≤ hash.length) ∧ ac = {
      id := runReq.id, name := runReq.name, description := runReq.description
      algorithm := truncated runReq.algorithm
      datasets := .ofList (runReq.datasets.map fun ds => ds.withHash (ds.hash.take 32))
      resultConsumers := runReq.resultConsumers, kbs := runReq.kbs.getD {} } := by
  simp only [toComputation, Option.bind_eq_bind, Option.bind_eq_some_iff,
    toAlgorithm_eq_some_iff, mapM_datasets_eq_some_iff, Option.pure_def, Option.some.injEq,
    forall_mem_hashes_iff]
  constructor
  · intro ⟨_, ⟨halg, h⟩, _, ⟨hds, h'⟩, hac⟩
    subst h h'
    exact ⟨⟨halg, hds⟩, hac.symm⟩
  · intro ⟨⟨halg, hds⟩, hac⟩
    exact ⟨_, ⟨halg, rfl⟩, _, ⟨hds, rfl⟩, hac.symm⟩

theorem executeRun_of_accepted (hac : toComputation call.runReq = some ac) (hacc : call.accepted) :
    executeRun lib client call = some
      { client := { client with svc := { client.svc with computation := ac } }.serve lib call ac
        initialised := true } := by
  simp [executeRun, hac, hacc.1, initComputation, hacc.2]

theorem executeRun_of_not_accepted (hac : toComputation call.runReq = some ac)
    (hacc : ¬call.accepted) : executeRun lib client call = some { client } := by
  by_cases hst : call.state = .receivingManifest
  · have hinit : call.initState ≠ .receivingManifest := fun h => hacc ⟨hst, h⟩
    simp [executeRun, hac, initComputation, hinit]
  · simp [executeRun, hac, hst]

theorem executeRun_eq_none (hac : toComputation call.runReq = none) :
    executeRun lib client call = none := by
  simp [executeRun, hac]

/-- The conversions keep the hashes when the algorithm is there and all have their length. -/
theorem hashesKept_iff (hac : toComputation runReq = some ac) :
    HashesKept runReq ac ↔
      runReq.algorithm.isSome = true ∧ ∀ hash ∈ runReq.hashes, hash.length = 32 := by
  obtain ⟨hlong, rfl⟩ := toComputation_eq_some_iff.mp hac
  rw [forall_mem_hashes_iff] at hlong ⊢
  constructor
  · intro ⟨⟨a, ha, hlen, _⟩, hdat, _⟩
    exact ⟨by simp [ha], by simpa [ha] using hlen, hdat⟩
  · intro ⟨hsome, halg, hdat⟩
    obtain ⟨a, ha⟩ := Option.isSome_iff_exists.mp hsome
    refine ⟨⟨a, ha, halg a ha, ?_⟩, hdat, ?_⟩
    · simpa [ha, truncated, AlgorithmMessage.withHash] using
        List.take_of_length_le (halg a ha).le
    · simp only [Lib.Slice.toList_ofList, List.map_map]
      refine List.map_congr_left fun ds hds => ?_
      exact List.take_of_length_le (hdat ds hds).le

end Manifests

/-- For every client, every request and every answer of the service: the manifest is checked
exactly when no hash is shorter than 32 bytes, and, if the service accepts it, there is an
algorithm and no hash is longer either. -/
theorem executeRun_checked_iff (lib : Auth.Library V) (client : Client) (call : RunCall) :
    ManifestChecked call.runReq (executeRun lib client call) ↔
      (∀ hash ∈ call.runReq.hashes, 32 ≤ hash.length) ∧
      (call.accepted → call.runReq.algorithm.isSome = true ∧
        ∀ hash ∈ call.runReq.hashes, hash.length = 32) := by
  cases hac : toComputation call.runReq with
  | none =>
    have hsh : ¬∀ hash ∈ call.runReq.hashes, 32 ≤ hash.length := by
      intro hlong
      have := toComputation_eq_some_iff.mpr ⟨hlong, rfl⟩
      simp [hac] at this
    simp [ManifestChecked, executeRun_eq_none hac, hsh]
  | some ac =>
    have hlong := (toComputation_eq_some_iff.mp hac).1
    by_cases hacc : call.accepted
    · simp only [ManifestChecked, executeRun_of_accepted hac hacc, Option.some.injEq,
        exists_eq_left', true_imp_iff, hacc]
      exact (hashesKept_iff hac).trans (and_iff_right hlong).symm
    · simpa [ManifestChecked, executeRun_of_not_accepted hac hacc, hacc] using hlong

/-! ### Sample requests -/

/-- Libraries and a system that have nothing against a proxy. -/
def sampleAnswers : Answers where
  buildServerTLSConfig _ _ _ _ := .ok ()
  setupRegularTLS _ _ _ _ := .ok ()
  listen _ := none
  attestedListen _ _ := none

/-- A request to an agent that waits for one. -/
def sampleCall (runReq : ComputationRunReq) : RunCall :=
  { runReq, state := .receivingManifest, initState := .receivingManifest
    listen := fun _ _ => none, proxy := sampleAnswers }

/-- What `executeRun` makes of a request for an algorithm: if the computation is initialised,
and the hash it then has. -/
def algorithmHash (algorithm : Option AlgorithmMessage) : Option (Bool × Bytes) :=
  (executeRun Auth.sampleLibrary {} (sampleCall { algorithm })).map fun res =>
    (res.initialised, res.client.svc.computation.algorithm.hash)

/-- A short hash ends the agent, a long one is cut off, and a request without an algorithm gets
the zero hash. -/
theorem executeRun_malformed :
    algorithmHash (some { hash := List.replicate 31 7 }) = none ∧
    algorithmHash (some { hash := List.replicate 33 7 }) = some (true, List.replicate 32 7) ∧
    algorithmHash none = some (true, zeroHash) := by
  decide

end SecureBinding.Agent.Cvms
