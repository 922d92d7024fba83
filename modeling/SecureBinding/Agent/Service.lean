import SecureBinding.Agent.Computation
import SecureBinding.Agent.Lifecycle
import SecureBinding.Go.Encoding

/-!
# Agent.Service

The operations of `agentService`, each as what it does between taking the service's mutex and
releasing it: the error it returns, the event it sends before it releases the mutex, and the
service and the files after it. The check of the agent's state that comes before the mutex is
taken is not part of them.

SHA3, the unpacking of archives and the download of OCI images are parameters.
-/

namespace SecureBinding.Agent

open Go Lib

structure DecryptedResource where
  data : Bytes
  requirements : Bytes := []
  sourceDir : GoString := []

/-- The code outside of the service that its operations use. -/
structure Env where
  /-- `sha3.Sum256`. -/
  sha3 : Bytes → Bytes
  /-- `internal.UnzipFromMemory` into the datasets directory: the error and the directory
  after it. -/
  unzip : Bytes → Option Dir → Option GoString × Option Dir

/-- `downloadAndDecryptOCIImage`, for the sources of one call. -/
abbrev Oci := ResourceSource → Except GoString DecryptedResource

def downloadAndDecryptResource (oci : Oci) (source : ResourceSource) :
    Except GoString DecryptedResource :=
  if source.type = [] then
    if (lit "docker://").isPrefixOf source.url ∨ (lit "oci:").isPrefixOf source.url then oci source
    else
      .error (lit "unsupported source URL format: " ++ source.url ++ lit " (use oci-image type)")
  else if source.type = lit "oci-image" then oci source
  else .error (lit "unsupported source type: " ++ source.type)

/-- The fields of `agentService` that its operations change. -/
structure Service where
  computation : Computation := {}
  algoType : GoString := []
  algoArgs : List GoString := []
  algoRequirements : Bytes := []
  algoReceived : Bool := false
  result : Bytes := []
  runError : Option Err := none
  resultsConsumed : Bool := false

/-- The datasets that are still expected. -/
def Service.pending (s : Service) : List Dataset := s.computation.datasets.toList

structure Outcome where
  err : Option Err := none
  event : Option AgentEvent := none
  service : Service
  files : Files
  /-- The datasets that were taken off the list, with the data they were taken for. -/
  consumed : List (Dataset × Bytes) := []

/-- The operation returns an error. -/
def Service.reject (s : Service) (f : Files) (err : Err) : Outcome :=
  { err := some err, service := s, files := f }

/-- An action has no one to return an error to. -/
def Service.fail (s : Service) (f : Files) (err : Err) : Outcome :=
  { event := some .runFailed, service := { s with runError := some err }, files := f }

/-! ### The algorithm -/

/-- A call of `Algo`, or of the action that downloads the algorithm: its argument, what it
finds in its context, and how the world answers it. -/
structure AlgoCall where
  algo : Algorithm := {}
  algoType : GoString := []
  algoArgs : List GoString := []
  oci : Oci
  getwd : Option GoString := none
  /-- The effect of `cp -r` from a directory, and its error with what it printed. -/
  copied : GoString → Files → Files := fun _ f => f
  copyErr : Option (GoString × GoString) := none
  disk : FileIO := {}
  mkdir : Option GoString := none

def orBin (algoType : GoString) : GoString := if algoType = [] then lit "bin" else algoType

/-- The service after `Algo` has written the algorithm. -/
def Service.received (s : Service) (c : AlgoCall) : Service :=
  { s with
    algoType := orBin c.algoType, algoArgs := c.algoArgs
    algoRequirements := c.algo.requirements, algoReceived := true }

/-- `Algo` with the algorithm at hand. -/
def Service.installAlgo (env : Env) (s : Service) (f : Files) (c : AlgoCall) (algoData : Bytes) :
    Outcome :=
  if env.sha3 algoData ≠ s.computation.algorithm.hash then s.reject f .errHashMismatch
  else
    match c.getwd with
    | some err => s.reject f (.other (lit "error getting current directory: " ++ err))
    | none =>
      match f.writeAlgo algoData c.disk with
      | (some err, f) => s.reject f (.other err)
      | (none, f) =>
        match f.mkdirDatasets c.mkdir with
        | (some err, f) => (s.received c).reject f (.other err)
        | (none, f) => { event := some .algorithmReceived, service := s.received c, files := f }

def Service.algo (env : Env) (s : Service) (f : Files) (c : AlgoCall) : Outcome :=
  if s.algoReceived then s.reject f .errAllManifestItemsReceived
  else
    match s.computation.remoteAlgorithm with
    | none => s.installAlgo env f c c.algo.algorithm
    | some source =>
      match downloadAndDecryptResource c.oci source with
      | .error err =>
        s.reject f (.other (lit "failed to download and decrypt algorithm: " ++ err))
      | .ok res => { s with algoRequirements := res.requirements }.installAlgo env f c res.data

/-- The files of an extracted image are copied, if there are any. -/
def AlgoCall.copy (c : AlgoCall) (res : DecryptedResource) (f : Files) : Option GoString × Files :=
  if res.sourceDir = [] then (none, f)
  else
    (c.copyErr.map fun (err, out) =>
      lit "error copying algorithm directory: " ++ err ++ lit ", output: " ++ out,
      c.copied res.sourceDir f)

/-- The service after the action has written the algorithm. -/
def Service.written (s : Service) (res : DecryptedResource) : Service :=
  { s with algoReceived := true, algoRequirements := res.requirements }

/-- And after it has made the datasets directory. -/
def Service.downloaded (s : Service) : Service :=
  { s with
    algoType := orBin s.computation.algorithm.algoType
    algoArgs := s.computation.algorithm.algoArgs }

/-- `downloadAlgorithmIfRemote`. It does not look at `algoReceived`. -/
def Service.downloadAlgorithmIfRemote (env : Env) (s : Service) (f : Files) (c : AlgoCall) :
    Outcome :=
  match s.computation.remoteAlgorithm with
  | none => { service := s, files := f }
  | some source =>
    match downloadAndDecryptResource c.oci source with
    | .error err => s.fail f (.other (lit "failed to download and decrypt algorithm: " ++ err))
    | .ok res =>
      if env.sha3 res.data ≠ s.computation.algorithm.hash then
        s.fail f (.other (lit "algorithm hash mismatch: expected " ++
          hexEncode s.computation.algorithm.hash ++ lit ", got " ++ hexEncode (env.sha3 res.data)))
      else
        match c.getwd with
        | some err => s.fail f (.other (lit "error getting current directory: " ++ err))
        | none =>
          match c.copy res f with
          | (some err, f) => s.fail f (.other err)
          | (none, f) =>
            match f.writeAlgo res.data c.disk with
            | (some err, f) => s.fail f (.other err)
            | (none, f) =>
              match f.mkdirDatasets c.mkdir with
              | (some err, f) => (s.written res).fail f (.other err)
              | (none, f) =>
                { event := some .algorithmReceived, service := (s.written res).downloaded, files := f }

/-! ### Datasets -/

/-- A call of `Data`, or of the action that downloads datasets. The answers of the disk are
given for each place in the list. -/
structure DataCall where
  dataset : Dataset := {}
  /-- `DecompressFromContext`. -/
  decompress : Bool := false
  oci : Oci
  getwd : Except GoString GoString := .ok [Path.slash]
  disk : Nat → FileIO := fun _ => {}

/-- A dataset is unpacked into the datasets directory, or written to a file there. -/
def store (env : Env) (f : Files) (getwd : Except GoString GoString) (disk : FileIO)
    (decompress : Bool) (filename : GoString) (data : Bytes) (unzipText closeText : GoString) :
    Option Err × Files :=
  if decompress then
    let (err, datasets) := env.unzip data f.datasets
    (err.map fun err => .other (unzipText ++ err), { f with datasets })
  else
    match datasetFilePath getwd filename with
    | .error err => (some err, f)
    | .ok path => f.writeDataset path data disk closeText

/-- The first dataset of a list with a property, and its place. -/
def firstWhere (p : Dataset → Bool) (datasets : List Dataset) : Option (Dataset × Nat) :=
  datasets.zipIdx.find? fun d => p d.1

/-- A dataset is taken off the list. -/
def Service.consume (s : Service) (i : Nat) : Service :=
  { s with computation := { s.computation with datasets := s.computation.datasets.delete i } }

/-- `DataReceived` is sent if nothing is expected any more. -/
def Service.dataReceived (s : Service) : Option AgentEvent :=
  if s.pending = [] then some .dataReceived else none

/-- `Data` with the data and the file name at hand. -/
def Service.acceptData (env : Env) (s : Service) (f : Files) (c : DataCall) (data : Bytes)
    (filename : GoString) : Outcome :=
  match firstWhere (fun d => env.sha3 data = d.hash) s.pending with
  | none => s.reject f .errUndeclaredDataset
  | some (d, i) =>
    if d.filename ≠ [] ∧ d.filename ≠ filename then s.reject f .errFileNameMismatch
    else
      match store env f c.getwd (c.disk i) c.decompress filename data
          (lit "error decompressing dataset: ") (lit "error closing file: ") with
      | (some err, f) => s.reject f err
      | (none, f) =>
        let s := s.consume i
        { event := s.dataReceived, service := s, files := f, consumed := [(d, data)] }

/-- The first dataset with a remote source. -/
def Service.firstRemote (s : Service) : Option (Dataset × ResourceSource) :=
  s.pending.findSome? fun d => (s.computation.remoteDataset d).map (d, ·)

def Service.data (env : Env) (s : Service) (f : Files) (c : DataCall) : Outcome :=
  if s.pending = [] then s.reject f .errAllManifestItemsReceived
  else
    match s.firstRemote with
    | none => s.acceptData env f c c.dataset.dataset c.dataset.filename
    | some (d, source) =>
      match downloadAndDecryptResource c.oci source with
      | .error err =>
        s.reject f (.other (lit "failed to download and decrypt dataset: " ++ err))
      | .ok res => s.acceptData env f c res.data d.filename

/-- One dataset with a remote source: the error, or the data that was stored. -/
def Service.downloadDataset (env : Env) (f : Files) (c : DataCall) (d : Dataset) (i : Nat)
    (source : ResourceSource) : Except Err Bytes × Files :=
  match downloadAndDecryptResource c.oci source with
  | .error err =>
    (.error (.other (lit "failed to download and decrypt dataset " ++ d.filename ++ lit ": " ++
      err)), f)
  | .ok res =>
    if env.sha3 res.data ≠ d.hash then
      (.error (.other (lit "dataset " ++ d.filename ++ lit " hash mismatch: expected " ++
        hexEncode d.hash ++ lit ", got " ++ hexEncode (env.sha3 res.data))), f)
    else
      match store env f c.getwd (c.disk i) d.decompress d.filename res.data
          (lit "failed to unzip dataset " ++ d.filename ++ lit ": ")
          (lit "error closing dataset file: ") with
      | (some err, f) => (.error err, f)
      | (none, f) => (.ok res.data, f)

/-- The loop of `downloadDatasetsIfRemote`, with `i` places of the list still to be looked
at. -/
def Service.downloadDatasets (env : Env) (c : DataCall) : Service → Files → Nat → Outcome
  | s, f, 0 => { event := s.dataReceived, service := s, files := f }
  | s, f, i + 1 =>
    match s.pending[i]? with
    | none => downloadDatasets env c s f i
    | some d =>
      match s.computation.remoteDataset d with
      | none => downloadDatasets env c s f i
      | some source =>
        match Service.downloadDataset env f c d i source with
        | (.error err, f) => s.fail f err
        | (.ok data, f) =>
          let rest := downloadDatasets env c (s.consume i) f i
          { rest with consumed := (d, data) :: rest.consumed }

def Service.downloadDatasetsIfRemote (env : Env) (s : Service) (f : Files) (c : DataCall) :
    Outcome :=
  if s.firstRemote.isSome then
    s.downloadDatasets env c f s.pending.length
  else { service := s, files := f }

/-! ### Results -/

/-- `Result` after its check of the state, which found `currentState`. -/
def Service.resultBody (s : Service) (currentState : AgentState) (index : Option Int) :
    (Bytes × Option Err) × Option AgentEvent × Service :=
  match index with
  | none => (([], some .errUndeclaredConsumer), none, s)
  | some index =>
    if index < 0 ∨ s.computation.resultConsumers.length ≤ index then
      (([], some .errUndeclaredConsumer), none, s)
    else if s.resultsConsumed = false ∧ currentState = .consumingResults then
      ((s.result, s.runError), some .resultsConsumed, { s with resultsConsumed := true })
    else ((s.result, s.runError), none, s)

end SecureBinding.Agent
