import SecureBinding.Go.Path
import SecureBinding.Lib.Slice

/-!
# Agent.Computation

Manifests, the errors of the agent service, and the files it works with.

The list of datasets of a manifest is a slice: the service and the caller of
`InitComputation` share the array behind it. The agent's working directory is three things
here, the file `algo` and the directories `datasets` and `results`; how the operating system
answers is an argument of the operations.
-/

namespace SecureBinding.Agent

open Go Lib

/-! ### Manifests -/

structure ResourceSource where
  type : GoString := []
  url : GoString := []
  kbsResourcePath : GoString := []
  encrypted : Bool := false
  deriving Repr, DecidableEq

structure KBSConfig where
  url : GoString := []
  enabled : Bool := false

/-- The zero value of `[32]byte`. -/
def zeroHash : Bytes := List.replicate 32 0

structure Dataset where
  dataset : Bytes := []
  hash : Bytes := zeroHash
  userKey : Bytes := []
  filename : GoString := []
  source : Option ResourceSource := none
  decompress : Bool := false
  deriving Repr, DecidableEq

instance : Inhabited Dataset := ⟨{}⟩

structure Algorithm where
  algorithm : Bytes := []
  hash : Bytes := zeroHash
  userKey : Bytes := []
  requirements : Bytes := []
  source : Option ResourceSource := none
  algoType : GoString := []
  algoArgs : List GoString := []

structure Computation where
  id : GoString := []
  name : GoString := []
  description : GoString := []
  datasets : Slice Dataset := ∅
  algorithm : Algorithm := {}
  /-- The keys of the result consumers. -/
  resultConsumers : List Bytes := []
  kbs : KBSConfig := {}

/-- Where a dataset is downloaded from. -/
def Computation.remoteDataset (c : Computation) (d : Dataset) : Option ResourceSource :=
  if c.kbs.enabled then d.source else none

/-- Where the algorithm is downloaded from. -/
def Computation.remoteAlgorithm (c : Computation) : Option ResourceSource :=
  if c.kbs.enabled then c.algorithm.source else none

/-! ### Errors -/

/-- The errors of the service, and those it makes from others. -/
inductive Err
  | errUndeclaredDataset
  | errAllManifestItemsReceived
  | errUndeclaredConsumer
  | errResultsNotReady
  | errStateNotReady
  | errHashMismatch
  | errFileNameMismatch
  | errUnsafeDatasetFilename
  | other (text : GoString)
  deriving Repr, DecidableEq

/-! ### Files -/

/-- The contents of a directory, by the paths of its files. -/
abbrev Dir := GoString → Option Bytes

structure Files where
  algo : Option Bytes := none
  /-- What is beside the algorithm and the two directories. -/
  supporting : Dir := fun _ => none
  datasets : Option Dir := none
  /-- The results directory is there. -/
  results : Bool := false

/-- How creating, writing and closing a file goes. A write that fails may have written a
part. -/
structure FileIO where
  create : Option GoString := none
  write : Option (GoString × Bytes) := none
  chmod : Option GoString := none
  close : Option GoString := none

/-- `os.Create`, `Write`, `os.Chmod` and `Close` of the file `algo`: the error, if there is
one. -/
def Files.writeAlgo (f : Files) (data : Bytes) (disk : FileIO) : Option GoString × Files :=
  match disk.create with
  | some err => (some (lit "error creating algorithm file: " ++ err), f)
  | none =>
    match disk.write with
    | some (err, written) =>
      (some (lit "error writing algorithm to file: " ++ err), { f with algo := some written })
    | none =>
      let f := { f with algo := some data }
      match disk.chmod with
      | some err => (some (lit "error changing file permissions: " ++ err), f)
      | none => (disk.close.map (lit "error closing file: " ++ ·), f)

/-- `os.Mkdir` of the datasets directory. -/
def Files.mkdirDatasets (f : Files) (mkdir : Option GoString) : Option GoString × Files :=
  match f.datasets, mkdir with
  | some _, _ => (some (lit "error creating datasets directory: mkdir datasets: file exists"), f)
  | none, some err => (some (lit "error creating datasets directory: " ++ err), f)
  | none, none => (none, { f with datasets := some fun _ => none })

/-- `os.Create`, `Write` and `Close` of a file in the datasets directory. The last text is the
only one in which the two callers differ. -/
def Files.writeDataset (f : Files) (path : GoString) (data : Bytes) (disk : FileIO)
    (closeText : GoString) : Option Err × Files :=
  match f.datasets, disk.create with
  | none, _ =>
    (some (.other (lit "error creating dataset file: open " ++ path ++
      lit ": no such file or directory")), f)
  | some _, some err => (some (.other (lit "error creating dataset file: " ++ err)), f)
  | some dir, none =>
    match disk.write with
    | some (err, written) =>
      (some (.other (lit "error writing dataset to file: " ++ err)),
        { f with datasets := some (Function.update dir path (some written)) })
    | none =>
      (disk.close.map fun err => .other (closeText ++ err),
        { f with datasets := some (Function.update dir path (some data)) })

def datasetFilePath (getwd : Except GoString GoString) (filename : GoString) :
    Except Err GoString :=
  let name := trimSpace filename
  if name = [] then .error .errUnsafeDatasetFilename
  else
    let cleanName := Path.clean name
    if cleanName ≠ name ∨ cleanName = Path.dot ∨ Path.isAbs cleanName ∨
        cleanName ≠ Path.base cleanName then .error .errUnsafeDatasetFilename
    else
      match Path.abs getwd (lit "datasets") with
      | .error err => .error (.other err)
      | .ok root =>
        let target := Path.join root cleanName
        match Path.rel root target with
        | .error err => .error (.other err)
        | .ok rel =>
          if rel = Path.dot ∨ (Path.dotDot ++ [Path.slash]).isPrefixOf rel ∨ rel = Path.dotDot ∨
              Path.isAbs rel then .error .errUnsafeDatasetFilename
          else .ok target

end SecureBinding.Agent
