import SecureBinding.Go.Json.Unmarshal
import SecureBinding.Go.Os

/-!
# Oci.Extract

`ExtractAlgorithm` and `ExtractDataset` (`pkg/oci/extract.go`): files are taken out of the layers
of an OCI image that lies in a directory.

`index.json` names a manifest, the manifest names the layers, and each of them is a file below
`blobs` whose path is made of its digest. The layers are read from the last one to the first; in
each of them the entries that are wanted are written below the destination, with the directories
they need. An error in a layer is logged, and the next layer is read.

The two functions have one loop over the entries of a layer; what they look for and what they
collect is a `Collector`. Decompressing a layer and reading its archive is a parameter (`Env`).
The disk keeps a record of the paths that are opened and created, of the layers that are read and
of the warnings that are logged.
-/

namespace SecureBinding.Oci

open Go Go.Path

/-! ### Index and manifest -/

structure Descriptor where
  mediaType : GoString := []
  digest : GoString := []
  size : Int64 := 0

/-- `OCIIndex`. -/
structure Index where
  schemaVersion : Int64 := 0
  manifests : List Descriptor := []

structure LayerDescriptor where
  digest : GoString := []

structure Manifest where
  layers : List LayerDescriptor := []

def descriptorType : Json.StructType Descriptor :=
  [(lit "mediaType", { store := Json.storeString fun s d => { d with mediaType := s } }),
    (lit "digest", { store := Json.storeString fun s d => { d with digest := s } }),
    (lit "size", { store := Json.storeInt fun n d => { d with size := Int64.ofInt n } })]

def indexType : Json.StructType Index :=
  [(lit "schemaVersion",
      { store := Json.storeInt fun n i => { i with schemaVersion := Int64.ofInt n } }),
    (lit "manifests",
      { store := Json.storeStructs descriptorType {} Index.manifests
          fun ds i => { i with manifests := ds } })]

def layerType : Json.StructType LayerDescriptor :=
  [(lit "digest", { store := Json.storeString fun s d => { d with digest := s } })]

def manifestType : Json.StructType Manifest :=
  [(lit "layers",
      { store := Json.storeStructs layerType {} Manifest.layers
          fun ds m => { m with layers := ds } })]

/-! ### Layers -/

structure Entry where
  name : GoString
  typeflag : UInt8
  mode : Int64
  /-- What can be read of the content, and the error that ends it early. -/
  content : Bytes
  err : Option GoString := none

/-- What the archive reader returns in turn, and the error in the end if it is not `io.EOF`. -/
structure Archive where
  entries : List Entry
  err : Option GoString := none

structure Env where
  /-- `gzip.NewReader`, and the archive reader over it. -/
  decode : Bytes → Except GoString Archive
  /-- `strings.ToLower` outside ASCII. -/
  unicodeLower : GoString → GoString

inductive LayerError
  | open (err : GoString)
  | gzip (err : GoString)
  | header (err : GoString)
  | dir (err : GoString)
  | file (err : GoString)
  | write (err : GoString)

structure Disk where
  tree : Tree
  /-- The paths that were opened for reading. -/
  opened : List GoString := []
  /-- The paths that were opened for writing, to be created if necessary. -/
  created : List GoString := []
  /-- The layers that were read. -/
  layers : List (Except LayerError Archive) := []
  /-- What was logged about layers: the digest and the error. -/
  warnings : List (GoString × LayerError) := []

def typeDir : UInt8 := 0x35

/-- The check of the cleaned name of an entry. -/
def escapes (cleanName : GoString) : Bool :=
  dotDot.isPrefixOf cleanName || [slash].isPrefixOf cleanName

/-- The content of an entry is written below the destination. -/
def extractFile (dest : GoString) (d : Disk) (e : Entry) : Disk × Except LayerError GoString :=
  let targetPath := join dest (clean e.name)
  match d.tree.mkdirAll (dir targetPath) with
  | (tree, some err) => ({ d with tree }, .error (.dir err))
  | (tree, none) =>
    match tree.writeFile targetPath e.content with
    | .error err =>
      ({ d with tree, created := d.created ++ [targetPath] }, .error (.file err))
    | .ok tree =>
      ({ d with tree, created := d.created ++ [targetPath] },
        match e.err with
        | some err => .error (.write err)
        | none => .ok targetPath)

/-- What a layer is searched for, and what is collected on the way. -/
structure Collector (σ : Type) where
  wanted : Entry → Bool
  /-- An entry that is no directory was seen. -/
  seen : Entry → σ → σ
  /-- A wanted entry was written to a path. -/
  found : Entry → GoString → σ → σ

section Layer

variable {σ : Type} (c : Collector σ) (dest : GoString)

def extractEntries (err : Option GoString) : Disk → σ → List Entry → Disk × σ × Option LayerError
  | d, acc, [] => (d, acc, err.map .header)
  | d, acc, e :: es =>
    if e.typeflag = typeDir then extractEntries err d acc es
    else if c.wanted e = false ∨ escapes (clean e.name) = true then
      extractEntries err d (c.seen e acc) es
    else
      match extractFile dest d e with
      | (d, .error err) => (d, c.seen e acc, some err)
      | (d, .ok targetPath) => extractEntries err d (c.found e targetPath (c.seen e acc)) es

def readLayer (env : Env) (layerPath : GoString) (tree : Tree) : Except LayerError Archive :=
  match tree.readFile layerPath with
  | .error err => .error (.open err)
  | .ok data => (env.decode data).mapError .gzip

def extractLayer (env : Env) (layerPath : GoString) (d : Disk) (acc : σ) :
    Disk × σ × Option LayerError :=
  let layer := readLayer env layerPath d.tree
  let d := { d with opened := d.opened ++ [layerPath], layers := d.layers ++ [layer] }
  match layer with
  | .error err => (d, acc, some err)
  | .ok archive => extractEntries c dest archive.err d acc archive.entries

end Layer

/-! ### Data files -/

def dataExts : List GoString :=
  [lit ".csv", lit ".json", lit ".txt", lit ".parquet", lit ".arrow", lit ".dat", lit ".zip",
    lit ".tar", lit ".gz", lit ".tgz", lit ".tar.gz"]

def isDataFile (env : Env) (filename : GoString) : Bool :=
  dataExts.any fun ext => ext.isSuffixOf (toLower env.unicodeLower (base filename))

def dataFiles (env : Env) : Collector (List GoString) where
  wanted e := isDataFile env e.name
  seen _ files := files
  found _ targetPath files := files ++ [targetPath]

def extractLayerDataFiles (env : Env) (layerPath dest : GoString) (d : Disk) :
    Disk × Except LayerError (List GoString) :=
  match extractLayer (dataFiles env) dest env layerPath d [] with
  | (d, _, some err) => (d, .error err)
  | (d, files, none) => (d, .ok files)

/-! ### Algorithms -/

def algorithmNames : List GoString := [lit "algorithm", lit "main", lit "run", lit "execute"]

def nonBinExts : List GoString :=
  [lit ".py", lit ".wasm", lit ".wat", lit ".js", lit ".sh", lit ".csv", lit ".json", lit ".txt",
    lit ".md"]

def isAlgorithmFile (env : Env) (filename : GoString) (mode : Int64) (algoType : GoString) : Bool :=
  let baseLower := toLower env.unicodeLower (base filename)
  if algoType = lit "python" then (lit ".py").isSuffixOf baseLower
  else if algoType = lit "wasm" then
    (lit ".wasm").isSuffixOf baseLower || (lit ".wat").isSuffixOf baseLower
  else if algoType = lit "bin" then
    if nonBinExts.any fun ext => ext.isSuffixOf baseLower then false
    else if algorithmNames.any fun name => contains baseLower name then true
    else mode &&& 0o111 != 0
  else false

def isRequirements (filename : GoString) : Bool := base filename == lit "requirements.txt"

structure Found where
  algorithmPath : GoString := []
  requirementsPath : GoString := []
  seenFiles : List GoString := []

def algorithmFiles (env : Env) (algoType : GoString) : Collector Found where
  wanted e := isAlgorithmFile env e.name e.mode algoType || isRequirements e.name
  seen e f := { f with seenFiles := f.seenFiles ++ [e.name] }
  found e targetPath f :=
    { f with
      algorithmPath :=
        if isAlgorithmFile env e.name e.mode algoType ∧ f.algorithmPath = [] then targetPath
        else f.algorithmPath
      requirementsPath :=
        if isRequirements e.name ∧ f.requirementsPath = [] then targetPath
        else f.requirementsPath }

/-- The paths are returned only if there is no error, the files that were seen in any case. -/
def extractLayerAndFindAlgorithm (env : Env) (layerPath dest algoType : GoString) (d : Disk) :
    Disk × Found × Option LayerError :=
  match extractLayer (algorithmFiles env algoType) dest env layerPath d {} with
  | (d, f, some err) => (d, { seenFiles := f.seenFiles }, some err)
  | (d, f, none) => (d, f, none)

/-! ### Images -/

inductive ExtractError
  | readIndex (err : GoString)
  | parseIndex
  | noManifests
  | readManifest (err : GoString)
  | parseManifest
  | noAlgorithm (seenFiles : List GoString)
  | noDataset

def indexPath (ociDir : GoString) : GoString := join ociDir (lit "index.json")

def blobPath (ociDir digest : GoString) : GoString :=
  joinAll [ociDir, lit "blobs", replaceFirst 0x3a slash digest]

/-- `index.json` is read; the digest of the first manifest. -/
def readIndex (ociDir : GoString) (tree : Tree) : Except ExtractError GoString :=
  match tree.readFile (indexPath ociDir) with
  | .error err => .error (.readIndex err)
  | .ok data =>
    match (Json.parse data).bind fun v => Json.storeStruct indexType v {} with
    | none => .error .parseIndex
    | some index =>
      match index.manifests with
      | [] => .error .noManifests
      | manifest :: _ => .ok manifest.digest

/-- A manifest is read; the digests of the layers. -/
def readManifest (ociDir digest : GoString) (tree : Tree) : Except ExtractError (List GoString) :=
  match tree.readFile (blobPath ociDir digest) with
  | .error err => .error (.readManifest err)
  | .ok data =>
    match (Json.parse data).bind fun v => Json.storeStruct manifestType v {} with
    | none => .error .parseManifest
    | some manifest => .ok (manifest.layers.map LayerDescriptor.digest)

/-- What both functions begin with. -/
def findLayers (ociDir : GoString) (d : Disk) : Disk × Except ExtractError (List GoString) :=
  let d := { d with opened := d.opened ++ [indexPath ociDir] }
  match readIndex ociDir d.tree with
  | .error err => (d, .error err)
  | .ok digest =>
    ({ d with opened := d.opened ++ [blobPath ociDir digest] }, readManifest ociDir digest d.tree)

/-- The loop of `ExtractDataset` over the layers. -/
def extractDatasetLayers (env : Env) (ociDir dest : GoString) :
    Disk → List GoString → List GoString → Disk × List GoString
  | d, datasetFiles, [] => (d, datasetFiles)
  | d, datasetFiles, digest :: digests =>
    match extractLayerDataFiles env (blobPath ociDir digest) dest d with
    | (d, .error err) =>
      extractDatasetLayers env ociDir dest { d with warnings := d.warnings ++ [(digest, err)] }
        datasetFiles digests
    | (d, .ok files) => extractDatasetLayers env ociDir dest d (datasetFiles ++ files) digests

def extractDataset (env : Env) (ociDir dest : GoString) (d : Disk) :
    Disk × Except ExtractError (List GoString) :=
  match findLayers ociDir d with
  | (d, .error err) => (d, .error err)
  | (d, .ok digests) =>
    match extractDatasetLayers env ociDir dest d [] digests.reverse with
    | (d, []) => (d, .error .noDataset)
    | (d, file :: files) => (d, .ok (file :: files))

/-- A path is kept once it is found. -/
def orElse (path newPath : GoString) : GoString :=
  if newPath ≠ [] ∧ path = [] then newPath else path

/-- The loop of `ExtractAlgorithm` over the layers, with what was found so far. -/
def extractAlgorithmLayers (env : Env) (ociDir dest algoType : GoString) :
    Disk → Found → List GoString → Disk × Found
  | d, f, [] => (d, f)
  | d, f, digest :: digests =>
    match extractLayerAndFindAlgorithm env (blobPath ociDir digest) dest algoType d with
    | (d, new, some err) =>
      extractAlgorithmLayers env ociDir dest algoType
        { d with warnings := d.warnings ++ [(digest, err)] }
        { f with seenFiles := f.seenFiles ++ new.seenFiles } digests
    | (d, new, none) =>
      let f : Found :=
        { algorithmPath := orElse f.algorithmPath new.algorithmPath
          requirementsPath := orElse f.requirementsPath new.requirementsPath
          seenFiles := f.seenFiles ++ new.seenFiles }
      if f.algorithmPath ≠ [] ∧ (algoType ≠ lit "python" ∨ f.requirementsPath ≠ []) then (d, f)
      else extractAlgorithmLayers env ociDir dest algoType d f digests

def extractAlgorithm (env : Env) (ociDir dest algoType : GoString) (d : Disk) :
    Disk × Except ExtractError (GoString × GoString) :=
  match findLayers ociDir d with
  | (d, .error err) => (d, .error err)
  | (d, .ok digests) =>
    match extractAlgorithmLayers env ociDir dest algoType d {} digests.reverse with
    | (d, f) =>
      if f.algorithmPath = [] then (d, .error (.noAlgorithm f.seenFiles))
      else (d, .ok (f.algorithmPath, f.requirementsPath))

end SecureBinding.Oci
