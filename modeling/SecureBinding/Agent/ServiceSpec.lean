import SecureBinding.Agent.Service

/-!
# Agent.ServiceSpec

What the operations of the service can do, each said once: the later modules split on these
cases and never open the operations.
-/

namespace SecureBinding.Agent

open Go Lib

variable {env : Env} {s : Service} {f : Files}

/-! ### Files -/

/-- A write of the file `algo` touches nothing else, and leaves the data if it succeeds. -/
theorem writeAlgo_cases (f : Files) (data : Bytes) (disk : FileIO) :
    (∃ err algo, f.writeAlgo data disk = (some err, { f with algo })) ∨
      f.writeAlgo data disk = (none, { f with algo := some data }) := by
  unfold Files.writeAlgo
  split
  · exact .inl ⟨_, f.algo, rfl⟩
  split
  · exact .inl ⟨_, _, rfl⟩
  split
  · exact .inl ⟨_, _, rfl⟩
  cases disk.close with
  | some err => exact .inl ⟨_, _, rfl⟩
  | none => exact .inr rfl

theorem mkdirDatasets_cases (f : Files) (mkdir : Option GoString) :
    (∃ err, f.mkdirDatasets mkdir = (some err, f)) ∨
      f.datasets = none ∧ f.mkdirDatasets mkdir = (none, { f with datasets := some fun _ => none }) := by
  unfold Files.mkdirDatasets
  split
  · exact .inl ⟨_, rfl⟩
  · exact .inl ⟨_, rfl⟩
  · exact .inr ⟨‹_›, rfl⟩

/-! ### The algorithm -/

/-- What `Algo` can do. -/
inductive AlgoResult (env : Env) (s : Service) (f : Files) (c : AlgoCall) : Outcome → Prop
  | already (h : s.algoReceived = true) :
    AlgoResult env s f c (s.reject f .errAllManifestItemsReceived)
  | rejected {algoRequirements : Bytes} {algo : Option Bytes} {err : Err}
      (h : s.algoReceived = false) :
    AlgoResult env s f c ({ s with algoRequirements }.reject { f with algo } err)
  /-- The algorithm is there, but not the datasets directory. -/
  | stuck {data : Bytes} {err : Err} (h : s.algoReceived = false)
      (hhash : env.sha3 data = s.computation.algorithm.hash) :
    AlgoResult env s f c ((s.received c).reject { f with algo := some data } err)
  | installed {data : Bytes} (h : s.algoReceived = false)
      (hhash : env.sha3 data = s.computation.algorithm.hash) (hdir : f.datasets = none) :
    AlgoResult env s f c
      { event := some .algorithmReceived, service := s.received c
        files := { f with algo := some data, datasets := some fun _ => none } }

theorem installAlgo_result {c : AlgoCall} {data algoRequirements : Bytes}
    (h : s.algoReceived = false) :
    AlgoResult env s f c ({ s with algoRequirements }.installAlgo env f c data) := by
  unfold Service.installAlgo
  split
  · show AlgoResult env s f c ({ s with algoRequirements }.reject { f with algo := f.algo } _)
    exact .rejected h
  rename_i hhash
  have hhash : env.sha3 data = s.computation.algorithm.hash := not_not.mp hhash
  split
  · show AlgoResult env s f c ({ s with algoRequirements }.reject { f with algo := f.algo } _)
    exact .rejected h
  obtain ⟨err, algo, hwr⟩ | hwr := writeAlgo_cases f data c.disk
  · rw [hwr]
    exact .rejected h
  rw [hwr]
  obtain ⟨err, hmk⟩ | ⟨hdir, hmk⟩ := mkdirDatasets_cases { f with algo := some data } c.mkdir
  · simp only [hmk]
    exact .stuck h hhash
  · simp only [hmk]
    exact .installed h hhash hdir

theorem algo_result (env : Env) (s : Service) (f : Files) (c : AlgoCall) :
    AlgoResult env s f c (s.algo env f c) := by
  unfold Service.algo
  split
  · exact .already ‹_›
  rename_i h
  have h : s.algoReceived = false := by simpa using h
  split
  · exact installAlgo_result h
  split
  · exact .rejected h
  · exact installAlgo_result h

/-- What the action that downloads the algorithm can do. The files of an image may be anything,
so that nothing is said of the files but what the action writes after them. -/
inductive DownloadAlgoResult (env : Env) (s : Service) (f : Files) : Outcome → Prop
  | uploaded (h : s.computation.remoteAlgorithm = none) :
    DownloadAlgoResult env s f { service := s, files := f }
  | failed {f' : Files} {err : Err} (h : s.computation.remoteAlgorithm ≠ none) :
    DownloadAlgoResult env s f (s.fail f' err)
  | stuck {f' : Files} {res : DecryptedResource} {err : Err}
      (h : s.computation.remoteAlgorithm ≠ none)
      (hhash : env.sha3 res.data = s.computation.algorithm.hash) (halgo : f'.algo = some res.data) :
    DownloadAlgoResult env s f ((s.written res).fail f' err)
  | installed {f' : Files} {res : DecryptedResource} (h : s.computation.remoteAlgorithm ≠ none)
      (hhash : env.sha3 res.data = s.computation.algorithm.hash) (halgo : f'.algo = some res.data)
      (hdir : f'.datasets = some fun _ => none) :
    DownloadAlgoResult env s f
      { event := some .algorithmReceived, service := (s.written res).downloaded, files := f' }

theorem downloadAlgorithmIfRemote_result (env : Env) (s : Service) (f : Files) (c : AlgoCall) :
    DownloadAlgoResult env s f (s.downloadAlgorithmIfRemote env f c) := by
  unfold Service.downloadAlgorithmIfRemote
  split
  · exact .uploaded ‹_›
  rename_i source hrem
  have hrem : s.computation.remoteAlgorithm ≠ none := by simp [hrem]
  split
  · exact .failed hrem
  rename_i res _
  split
  · exact .failed hrem
  rename_i hhash
  have hhash : env.sha3 res.data = s.computation.algorithm.hash := not_not.mp hhash
  split
  · exact .failed hrem
  split
  · exact .failed hrem
  rename_i f' _
  obtain ⟨err, algo, hwr⟩ | hwr := writeAlgo_cases f' res.data c.disk
  · rw [hwr]
    exact .failed hrem
  rw [hwr]
  -- The algorithm is written by now: a failure to make the directory leaves it there.
  obtain ⟨err, hmk⟩ | ⟨hdir, hmk⟩ := mkdirDatasets_cases { f' with algo := some res.data } c.mkdir
  · simp only [hmk]
    exact .stuck hrem hhash rfl
  · simp only [hmk]
    exact .installed hrem hhash rfl rfl

/-! ### Datasets -/

@[simp] theorem pending_consume (i : Nat) : (s.consume i).pending = s.pending.eraseIdx i :=
  Slice.toList_delete ..

theorem dataReceived_eq_some_iff : s.dataReceived = some .dataReceived ↔ s.pending = [] := by
  simp [Service.dataReceived]

theorem getElem?_of_firstWhere {p : Dataset → Bool} {ds : List Dataset} {d : Dataset} {i : Nat}
    (h : firstWhere p ds = some (d, i)) : ds[i]? = some d ∧ p d = true := by
  exact ⟨List.mk_mem_zipIdx_iff_getElem?.mp (List.mem_of_find?_eq_some h),
    by simpa using List.find?_some h⟩

/-- `store` as `Data` calls it. -/
def storeUpload (env : Env) (f : Files) (c : DataCall) (i : Nat) (filename : GoString)
    (data : Bytes) : Option Err × Files :=
  store env f c.getwd (c.disk i) c.decompress filename data (lit "error decompressing dataset: ")
    (lit "error closing file: ")

/-- What `Data` looks for a place for: the upload, or a remote dataset if there is one. -/
inductive Offered (s : Service) (c : DataCall) : Bytes → GoString → Prop
  | upload (h : s.firstRemote = none) : Offered s c c.dataset.dataset c.dataset.filename
  | download {d : Dataset} {source : ResourceSource} {res : DecryptedResource}
      (h : s.firstRemote = some (d, source))
      (hres : downloadAndDecryptResource c.oci source = .ok res) :
    Offered s c res.data d.filename

/-- The call of `Data` takes dataset `d` off place `i`: it is the first one with the hash of
the data, it has no other file name, and the data can be stored. -/
structure Accepts (env : Env) (s : Service) (f : Files) (c : DataCall) (d : Dataset) (i : Nat)
    (data : Bytes) (filename : GoString) : Prop where
  offered : Offered s c data filename
  first : firstWhere (fun d => env.sha3 data = d.hash) s.pending = some (d, i)
  name : d.filename = [] ∨ d.filename = filename
  stored : (storeUpload env f c i filename data).1 = none

/-- What `Data` can do: take one dataset and return no error, or return an error and take
none. -/
inductive DataResult (env : Env) (s : Service) (f : Files) (c : DataCall) : Outcome → Prop
  | accepted {d : Dataset} {i : Nat} {data : Bytes} {filename : GoString}
      (h : Accepts env s f c d i data filename) :
    DataResult env s f c
      { event := (s.consume i).dataReceived, service := s.consume i
        files := (storeUpload env f c i filename data).2, consumed := [(d, data)] }
  | rejected {f' : Files} {err : Err}
      (h : ∀ d i data filename, ¬Accepts env s f c d i data filename)
      (hf : f' = f ∨ ∃ i data filename, Offered s c data filename ∧
        f' = (storeUpload env f c i filename data).2) : DataResult env s f c (s.reject f' err)

theorem Offered.unique {c : DataCall} {data data' : Bytes} {filename filename' : GoString}
    (h : Offered s c data filename) (h' : Offered s c data' filename') :
    data = data' ∧ filename = filename' := by
  cases h with
  | upload h =>
    cases h' with
    | upload => exact ⟨rfl, rfl⟩
    | download h' => simp [h] at h'
  | download h hres =>
    cases h' with
    | upload h' => simp [h] at h'
    | download h' hres' =>
      obtain ⟨rfl, rfl⟩ := Prod.mk.inj (Option.some.inj (h.symm.trans h'))
      obtain rfl := Except.ok.inj (hres.symm.trans hres')
      exact ⟨rfl, rfl⟩

theorem algo_store (env : Env) (f : Files) (getwd : Except GoString GoString) (disk : FileIO)
    (decompress : Bool) (filename : GoString) (data : Bytes) (unzipText closeText : GoString) :
    (store env f getwd disk decompress filename data unzipText closeText).2.algo = f.algo := by
  unfold store
  split
  · rfl
  split
  · rfl
  unfold Files.writeDataset
  split
  · rfl
  · rfl
  split <;> rfl

theorem acceptData_result {c : DataCall} {data : Bytes} {filename : GoString}
    (hoff : Offered s c data filename) :
    DataResult env s f c (s.acceptData env f c data filename) := by
  -- An upload offers one text under one name, so there is one dataset to accept it for.
  have huni : ∀ {d i data' filename'}, Accepts env s f c d i data' filename' →
      Accepts env s f c d i data filename := by
    intro d i data' filename' h
    obtain ⟨rfl, rfl⟩ := h.offered.unique hoff
    exact h
  unfold Service.acceptData
  split
  · rename_i hfst
    refine .rejected (fun d i data' filename' h => ?_) (.inl rfl)
    simp [(huni h).first] at hfst
  rename_i d i hfst
  split
  · -- The dataset with the hash has another name.
    rename_i hname
    refine .rejected (fun d' i' data' filename' h => ?_) (.inl rfl)
    obtain ⟨rfl, rfl⟩ := Prod.mk.inj (Option.some.inj (hfst.symm.trans (huni h).first))
    obtain hnil | heq := (huni h).name
    · exact hname.1 hnil
    · exact hname.2 heq
  rename_i hname
  have hname : d.filename = [] ∨ d.filename = filename := by
    by_cases hnil : d.filename = []
    · exact .inl hnil
    · exact .inr (not_not.mp fun hne => hname ⟨hnil, hne⟩)
  split
  · rename_i err f' hsto
    have hsto : storeUpload env f c i filename data = (some err, f') := hsto
    refine .rejected (fun d' i' data' filename' h => ?_)
      (.inr ⟨i, data, filename, hoff, by rw [hsto]⟩)
    obtain ⟨rfl, rfl⟩ := Prod.mk.inj (Option.some.inj (hfst.symm.trans (huni h).first))
    have hstd := (huni h).stored
    simp [hsto] at hstd
  · rename_i f' hsto
    have hsto : storeUpload env f c i filename data = (none, f') := hsto
    have hacs : Accepts env s f c d i data filename := ⟨hoff, hfst, hname, by rw [hsto]⟩
    have hfs : f' = (storeUpload env f c i filename data).2 := by rw [hsto]
    rw [hfs]
    exact .accepted hacs

theorem data_result (env : Env) (s : Service) (f : Files) (c : DataCall) :
    DataResult env s f c (s.data env f c) := by
  unfold Service.data
  split
  · rename_i hnil
    refine .rejected (fun d i data filename h => ?_) (.inl rfl)
    have hi := (getElem?_of_firstWhere h.first).1
    simp [hnil] at hi
  split
  · exact acceptData_result (.upload ‹_›)
  rename_i d source hrem
  split
  · rename_i err hres
    refine .rejected (fun d' i data filename h => ?_) (.inl rfl)
    cases h.offered with
    | upload hnone => simp [hrem] at hnone
    | download h' hres' =>
      obtain ⟨rfl, rfl⟩ := Prod.mk.inj (Option.some.inj (hrem.symm.trans h'))
      simp [hres] at hres'
  · exact acceptData_result (.download hrem ‹_›)

/-! ### The loop that downloads datasets -/

/-- What the loop does in one round: nothing, as the dataset is uploaded; or it fails; or it
takes the dataset and goes on. -/
inductive DownloadResult (env : Env) (c : DataCall) : Service → Files → Nat → Outcome → Prop
  | done {s : Service} {f : Files} :
    DownloadResult env c s f 0 { event := s.dataReceived, service := s, files := f }
  | skip {s : Service} {f : Files} {i : Nat} {o : Outcome}
      (h : ∀ d, s.pending[i]? = some d → s.computation.remoteDataset d = none)
      (rest : DownloadResult env c s f i o) : DownloadResult env c s f (i + 1) o
  | failed {s : Service} {f f' : Files} {i : Nat} {d : Dataset} {source : ResourceSource}
      {err : Err} (hd : s.pending[i]? = some d)
      (hremote : s.computation.remoteDataset d = some source)
      (h : Service.downloadDataset env f c d i source = (.error err, f')) :
    DownloadResult env c s f (i + 1) (s.fail f' err)
  | took {s : Service} {f f' : Files} {i : Nat} {d : Dataset} {source : ResourceSource}
      {data : Bytes} {o : Outcome} (hd : s.pending[i]? = some d)
      (hremote : s.computation.remoteDataset d = some source)
      (h : Service.downloadDataset env f c d i source = (.ok data, f'))
      (rest : DownloadResult env c (s.consume i) f' i o) :
    DownloadResult env c s f (i + 1) { o with consumed := (d, data) :: o.consumed }

theorem downloadDatasets_result (env : Env) (c : DataCall) (s : Service) (f : Files) (i : Nat) :
    DownloadResult env c s f i (s.downloadDatasets env c f i) := by
  induction i generalizing s f with
  | zero => exact .done
  | succ i ih =>
    unfold Service.downloadDatasets
    split
    · exact .skip (by simp [*]) (ih s f)
    rename_i d hd
    split
    · refine .skip (fun d' hd' => ?_) (ih s f)
      obtain rfl := Option.some.inj (hd.symm.trans hd')
      assumption
    rename_i source hrem
    split
    · exact .failed hd hrem ‹_›
    · exact .took hd hrem ‹_› (ih ..)

/-- `store` as the action calls it. -/
def storeDownload (env : Env) (f : Files) (c : DataCall) (d : Dataset) (i : Nat) (data : Bytes) :
    Option Err × Files :=
  store env f c.getwd (c.disk i) d.decompress d.filename data
    (lit "failed to unzip dataset " ++ d.filename ++ lit ": ") (lit "error closing dataset file: ")

/-- A download fails before it stores anything, or stores data with the hash of its dataset. -/
theorem downloadDataset_cases (env : Env) (f : Files) (c : DataCall) (d : Dataset) (i : Nat)
    (source : ResourceSource) :
    (∃ err, Service.downloadDataset env f c d i source = (.error err, f)) ∨
      ∃ res, downloadAndDecryptResource c.oci source = .ok res ∧ env.sha3 res.data = d.hash ∧
        Service.downloadDataset env f c d i source =
          (match (storeDownload env f c d i res.data).1 with
            | some err => .error err
            | none => .ok res.data, (storeDownload env f c d i res.data).2) := by
  unfold Service.downloadDataset
  split
  · exact .inl ⟨_, rfl⟩
  rename_i res hres
  split
  · exact .inl ⟨_, rfl⟩
  rename_i hhash
  refine .inr ⟨res, hres, not_not.mp hhash, ?_⟩
  unfold storeDownload
  generalize store env f c.getwd (c.disk i) d.decompress d.filename res.data
    (lit "failed to unzip dataset " ++ d.filename ++ lit ": ")
    (lit "error closing dataset file: ") = stored
  obtain ⟨err, f'⟩ := stored
  cases err <;> rfl

/-- Data that a download stores has the hash of its dataset. -/
theorem hash_of_downloadDataset {c : DataCall} {d : Dataset} {i : Nat} {source : ResourceSource}
    {data : Bytes} {f' : Files}
    (h : Service.downloadDataset env f c d i source = (.ok data, f')) : env.sha3 data = d.hash := by
  obtain ⟨err, heq⟩ | ⟨res, -, hhash, heq⟩ := downloadDataset_cases env f c d i source
  · cases heq.symm.trans h
  · have hok := congrArg Prod.fst (heq.symm.trans h)
    split at hok <;> cases hok
    exact hhash

theorem downloadDatasetsIfRemote_cases (env : Env) (s : Service) (f : Files) (c : DataCall) :
    s.firstRemote = none ∧ s.downloadDatasetsIfRemote env f c = { service := s, files := f } ∨
      s.firstRemote ≠ none ∧
        DownloadResult env c s f s.pending.length (s.downloadDatasetsIfRemote env f c) := by
  unfold Service.downloadDatasetsIfRemote
  cases hrem : s.firstRemote with
  | none => exact .inl ⟨rfl, rfl⟩
  | some d => exact .inr ⟨by simp, downloadDatasets_result ..⟩

theorem pending_ne_nil_of_firstRemote (h : s.firstRemote ≠ none) : s.pending ≠ [] := by
  intro hnil
  exact h (by simp [Service.firstRemote, hnil])

end SecureBinding.Agent
