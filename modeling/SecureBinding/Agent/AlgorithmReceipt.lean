import SecureBinding.Agent.Datasets

/-!
# Agent.AlgorithmReceipt

The two ways in which an algorithm with a remote source arrives: a call of `Algo`, and the
action of the state `ReceivingAlgorithm`. Both take the service's mutex, so that one of them
comes first. `Algo` finds out that the action was there; the action does not find out that
`Algo` was, and always ends with an event, so that the algorithm is received once if and only
if `Algo` has not succeeded when the action takes the mutex (`received_once_iff`).
-/

namespace SecureBinding.Agent

open Go Lib

variable {env : Env} {s : Service} {f : Files}

/-! ### When Algo succeeds -/

/-- The conditions for `Algo` to install an algorithm with this remote source. -/
structure AlgoAccepts (env : Env) (s : Service) (f : Files) (c : AlgoCall)
    (source : ResourceSource) : Prop where
  expected : s.algoReceived = false
  hash : ∃ res, downloadAndDecryptResource c.oci source = .ok res ∧
    env.sha3 res.data = s.computation.algorithm.hash
  getwd : c.getwd = none
  disk : c.disk.create = none ∧ c.disk.write = none ∧ c.disk.chmod = none ∧ c.disk.close = none
  mkdir : f.datasets = none ∧ c.mkdir = none

theorem writeAlgo_eq_none_iff {data : Bytes} {disk : FileIO} :
    (f.writeAlgo data disk).1 = none ↔
      disk.create = none ∧ disk.write = none ∧ disk.chmod = none ∧ disk.close = none := by
  unfold Files.writeAlgo
  cases disk.create <;> cases disk.write <;> cases disk.chmod <;> simp

theorem mkdirDatasets_eq_none_iff {mkdir : Option GoString} :
    (f.mkdirDatasets mkdir).1 = none ↔ f.datasets = none ∧ mkdir = none := by
  unfold Files.mkdirDatasets
  cases f.datasets <;> cases mkdir <;> simp

theorem installAlgo_event_iff {c : AlgoCall} {data : Bytes} :
    (s.installAlgo env f c data).event = some .algorithmReceived ↔
      env.sha3 data = s.computation.algorithm.hash ∧ c.getwd = none ∧
        (f.writeAlgo data c.disk).1 = none ∧ (f.mkdirDatasets c.mkdir).1 = none := by
  have hmk : (({ f with algo := some data } : Files).mkdirDatasets c.mkdir).1 = none ↔
      (f.mkdirDatasets c.mkdir).1 = none := by
    rw [mkdirDatasets_eq_none_iff, mkdirDatasets_eq_none_iff]
  unfold Service.installAlgo
  by_cases hhash : env.sha3 data = s.computation.algorithm.hash
  · rw [if_neg (not_not.mpr hhash)]
    cases c.getwd with
    | some err => simp [Service.reject]
    | none =>
      obtain ⟨err, algo, hwr⟩ | hwr := writeAlgo_cases f data c.disk
      · simp [hwr, Service.reject]
      · obtain ⟨err, hdir⟩ | ⟨-, hdir⟩ := mkdirDatasets_cases { f with algo := some data } c.mkdir
        · simp [hwr, hdir, Service.reject, ← hmk]
        · simp [hwr, hdir, hhash, ← hmk]
  · simp [hhash, Service.reject]

theorem algo_event_iff {c : AlgoCall} {source : ResourceSource}
    (hrem : s.computation.remoteAlgorithm = some source) :
    (s.algo env f c).event = some .algorithmReceived ↔ AlgoAccepts env s f c source := by
  unfold Service.algo
  by_cases hrec : s.algoReceived = true
  · rw [if_pos hrec]
    refine ⟨nofun, fun h => ?_⟩
    exact absurd (h.expected.symm.trans hrec) (by simp)
  rw [if_neg hrec, hrem]
  have hrec : s.algoReceived = false := by simpa using hrec
  cases hres : downloadAndDecryptResource c.oci source with
  | error err =>
    simp only [hres]
    refine ⟨nofun, fun h => ?_⟩
    obtain ⟨res, hok, -⟩ := h.hash
    simp [hres] at hok
  | ok res =>
    simp only [hres]
    rw [installAlgo_event_iff, writeAlgo_eq_none_iff, mkdirDatasets_eq_none_iff]
    refine ⟨fun ⟨hhash, hgetwd, hdisk, hmk⟩ =>
      ⟨hrec, ⟨res, hres, hhash⟩, hgetwd, hdisk, hmk⟩, fun h => ?_⟩
    obtain ⟨res', hres', hhash⟩ := h.hash
    obtain rfl := Except.ok.inj (hres.symm.trans hres')
    exact ⟨hhash, h.getwd, h.disk, h.mkdir⟩

/-! ### What comes between them -/

/-- The operations that have nothing to do with the algorithm. -/
def Op.Other : Op → Prop
  | .algo _ | .downloadAlgorithm _ => False
  | _ => True

/-- The part of a service that the two ways look at. -/
structure SameAlgorithm (s t : Service) : Prop where
  remote : t.computation.remoteAlgorithm = s.computation.remoteAlgorithm
  received : t.algoReceived = s.algoReceived

/-- Only the list of datasets of a manifest is different. -/
theorem remoteAlgorithm_eq {s t : Service}
    (h : { t.computation with datasets := s.computation.datasets } = s.computation) :
    t.computation.remoteAlgorithm = s.computation.remoteAlgorithm := by
  rw [← h]
  rfl

theorem algoReceived_downloadDatasets {c : DataCall} {i : Nat} {o : Outcome}
    (h : DownloadResult env c s f i o) : o.service.algoReceived = s.algoReceived := by
  induction h with
  | done | failed => rfl
  | skip _ _ ih => exact ih
  | took _ _ _ _ ih => exact ih

theorem sameAlgorithm_outcome {op : Op} (hop : op.Other) :
    SameAlgorithm s (op.outcome env s f).service := by
  refine ⟨remoteAlgorithm_eq (datasetSpec_outcome op).manifest, ?_⟩
  cases op with
  | algo c | downloadAlgorithm c => exact hop.elim
  | run => rfl
  | result currentState index =>
    simp only [Op.outcome, Service.resultBody]
    split
    · rfl
    split
    · rfl
    split <;> rfl
  | data c =>
    have h := data_result env s f c
    show (s.data env f c).service.algoReceived = _
    generalize s.data env f c = o at h
    cases h <;> rfl
  | downloadDatasets c =>
    show (s.downloadDatasetsIfRemote env f c).service.algoReceived = _
    obtain ⟨-, h⟩ | ⟨-, h⟩ := downloadDatasetsIfRemote_cases env s f c
    · rw [h]
    · exact algoReceived_downloadDatasets h

theorem sameAlgorithm_run {t u : Serial} {others : List Op} (hoths : ∀ op ∈ others, op.Other)
    (hrun : run (Serial.step env) t others = some u) : SameAlgorithm t.service u.service := by
  induction others generalizing t with
  | nil =>
    obtain rfl := Option.some.inj hrun
    exact ⟨rfl, rfl⟩
  | cons op others ih =>
    obtain ⟨v, hstep, hrest⟩ := run_cons_eq_some_iff.mp hrun
    obtain rfl := Option.some.inj hstep
    have hfst : SameAlgorithm t.service (op.outcome env t.service t.files).service :=
      sameAlgorithm_outcome (hoths op List.mem_cons_self)
    have hrest := ih (fun op' hop' => hoths op' (List.mem_cons_of_mem _ hop')) hrest
    exact ⟨hrest.remote.trans hfst.remote, hrest.received.trans hfst.received⟩

/-! ### The algorithm is received once -/

/-- Which of the two takes the mutex first. -/
inductive Order
  | algoFirst
  | downloadFirst

def Order.ops (a d : AlgoCall) : Order → Op × Op
  | .algoFirst => (.algo a, .downloadAlgorithm d)
  | .downloadFirst => (.downloadAlgorithm d, .algo a)

/-- An operation leaves the algorithm as it is, does not send it again, and does not fail the
computation. -/
structure Harmless (s : Service) (f : Files) (o : Outcome) : Prop where
  file : o.files.algo = f.algo
  algoType : o.service.algoType = s.algoType
  algoArgs : o.service.algoArgs = s.algoArgs
  algoRequirements : o.service.algoRequirements = s.algoRequirements
  not_received : o.event ≠ some .algorithmReceived
  not_failed : o.event ≠ some .runFailed

/-- The action always ends with an event. -/
theorem not_harmless_download {o : Outcome} (h : DownloadAlgoResult env s f o)
    (hrem : s.computation.remoteAlgorithm ≠ none) : ¬Harmless s f o := by
  intro hharmless
  cases h with
  | uploaded hnone => exact hrem hnone
  | failed | stuck => exact hharmless.not_failed rfl
  | installed => exact hharmless.not_received rfl

theorem harmless_algo {c : AlgoCall} {o : Outcome} (h : AlgoResult env s f c o)
    (hrec : s.algoReceived = true) : Harmless s f o := by
  cases h with
  | already => exact ⟨rfl, rfl, rfl, rfl, nofun, nofun⟩
  | rejected hnot | stuck hnot | installed hnot => simp [hrec] at hnot

theorem algoReceived_of_download {o : Outcome} (h : DownloadAlgoResult env s f o)
    (hev : o.event = some .algorithmReceived) : o.service.algoReceived = true := by
  cases h with
  | installed => rfl
  | _ => cases hev

/-! ### An algorithm in an image -/

def imageSource : ResourceSource := { type := lit "oci-image" }

/-- A manifest without datasets, whose algorithm is a binary in an image. -/
def imageComputation : Computation where
  algorithm := { hash := [1], algoType := lit "bin", source := some imageSource }
  kbs := { enabled := true }

/-- What is in the image, and where it was extracted. -/
def imageResource : DecryptedResource :=
  { data := [1], sourceDir := lit "/tmp/agents-secure-binding-oci/extracted/algo" }

/-- Both ways find the algorithm in the image, in which there is only the file `algo`. -/
def imageCall : AlgoCall where
  oci _ := .ok imageResource
  copied _ f := { f with algo := some [1] }

/-- The action comes first. -/
def afterDownload : Outcome :=
  (Order.downloadFirst.ops imageCall imageCall).1.outcome plainEnv
    { computation := imageComputation } {}

/-- `Algo` comes first. -/
def afterAlgo : Outcome :=
  (Order.algoFirst.ops imageCall imageCall).1.outcome plainEnv
    { computation := imageComputation } {}

/-- Of the two, the one that comes second is harmless if the first one succeeded, if and only
if the first one is not a call of `Algo` that succeeds. -/
theorem received_once_iff (env : Env) (s : Service) (f : Files) (source : ResourceSource)
    (hremote : s.computation.remoteAlgorithm = some source) (order : Order) (a d : AlgoCall)
    (others : List Op) (hothers : ∀ op ∈ others, op.Other) (t : Serial)
    (hrun : run (Serial.step env)
      ⟨((order.ops a d).1.outcome env s f).service, ((order.ops a d).1.outcome env s f).files, [], []⟩
      others = some t) :
    (((order.ops a d).1.outcome env s f).event = some .algorithmReceived →
      Harmless t.service t.files ((order.ops a d).2.outcome env t.service t.files)) ↔
      (order = .algoFirst → ¬AlgoAccepts env s f a source) := by
  have hsame := sameAlgorithm_run hothers hrun
  cases order with
  | algoFirst =>
    have hfst : (s.algo env f a).event = some .algorithmReceived ↔ AlgoAccepts env s f a source :=
      algo_event_iff hremote
    have hremote' : t.service.computation.remoteAlgorithm ≠ none := by
      have hfst : (s.algo env f a).service.computation = s.computation :=
        datasets_algo (algo_result env s f a)
      rw [hsame.remote]
      show (s.algo env f a).service.computation.remoteAlgorithm ≠ none
      rw [hfst, hremote]
      simp
    have hsec := not_harmless_download
      (downloadAlgorithmIfRemote_result env t.service t.files d) hremote'
    exact ⟨fun h _ hacs => hsec (h (hfst.mpr hacs)), fun h hev => absurd (hfst.mp hev) (h rfl)⟩
  | downloadFirst =>
    refine ⟨fun _ => nofun, fun _ hev => ?_⟩
    have hrec := algoReceived_of_download (downloadAlgorithmIfRemote_result env s f d) hev
    exact harmless_algo (algo_result ..) (hsame.received.trans hrec)

theorem received_once_afterDownload :
    afterDownload.event = some .algorithmReceived ∧
      Harmless afterDownload.service afterDownload.files
        (afterDownload.service.algo plainEnv afterDownload.files imageCall) := by
  have hev : afterDownload.event = some .algorithmReceived := by decide +kernel
  have hiff := received_once_iff plainEnv { computation := imageComputation } {} imageSource rfl
    .downloadFirst imageCall imageCall [] (List.forall_mem_nil _)
    ⟨afterDownload.service, afterDownload.files, [], []⟩ run_nil
  exact ⟨hev, hiff.mpr nofun hev⟩

/-- `Algo` installs the algorithm, and then the action fails the computation, as the datasets
directory is there already. -/
theorem download_fails_received_algorithm :
    afterAlgo.event = some .algorithmReceived ∧
      (afterAlgo.service.downloadAlgorithmIfRemote plainEnv afterAlgo.files imageCall).event =
        some .runFailed := by
  decide +kernel

/-! ### What the two ways leave -/

/-- What the algorithm is run with. -/
structure Installation where
  file : Option Bytes
  supporting : Dir
  algoType : GoString
  algoArgs : List GoString
  algoRequirements : Bytes

def Outcome.installation (o : Outcome) : Installation where
  file := o.files.algo
  supporting := o.files.supporting
  algoType := o.service.algoType
  algoArgs := o.service.algoArgs
  algoRequirements := o.service.algoRequirements

variable {a d : AlgoCall} {res : DecryptedResource} {source : ResourceSource}

theorem installation_algo (hrem : s.computation.remoteAlgorithm = some source)
    (hres : downloadAndDecryptResource a.oci source = .ok res)
    (h : (s.algo env f a).event = some .algorithmReceived) :
    (s.algo env f a).installation =
      ⟨some res.data, f.supporting, orBin a.algoType, a.algoArgs, a.algo.requirements⟩ := by
  have hrec := (algo_event_iff hrem).mp h |>.expected
  simp only [Service.algo, hrec, hrem, hres] at h ⊢
  obtain ⟨hhash, hgetwd, -, -⟩ := installAlgo_event_iff.mp h
  simp only [Service.installAlgo, hhash, hgetwd] at h ⊢
  obtain ⟨err, algo, hwr⟩ | hwr := writeAlgo_cases f res.data a.disk
  · simp [hwr, Service.reject] at h
  obtain ⟨err, hmk⟩ | ⟨-, hmk⟩ := mkdirDatasets_cases { f with algo := some res.data } a.mkdir
  · simp [hwr, hmk, Service.reject] at h
  · simp [hwr, hmk, Outcome.installation, Service.received]

theorem installation_download (hrem : s.computation.remoteAlgorithm = some source)
    (hres : downloadAndDecryptResource d.oci source = .ok res)
    (h : (s.downloadAlgorithmIfRemote env f d).event = some .algorithmReceived) :
    (s.downloadAlgorithmIfRemote env f d).installation =
      ⟨some res.data, (d.copy res f).2.supporting, orBin s.computation.algorithm.algoType,
        s.computation.algorithm.algoArgs, res.requirements⟩ := by
  simp only [Service.downloadAlgorithmIfRemote, hrem, hres] at h ⊢
  split at h
  · simp [Service.fail] at h
  rename_i hhash
  rw [if_neg hhash]
  cases hgetwd : d.getwd with
  | some err => simp [hgetwd, Service.fail] at h
  | none =>
    rcases hcopy : d.copy res f with ⟨_ | err, f'⟩
    · simp only [hgetwd, hcopy] at h ⊢
      obtain ⟨err, algo, hwr⟩ | hwr := writeAlgo_cases f' res.data d.disk
      · simp [hwr, Service.fail] at h
      obtain ⟨err, hmk⟩ | ⟨-, hmk⟩ := mkdirDatasets_cases { f' with algo := some res.data } d.mkdir
      · simp [hwr, hmk, Service.fail] at h
      · simp [hwr, hmk, Outcome.installation, Service.written, Service.downloaded]
    · simp [hgetwd, hcopy, Service.fail] at h

end SecureBinding.Agent
