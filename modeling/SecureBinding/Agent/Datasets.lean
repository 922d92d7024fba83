import SecureBinding.Agent.ServiceSpec
import Mathlib.Data.List.Perm.Basic

/-!
# Agent.Datasets

What the operations of the service do with the list of datasets, over any sequence of them
between one `InitComputation` and the next.

`Takes` is what every operation does to the list: it takes off some datasets, one after the
other, each for data of its hash. The accounting of datasets follows from it
(`dataset_accounting`), and so does what the caller of `InitComputation` sees, whose list has
the same array: it changes with the first dataset that is taken off, unless there were only
zero values from it on (`caller_unchanged_iff`).
-/

namespace SecureBinding.Agent

open Go Lib

variable {env : Env} {s : Service} {f : Files}

/-- The datasets of a log are taken off the list in this order, each for data of its hash. -/
inductive Takes (env : Env) : Slice Dataset → List (Dataset × Bytes) → Slice Dataset → Prop
  | nil {ds : Slice Dataset} : Takes env ds [] ds
  | cons {ds ds' : Slice Dataset} {i : Nat} {d : Dataset} {data : Bytes}
      {log : List (Dataset × Bytes)} (hd : ds.toList[i]? = some d)
      (hhash : env.sha3 data = d.hash) (rest : Takes env (ds.delete i) log ds') :
    Takes env ds ((d, data) :: log) ds'

namespace Takes

variable {ds ds' : Slice Dataset} {log : List (Dataset × Bytes)}

theorem perm (h : Takes env ds log ds') : (ds'.toList ++ log.map Prod.fst).Perm ds.toList := by
  induction h with
  | nil => simp
  | @cons ds ds' i d data log hd hhash rest ih =>
    obtain ⟨hi, rfl⟩ := List.getElem?_eq_some_iff.mp hd
    calc
      ds'.toList ++ (ds.toList[i] :: log.map Prod.fst)
      List.Perm _ (ds.toList[i] :: (ds'.toList ++ log.map Prod.fst)) := List.perm_middle
      List.Perm _ (ds.toList[i] :: ds.toList.eraseIdx i) := by
        rw [← Slice.toList_delete]
        exact ih.cons _
      List.Perm _ ds.toList := List.getElem_cons_eraseIdx_perm hi

theorem hash (h : Takes env ds log ds') : ∀ x ∈ log, env.sha3 x.2 = x.1.hash := by
  induction h with
  | nil => simp
  | cons hd hhash rest ih => exact List.forall_mem_cons.mpr ⟨hhash, ih⟩

theorem weight_le (h : Takes env ds log ds') : weight ds'.array ≤ weight ds.array := by
  induction h with
  | nil => exact Nat.le_refl _
  | cons hd hhash rest ih => exact Nat.le_trans ih Slice.weight_delete_le

end Takes

/-! ### What each operation does to the list -/

/-- The effect of an operation on the manifest, and when it sends `DataReceived`. -/
structure DatasetSpec (env : Env) (s : Service) (o : Outcome) : Prop where
  takes : Takes env s.computation.datasets o.consumed o.service.computation.datasets
  manifest : { o.service.computation with datasets := s.computation.datasets } = s.computation
  dataReceived : o.event = some .dataReceived → s.pending ≠ [] ∧ o.service.pending = []

variable {o : Outcome} {d : Dataset} {i : Nat} {c : DataCall} {t u : Serial}

theorem datasetSpec_of_eq (hconsumed : o.consumed = [])
    (hcmp : o.service.computation = s.computation)
    (hev : o.event ≠ some .dataReceived) : DatasetSpec env s o where
  takes := by
    rw [hconsumed, hcmp]
    exact .nil
  manifest := by rw [hcmp]
  dataReceived h := absurd h hev

theorem datasetSpec_algo {c : AlgoCall} (h : AlgoResult env s f c o) : DatasetSpec env s o := by
  cases h with
  | already | rejected | stuck => exact datasetSpec_of_eq rfl rfl (by simp [Service.reject])
  | installed => exact datasetSpec_of_eq rfl rfl (by simp)

theorem datasetSpec_downloadAlgorithmIfRemote (h : DownloadAlgoResult env s f o) :
    DatasetSpec env s o := by
  cases h with
  | uploaded | installed => exact datasetSpec_of_eq rfl rfl (by simp)
  | failed | stuck => exact datasetSpec_of_eq rfl rfl (by simp [Service.fail])

theorem pending_ne_nil_of_getElem? (h : s.pending[i]? = some d) : s.pending ≠ [] := by
  intro hnil
  simp [hnil] at h

theorem datasetSpec_data (h : DataResult env s f c o) : DatasetSpec env s o := by
  cases h with
  | rejected => exact datasetSpec_of_eq rfl rfl (by simp [Service.reject])
  | accepted h =>
    obtain ⟨hd, hhash⟩ := getElem?_of_firstWhere h.first
    exact
      { takes := .cons hd (by simpa using hhash) .nil
        manifest := rfl
        dataReceived := fun hev =>
          ⟨pending_ne_nil_of_getElem? hd, dataReceived_eq_some_iff.mp hev⟩ }

theorem takes_downloadDatasets (h : DownloadResult env c s f i o) :
    Takes env s.computation.datasets o.consumed o.service.computation.datasets ∧
      { o.service.computation with datasets := s.computation.datasets } = s.computation ∧
      (o.event = some .dataReceived → o.service.pending = []) := by
  induction h with
  | done => exact ⟨.nil, rfl, dataReceived_eq_some_iff.mp⟩
  | skip _ _ ih => exact ih
  | failed => exact ⟨.nil, rfl, by simp [Service.fail]⟩
  | @took s f f' i d source data o hd hrem hload rest ih =>
    obtain ⟨htakes, hman, hev⟩ := ih
    refine ⟨.cons hd (hash_of_downloadDataset hload) htakes, ?_, hev⟩
    exact congrArg (fun m : Computation => { m with datasets := s.computation.datasets }) hman

theorem datasetSpec_downloadDatasetsIfRemote (c : DataCall) :
    DatasetSpec env s (s.downloadDatasetsIfRemote env f c) := by
  obtain ⟨-, h⟩ | ⟨hrem, h⟩ := downloadDatasetsIfRemote_cases env s f c
  · rw [h]
    exact datasetSpec_of_eq rfl rfl (by simp)
  · obtain ⟨htakes, hman, hev⟩ := takes_downloadDatasets h
    exact ⟨htakes, hman, fun he => ⟨pending_ne_nil_of_firstRemote hrem, hev he⟩⟩

theorem service_resultBody (currentState : AgentState) (index : Option Int) :
    (s.resultBody currentState index).2.2.computation = s.computation ∧
      (s.resultBody currentState index).2.1 ≠ some .dataReceived := by
  unfold Service.resultBody
  split
  · simp
  split
  · simp
  split <;> simp

/-! ### Sequences of operations -/

/-- The operations on the service between two manifests, in the order in which they take the
mutex; and what `runComputation` writes, which is to the result, the error and the files. -/
inductive Op
  | algo (c : AlgoCall)
  | downloadAlgorithm (c : AlgoCall)
  | data (c : DataCall)
  | downloadDatasets (c : DataCall)
  | result (currentState : AgentState) (index : Option Int)
  | run (result : Bytes) (runError : Option Err) (files : Files)

def Op.outcome (env : Env) (s : Service) (f : Files) : Op → Outcome
  | .algo c => s.algo env f c
  | .downloadAlgorithm c => s.downloadAlgorithmIfRemote env f c
  | .data c => s.data env f c
  | .downloadDatasets c => s.downloadDatasetsIfRemote env f c
  | .result currentState index =>
    let (_, event, service) := s.resultBody currentState index
    { event, service, files := f }
  | .run bytes err files => { service := { s with result := bytes, runError := err }, files }

/-- The service and its files, and what has happened since the manifest came. -/
structure Serial where
  service : Service
  files : Files
  accepted : List (Dataset × Bytes) := []
  sent : List AgentEvent := []

def Serial.step (env : Env) (t : Serial) (op : Op) : Option Serial :=
  let o := op.outcome env t.service t.files
  some ⟨o.service, o.files, t.accepted ++ o.consumed, t.sent ++ o.event.toList⟩

/-- `InitComputation` stores the manifest. -/
def Serial.initComputation (s : Service) (f : Files) (cmp : Computation) : Serial :=
  { service := { s with computation := cmp }, files := f }

theorem datasetSpec_outcome (op : Op) : DatasetSpec env s (op.outcome env s f) := by
  cases op with
  | algo c => exact datasetSpec_algo (algo_result ..)
  | downloadAlgorithm c =>
    exact datasetSpec_downloadAlgorithmIfRemote (downloadAlgorithmIfRemote_result _ _ _ c)
  | data c => exact datasetSpec_data (data_result ..)
  | downloadDatasets c => exact datasetSpec_downloadDatasetsIfRemote c
  | result currentState index =>
    exact datasetSpec_of_eq rfl (service_resultBody currentState index).1
      (service_resultBody currentState index).2
  | run result runError files => exact datasetSpec_of_eq rfl rfl (by simp [Op.outcome])

/-- What holds after any operations on a manifest with datasets `ds`. -/
structure Accounted (env : Env) (ds : List Dataset) (t : Serial) : Prop where
  perm : (t.service.pending ++ t.accepted.map Prod.fst).Perm ds
  hash : ∀ x ∈ t.accepted, env.sha3 x.2 = x.1.hash
  once : t.sent.count .dataReceived ≤ 1
  empty : .dataReceived ∈ t.sent → t.service.pending = []

theorem accounted_step {ds : List Dataset} {op : Op} (h : Accounted env ds t)
    (hstep : t.step env op = some u) : Accounted env ds u := by
  have hspec : DatasetSpec env t.service (op.outcome env t.service t.files) :=
    datasetSpec_outcome op
  obtain rfl := Option.some.inj hstep
  generalize op.outcome env t.service t.files = o at hspec
  refine ⟨?_, ?_, ?_, ?_⟩
  · -- What an operation takes off the list is what it adds to the accepted.
    show (o.service.pending ++ (t.accepted ++ o.consumed).map Prod.fst).Perm ds
    rw [List.map_append]
    calc
      o.service.pending ++ (t.accepted.map Prod.fst ++ o.consumed.map Prod.fst)
      List.Perm _ (o.service.pending ++ (o.consumed.map Prod.fst ++ t.accepted.map Prod.fst)) :=
        List.perm_append_comm.append_left _
      _ = (o.service.pending ++ o.consumed.map Prod.fst) ++ t.accepted.map Prod.fst := by simp
      List.Perm _ (t.service.pending ++ t.accepted.map Prod.fst) := hspec.takes.perm.append_right _
      List.Perm _ ds := h.perm
  · exact List.forall_mem_append.mpr ⟨h.hash, hspec.takes.hash⟩
  · show (t.sent ++ o.event.toList).count .dataReceived ≤ 1
    rw [List.count_append]
    by_cases hev : o.event = some .dataReceived
    · -- Something was expected before the step, so it was not sent before.
      have hnot : .dataReceived ∉ t.sent := fun hmem =>
        (hspec.dataReceived hev).1 (h.empty hmem)
      rw [List.count_eq_zero.mpr hnot, hev]
      exact Nat.le_refl 1
    · have hzero : o.event.toList.count .dataReceived = 0 := by
        rw [List.count_eq_zero, Option.mem_toList]
        exact hev
      rw [hzero]
      exact h.once
  · intro hmem
    obtain hmem | hmem := List.mem_append.mp hmem
    · -- Nothing can be taken off a list that is empty.
      have hnil := h.empty hmem
      have hperm := hspec.takes.perm
      rw [show t.service.computation.datasets.toList = [] from hnil] at hperm
      exact (List.append_eq_nil_iff.mp hperm.eq_nil).1
    · exact (hspec.dataReceived (Option.mem_toList.mp hmem)).2

/-! ### Two datasets -/

/-- A hash that is easy to compute. -/
def plainEnv : Env := { sha3 := id, unzip := fun _ dir => (none, dir) }

def noImages : Oci := fun _ => .error []

def twoDatasets : List Dataset :=
  [{ hash := [1], filename := [0x61] }, { hash := [2], filename := [0x62] }]

/-- The first of them is uploaded. -/
def uploadFirst : Op := .data { dataset := { dataset := [1], filename := [0x61] }, oci := noImages }

/-- A service that waits for them. -/
def awaitingTwo : Serial :=
  .initComputation {} { datasets := some fun _ => none } { datasets := .ofList twoDatasets }

/-- From one manifest to the next, the datasets still expected and those accepted are those of
the manifest, with their multiplicities; each was accepted for data of its hash, by one step;
a call of `Data` that returns an error accepts none; and `DataReceived` is sent at most once,
by a step that makes the list empty. -/
theorem dataset_accounting (env : Env) (s : Service) (f : Files) (cmp : Computation)
    (ops : List Op) (t : Serial)
    (hrun : run (Serial.step env) (.initComputation s f cmp) ops = some t) :
    (t.service.pending ++ t.accepted.map Prod.fst).Perm cmp.datasets.toList ∧
      (∀ x ∈ t.accepted, env.sha3 x.2 = x.1.hash) ∧
      t.sent.count .dataReceived ≤ 1 ∧
      (∀ op : Op, (op.outcome env t.service t.files).event = some .dataReceived →
        t.service.pending ≠ [] ∧ (op.outcome env t.service t.files).service.pending = []) ∧
      ∀ c, ((t.service.data env t.files c).err ≠ none →
          (t.service.data env t.files c).consumed = [] ∧
            (t.service.data env t.files c).service = t.service) ∧
        ((t.service.data env t.files c).err = none →
          ∃ i d data, t.service.pending[i]? = some d ∧ env.sha3 data = d.hash ∧
            (t.service.data env t.files c).consumed = [(d, data)] ∧
            (t.service.data env t.files c).service.pending = t.service.pending.eraseIdx i) := by
  have hinit : Accounted env cmp.datasets.toList (.initComputation s f cmp) :=
    ⟨by simp [Serial.initComputation, Service.pending], by simp [Serial.initComputation],
      by simp [Serial.initComputation], by simp [Serial.initComputation]⟩
  have h := invariant_of_reaches accounted_step hinit ⟨ops, hrun⟩
  refine ⟨h.perm, h.hash, h.once, fun op => (datasetSpec_outcome op).dataReceived, fun c => ?_⟩
  have hdata := data_result env t.service t.files c
  generalize t.service.data env t.files c = o at hdata
  cases hdata with
  | rejected => exact ⟨fun _ => ⟨rfl, rfl⟩, fun hnone => nomatch hnone⟩
  | accepted hacs =>
    obtain ⟨hd, hhash⟩ := getElem?_of_firstWhere hacs.first
    exact ⟨fun hne => absurd rfl hne,
      fun _ => ⟨_, _, _, hd, by simpa using hhash, rfl, pending_consume _⟩⟩

theorem accounting_twoDatasets :
    ∃ t, run (Serial.step plainEnv) awaitingTwo [uploadFirst] = some t ∧
      (t.service.pending ++ t.accepted.map Prod.fst).Perm twoDatasets :=
  ⟨_, rfl, (dataset_accounting plainEnv {} { datasets := some fun _ => none }
    { datasets := .ofList twoDatasets } [uploadFirst] _ rfl).1⟩

/-! ### The caller's list -/

/-- The last dataset of the list with a remote source, which the action downloads first. -/
structure LastRemote (s : Service) (i : Nat) (d : Dataset) (source : ResourceSource) : Prop where
  getElem? : s.pending[i]? = some d
  remote : s.computation.remoteDataset d = some source
  last : ∀ j d', i < j → s.pending[j]? = some d' → s.computation.remoteDataset d' = none

/-- The operation takes no dataset off the list, or one from which on there are only zero
values. A dataset with a remote source is none. -/
def KeepsCaller (env : Env) (t : Serial) : Op → Prop
  | .data c => ∀ d i data filename, Accepts env t.service t.files c d i data filename →
    t.service.computation.datasets.Cleared i
  | .downloadDatasets c => ∀ i d source, LastRemote t.service i d source →
    ∀ data f', Service.downloadDataset env t.files c d i source ≠ (.ok data, f')
  | _ => True

theorem Accepts.unique {d' : Dataset} {i' : Nat} {data data' : Bytes}
    {filename filename' : GoString} (h : Accepts env s f c d i data filename)
    (h' : Accepts env s f c d' i' data' filename') : i = i' := by
  obtain ⟨rfl, rfl⟩ := h.offered.unique h'.offered
  exact (Prod.mk.inj (Option.some.inj (h.first.symm.trans h'.first))).2

theorem LastRemote.unique {i' : Nat} {d' : Dataset} {source source' : ResourceSource}
    (h : LastRemote s i d source) (h' : LastRemote s i' d' source') :
    i = i' ∧ d = d' ∧ source = source' := by
  have hi : i = i' := by
    obtain hlt | heq | hgt := Nat.lt_trichotomy i i'
    · simpa [h'.remote] using h.last i' d' hlt h'.getElem?
    · exact heq
    · simpa [h.remote] using h'.last i d hgt h.getElem?
  subst hi
  obtain rfl := Option.some.inj (h.getElem?.symm.trans h'.getElem?)
  exact ⟨rfl, rfl, Option.some.inj (h.remote.symm.trans h'.remote)⟩

theorem lt_len_of_getElem? (h : s.pending[i]? = some d) : i < s.computation.datasets.len := by
  obtain ⟨hi, -⟩ := List.getElem?_eq_some_iff.mp h
  rwa [Service.pending, Slice.length_toList] at hi

/-- A dataset with a remote source is not a zero value, so that to take it off changes the
array. -/
theorem weight_consume_lt {source : ResourceSource}
    (hd : s.pending[i]? = some d) (hrem : s.computation.remoteDataset d = some source) :
    weight (s.consume i).computation.datasets.array < weight s.computation.datasets.array := by
  refine Nat.lt_of_le_of_ne Slice.weight_delete_le fun heq => ?_
  have hclr := (Slice.weight_delete_eq_iff (lt_len_of_getElem? hd)).mp heq
  have hzero : d = default := by
    refine hclr d (List.mem_of_getElem? (i := 0) ?_)
    rw [List.getElem?_drop]
    exact hd
  rw [hzero] at hrem
  simp [Computation.remoteDataset] at hrem

/-- The loop changes the array if and only if the first download succeeds. -/
theorem array_downloadDatasets (h : DownloadResult env c s f i o)
    (hlast : ∀ j d, i ≤ j → s.pending[j]? = some d → s.computation.remoteDataset d = none) :
    ((∀ j d source, LastRemote s j d source →
        ∀ data f', Service.downloadDataset env f c d j source ≠ (.ok data, f')) ∧
      o.service.computation.datasets = s.computation.datasets) ∨
    ((∃ j d source data f', LastRemote s j d source ∧
        Service.downloadDataset env f c d j source = (.ok data, f')) ∧
      weight o.service.computation.datasets.array < weight s.computation.datasets.array) := by
  induction h with
  | done =>
    refine .inl ⟨fun j d source hlr => ?_, rfl⟩
    have hnone := hlast j d (Nat.zero_le j) hlr.getElem?
    simp [hlr.remote] at hnone
  | @skip s f i o hskip rest ih =>
    refine ih fun j d hj hd => ?_
    obtain rfl | hlt := Nat.eq_or_lt_of_le hj
    · exact hskip d hd
    · exact hlast j d hlt hd
  | @failed s f f' i d source err hd hrem hload =>
    refine .inl ⟨fun j d' source' hlr => ?_, rfl⟩
    obtain ⟨rfl, rfl, rfl⟩ := hlr.unique ⟨hd, hrem, fun j d' hj hd' => hlast j d' hj hd'⟩
    intro data f'' hok
    simp [hload] at hok
  | @took s f f' i d source data o hd hrem hload rest ih =>
    have htakes := (takes_downloadDatasets rest).1
    exact .inr ⟨⟨i, d, source, data, f', ⟨hd, hrem, fun j d' hj hd' => hlast j d' hj hd'⟩,
      hload⟩, Nat.lt_of_le_of_lt htakes.weight_le (weight_consume_lt hd hrem)⟩

theorem datasets_algo {c : AlgoCall} (h : AlgoResult env s f c o) :
    o.service.computation = s.computation := by
  cases h <;> rfl

theorem datasets_downloadAlgorithmIfRemote (h : DownloadAlgoResult env s f o) :
    o.service.computation = s.computation := by
  cases h <;> rfl

/-- What one operation does to the array. -/
theorem array_outcome (env : Env) (t : Serial) (op : Op) :
    (KeepsCaller env t op ∧ (op.outcome env t.service t.files).service.computation.datasets.array =
        t.service.computation.datasets.array) ∨
      (¬KeepsCaller env t op ∧
        weight (op.outcome env t.service t.files).service.computation.datasets.array <
          weight t.service.computation.datasets.array) := by
  cases op with
  | algo c => exact .inl ⟨trivial, by rw [Op.outcome, datasets_algo (algo_result ..)]⟩
  | downloadAlgorithm c =>
    refine .inl ⟨trivial, ?_⟩
    rw [Op.outcome,
      datasets_downloadAlgorithmIfRemote (downloadAlgorithmIfRemote_result _ _ t.files c)]
  | result currentState index =>
    refine .inl ⟨trivial, ?_⟩
    show (t.service.resultBody currentState index).2.2.computation.datasets.array = _
    rw [(service_resultBody currentState index).1]
  | run bytes err files => exact .inl ⟨trivial, rfl⟩
  | data c =>
    have hdata := data_result env t.service t.files c
    show (KeepsCaller env t (.data c) ∧ (t.service.data env t.files c).service.computation.datasets.array
      = _) ∨ (_ ∧ weight (t.service.data env t.files c).service.computation.datasets.array < _)
    generalize t.service.data env t.files c = o at hdata
    cases hdata with
    | rejected hnone => exact .inl ⟨fun d i data filename h => absurd h (hnone _ _ _ _), rfl⟩
    | @accepted d i data filename hacs =>
      have hi := lt_len_of_getElem? (getElem?_of_firstWhere hacs.first).1
      -- Deleting moves the rest of the array down, which shows unless the place was cleared.
      by_cases hclr : t.service.computation.datasets.Cleared i
      · refine .inl ⟨fun d' i' data' filename' h => ?_, Slice.delete_array_of_cleared hi hclr⟩
        rw [h.unique hacs]
        exact hclr
      · refine .inr ⟨fun h => hclr (h _ _ _ _ hacs), ?_⟩
        exact Nat.lt_of_le_of_ne Slice.weight_delete_le
          fun heq => hclr ((Slice.weight_delete_eq_iff hi).mp heq)
  | downloadDatasets c =>
    show (KeepsCaller env t (.downloadDatasets c) ∧
        (t.service.downloadDatasetsIfRemote env t.files c).service.computation.datasets.array = _) ∨
      (_ ∧ weight (t.service.downloadDatasetsIfRemote env t.files c).service.computation.datasets.array
        < _)
    obtain ⟨hnone, h⟩ | ⟨-, h⟩ := downloadDatasetsIfRemote_cases env t.service t.files c
    · -- Without a remote dataset the action does nothing, and there is no last one to take.
      rw [h]
      refine .inl ⟨fun i d source hlast => ?_, rfl⟩
      have hd := List.findSome?_eq_none_iff.mp hnone d (List.mem_of_getElem? hlast.getElem?)
      simp [hlast.remote] at hd
    · obtain ⟨hkps, heq⟩ | ⟨⟨i, d, source, data, f', hlast, hok⟩, hlt⟩ :=
        array_downloadDatasets h (fun j d hj hd => by
          rw [List.getElem?_eq_none hj] at hd
          cases hd)
      · exact .inl ⟨hkps, by rw [heq]⟩
      · exact .inr ⟨fun hkps => hkps i d source hlast data f' hok, hlt⟩

theorem weight_step_le {op : Op} (hstep : t.step env op = some u) :
    weight u.service.computation.datasets.array ≤ weight t.service.computation.datasets.array := by
  obtain rfl := Option.some.inj hstep
  obtain ⟨-, h⟩ | ⟨-, h⟩ := array_outcome env t op
  · exact Nat.le_of_eq (congrArg weight h)
  · exact Nat.le_of_lt h

theorem array_run_eq_iff {ops : List Op} (hrun : run (Serial.step env) t ops = some u) :
    u.service.computation.datasets.array = t.service.computation.datasets.array ↔
      Guarded (Serial.step env) (KeepsCaller env) t ops := by
  induction ops generalizing t with
  | nil =>
    obtain rfl := Option.some.inj hrun
    simp [Guarded]
  | cons op ops ih =>
    obtain ⟨v, hstep, hrest⟩ := run_cons_eq_some_iff.mp hrun
    rw [guarded_cons_of_step_eq_some hstep, ← ih hrest]
    have hle : weight u.service.computation.datasets.array ≤
        weight v.service.computation.datasets.array :=
      @invariant_of_reaches _ _ _ _ _ (fun w => weight w.service.computation.datasets.array ≤
        weight v.service.computation.datasets.array)
        (fun hw hs => Nat.le_trans (weight_step_le hs) hw) (Nat.le_refl _) ⟨ops, hrest⟩
    obtain rfl := Option.some.inj hstep
    obtain ⟨hkps, heq⟩ | ⟨hnot, hlt⟩ := array_outcome env t op
    · rw [show _ = _ from heq]
      exact ⟨fun h => ⟨hkps, h⟩, fun h => h.2⟩
    · refine ⟨fun h => ?_, fun h => absurd h.1 hnot⟩
      rw [h] at hle
      exact absurd hlt (Nat.not_lt_of_le hle)

/-- The caller of `InitComputation` finds its datasets as they were if and only if no operation
took one off the list, but for zero values with nothing but zero values after them. -/
theorem caller_unchanged_iff (env : Env) (s : Service) (f : Files) (cmp : Computation)
    (ds : List Dataset) (hcmp : cmp.datasets = .ofList ds) (ops : List Op) (t : Serial)
    (hrun : run (Serial.step env) (.initComputation s f cmp) ops = some t) :
    t.service.computation.datasets.array = ds ↔
      Guarded (Serial.step env) (KeepsCaller env) (.initComputation s f cmp) ops := by
  rw [← array_run_eq_iff hrun]
  show _ ↔ _ = cmp.datasets.array
  rw [hcmp]
  exact Iff.rfl

/-- An upload that no dataset has the hash of. -/
def uploadUndeclared : Op := .data { dataset := { dataset := [3] }, oci := noImages }

theorem caller_unchanged_undeclared :
    ∃ t, run (Serial.step plainEnv) awaitingTwo [uploadUndeclared] = some t ∧
      t.service.computation.datasets.array = twoDatasets := by
  have hkps : KeepsCaller plainEnv awaitingTwo uploadUndeclared := by
    intro d i data filename h
    obtain ⟨rfl, rfl⟩ := h.offered.unique (.upload rfl)
    exact nomatch (show none = some (d, i) from h.first)
  exact ⟨_, rfl, (caller_unchanged_iff plainEnv {} { datasets := some fun _ => none }
    { datasets := .ofList twoDatasets } twoDatasets rfl [uploadUndeclared] _ rfl).mpr
    ⟨hkps, fun _ _ => trivial⟩⟩

/-- After the upload of the first dataset the caller holds the second and a zero value. -/
theorem caller_changed :
    (run (Serial.step plainEnv) awaitingTwo [uploadFirst]).map
        (·.service.computation.datasets.array) =
      some [{ hash := [2], filename := [0x62] }, default] := by
  decide +kernel

end SecureBinding.Agent
