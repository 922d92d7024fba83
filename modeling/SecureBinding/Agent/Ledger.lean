import SecureBinding.Agent.AlgorithmReceipt
import SecureBinding.Agent.DatasetFiles
import SecureBinding.Agent.Loops

/-!
# Agent.Ledger

What the agent has accepted for its manifest, and where it is.

From the manifest to `Running` the agent gathers an algorithm and datasets, and checks every
piece against the manifest as it comes. `Ledger` says what is known of the pieces, `ThreadOk` and
`EventOk` which calls, goroutines and events go with it. They are about the values that they
name and not about the whole agent, so that only the operations (`progress_perform`) and the
transitions (`Ledger.advance`) need a proof.
-/

namespace SecureBinding.Agent

open Go Lib
open Agent.System (place)

/-! ### Where the agent is -/

/-- No manifest has been accepted. -/
def AgentState.fresh : AgentState → Bool
  | .idle | .receivingManifest => true
  | _ => false

/-- The agent waits for its algorithm or its datasets. -/
def AgentState.gathering : AgentState → Bool
  | .receivingAlgorithm | .receivingData => true
  | _ => false

variable {env : Env} {currentState next : AgentState} {service service' : Service}
  {files files' : Files} {declared : Option (List Dataset)} {placed : List Placed}
  {received : Bool} {pending : List Dataset}

/-- What has been accepted, and where it is. -/
structure Ledger (env : Env) (currentState : AgentState) (service : Service) (files : Files)
    (declared : Option (List Dataset)) (placed : List Placed) : Prop where
  fresh : currentState.fresh = true → service.algoReceived = false
  manifest : currentState.fresh = false → declared ≠ none
  ready : currentState = .receivingData → service.algoReceived = true
  perm : ∀ ds, declared = some ds → (service.pending ++ placed.map (·.dataset)).Perm ds
  hash : ∀ x ∈ placed, env.sha3 x.data = x.dataset.hash
  late : placed ≠ [] → service.algoReceived = true
  algo : currentState.gathering = true → service.algoReceived = true →
    ∃ data, files.algo = some data ∧ env.sha3 data = service.computation.algorithm.hash
  kept : currentState.gathering = true → Kept files placed

/-- When a call or goroutine may be there. -/
def ThreadOk (currentState : AgentState) (declared : Option (List Dataset)) (received : Bool) :
    Thread → Prop
  | .finished | .initChecked _ => True
  | .initStored | .initHolding _ => declared ≠ none
  | .algo _ | .result _ _ | .downloadAlgorithm _ => currentState.fresh = false
  | .data _ | .downloadDatasets _ => currentState.fresh = false ∧ received = true
  | .run _ _ => currentState.fresh = false ∧ currentState.gathering = false

/-- When an event may have been sent. -/
def EventOk (currentState : AgentState) (declared : Option (List Dataset)) (received : Bool)
    (pending : List Dataset) : AgentEvent → Prop
  | .manifestReceived => declared ≠ none
  | .algorithmReceived => currentState.fresh = false ∧ received = true
  | .dataReceived => currentState.fresh = false ∧ received = true ∧ pending = []
  | _ => True

variable {event : AgentEvent} {thread : Thread} {op : Op}

theorem EventOk.mono {received' : Bool} {pending' : List Dataset}
    (h : EventOk currentState declared received pending event)
    (hrec : received = true → received' = true) (hpen : pending = [] → pending' = []) :
    EventOk currentState declared received' pending' event := by
  cases event with
  | algorithmReceived => exact ⟨h.1, hrec h.2⟩
  | dataReceived => exact ⟨h.1, hrec h.2.1, hpen h.2.2⟩
  | _ => exact h

theorem ThreadOk.mono {received' : Bool} (h : ThreadOk currentState declared received thread)
    (hrec : received = true → received' = true) :
    ThreadOk currentState declared received' thread := by
  cases thread with
  | data | downloadDatasets => exact ⟨h.1, hrec h.2⟩
  | _ => exact h

/-! ### The operations -/

/-- Nothing is changed that counts. -/
theorem Ledger.same (h : Ledger env currentState service files declared placed)
    (hcmp : service'.computation = service.computation)
    (hrec : service'.algoReceived = service.algoReceived) :
    Ledger env currentState service' files declared placed := by
  refine ⟨?_, h.manifest, ?_, ?_, h.hash, ?_, ?_, h.kept⟩
  · rw [hrec]
    exact h.fresh
  · rw [hrec]
    exact h.ready
  · rw [Service.pending, hcmp]
    exact h.perm
  · rw [hrec]
    exact h.late
  · rw [hrec, hcmp]
    exact h.algo

/-- What happens to the files does not count any more. -/
theorem Ledger.over (h : Ledger env currentState service files declared placed)
    (hgat : currentState.gathering = false) :
    Ledger env currentState service files' declared placed :=
  ⟨h.fresh, h.manifest, h.ready, h.perm, h.hash, h.late,
    fun hc => absurd (hgat.symm.trans hc) (by simp),
    fun hc => absurd (hgat.symm.trans hc) (by simp)⟩

/-- The algorithm may have come, where there was none. -/
theorem Ledger.algorithm (h : Ledger env currentState service files declared placed)
    (hlate : currentState.fresh = false) (hnone : service.algoReceived = false)
    (hcmp : service'.computation = service.computation)
    (halgo : service'.algoReceived = true →
      ∃ data, files'.algo = some data ∧ env.sha3 data = service.computation.algorithm.hash) :
    Ledger env currentState service' files' declared placed := by
  obtain rfl : placed = [] := by
    by_cases hnil : placed = []
    · exact hnil
    · have := h.late hnil
      simp [hnone] at this
  refine ⟨fun hfre => ?_, h.manifest, fun hdata => ?_, ?_, h.hash, fun hne => absurd rfl hne,
    fun _ => by rw [hcmp]; exact halgo, fun _ => kept_nil⟩
  · rw [hlate] at hfre
    cases hfre
  · have := h.ready hdata
    simp [hnone] at this
  · rw [Service.pending, hcmp]
    exact h.perm

theorem Ledger.datasets (h : Ledger env currentState service files declared placed)
    (hlate : currentState.fresh = false) (hrec : service'.algoReceived = true)
    (hold : service.algoReceived = true) {consumed : List (Dataset × Bytes)}
    (htakes : Takes env service.computation.datasets consumed service'.computation.datasets)
    (hman : { service'.computation with datasets := service.computation.datasets } =
      service.computation)
    (hfs : currentState.gathering = true →
      Kept files' (placed ++ consumed.map (place service op)) ∧ files'.algo = files.algo) :
    Ledger env currentState service' files' declared
      (placed ++ consumed.map (place service op)) := by
  have hplc : (consumed.map (place service op)).map (·.dataset) = consumed.map Prod.fst := by
    rw [List.map_map]
    cases op <;> rfl
  refine ⟨fun hfre => ?_, h.manifest, fun _ => hrec, fun ds hds => ?_, ?_, fun _ => hrec,
    fun hgat _ => ?_, fun hgat => (hfs hgat).1⟩
  · rw [hlate] at hfre
    cases hfre
  · rw [List.map_append, hplc]
    have hswap : (service'.pending ++ (placed.map (·.dataset) ++ consumed.map Prod.fst)).Perm
        (service'.pending ++ consumed.map Prod.fst ++ placed.map (·.dataset)) := by
      rw [List.append_assoc]
      exact List.perm_append_comm.append_left _
    exact hswap.trans ((htakes.perm.append_right _).trans (h.perm ds hds))
  · refine List.forall_mem_append.mpr ⟨h.hash, fun y hy => ?_⟩
    obtain ⟨x, hx, rfl⟩ := List.mem_map.mp hy
    have hhash := htakes.hash x hx
    cases op <;> exact hhash
  · have halg : service'.computation.algorithm = service.computation.algorithm := by
      rw [← hman]
    rw [(hfs hgat).2, halg]
    exact h.algo hgat hold

/-- What is asked of an operation while the agent gathers its algorithm and datasets: to overwrite
none of them. -/
def ProperOp (env : Env) (currentState : AgentState) (service : Service) (files : Files)
    (placed : List Placed) : Op → Prop
  | .data c => currentState.gathering = true → ∀ data filename, Offered service c data filename →
    Spares env files (paths placed) c.getwd c.decompress filename data
  | .downloadDatasets c => currentState.gathering = true →
    SparesAll env service.computation.remoteDataset c service.pending (paths placed)
  | .downloadAlgorithm _ => service.computation.remoteAlgorithm ≠ none →
    service.algoReceived = false
  | _ => True

structure Progress (env : Env) (currentState : AgentState) (service : Service)
    (declared : Option (List Dataset)) (placed : List Placed) (o : Outcome) : Prop where
  ledger : Ledger env currentState o.service o.files declared placed
  received : service.algoReceived = true → o.service.algoReceived = true
  event : ∀ event, o.event = some event →
    EventOk currentState declared o.service.algoReceived o.service.pending event

/-- All events but `DataReceived` may be sent once the algorithm is there. -/
theorem eventOk_of_received (hlate : currentState.fresh = false)
    (hdcl : declared ≠ none) (hrec : received = true)
    (hdata : event = .dataReceived → pending = []) :
    EventOk currentState declared received pending event := by
  cases event with
  | manifestReceived => exact hdcl
  | algorithmReceived => exact ⟨hlate, hrec⟩
  | dataReceived => exact ⟨hlate, hrec, hdata rfl⟩
  | _ => trivial

section Operations

variable (h : Ledger env currentState service files declared placed)
  (hlate : currentState.fresh = false)
include h hlate

variable {o : Outcome}

theorem progress_algo {c : AlgoCall} (ho : AlgoResult env service files c o) :
    Progress env currentState service declared placed o := by
  cases ho with
  | already hrec => exact ⟨h.same rfl rfl, id, nofun⟩
  | rejected hnone =>
    refine ⟨h.algorithm hlate hnone rfl fun hrec => ?_, id, nofun⟩
    exact absurd (hnone.symm.trans hrec) (by simp)
  | stuck hnone hhash =>
    exact ⟨h.algorithm hlate hnone rfl fun _ => ⟨_, rfl, hhash⟩, fun _ => rfl, nofun⟩
  | installed hnone hhash =>
    refine ⟨h.algorithm hlate hnone rfl fun _ => ⟨_, rfl, hhash⟩, fun _ => rfl, fun event heq => ?_⟩
    cases heq
    exact ⟨hlate, rfl⟩

theorem progress_downloadAlgorithm (ho : DownloadAlgoResult env service files o)
    (hpro : service.computation.remoteAlgorithm ≠ none → service.algoReceived = false) :
    Progress env currentState service declared placed o := by
  cases ho with
  | uploaded => exact ⟨h, id, nofun⟩
  | failed hrem =>
    have hnone := hpro hrem
    refine ⟨h.algorithm hlate hnone rfl fun hrec => ?_, id, fun event heq => ?_⟩
    · exact absurd (hnone.symm.trans hrec) (by simp)
    · cases heq
      trivial
  | stuck hrem hhash halgo =>
    refine ⟨h.algorithm hlate (hpro hrem) rfl fun _ => ⟨_, halgo, hhash⟩, fun _ => rfl,
      fun event heq => ?_⟩
    cases heq
    trivial
  | installed hrem hhash halgo =>
    refine ⟨h.algorithm hlate (hpro hrem) rfl fun _ => ⟨_, halgo, hhash⟩, fun _ => rfl,
      fun event heq => ?_⟩
    cases heq
    exact ⟨hlate, rfl⟩

/-- The operations on datasets, which come after the algorithm. -/
theorem progress_datasets (hrec : service.algoReceived = true)
    (hspec : DatasetSpec env service o) (hsame : o.service.algoReceived = service.algoReceived)
    (hfs : currentState.gathering = true →
      Kept o.files (placed ++ o.consumed.map (place service op)) ∧ o.files.algo = files.algo) :
    Progress env currentState service declared (placed ++ o.consumed.map (place service op)) o where
  ledger := h.datasets hlate (hsame.trans hrec) hrec hspec.takes hspec.manifest hfs
  received _ := hsame.trans hrec
  event event heq := by
    refine eventOk_of_received hlate (h.manifest hlate) (hsame.trans hrec) fun hdata => ?_
    exact (hspec.dataReceived (by rw [heq, hdata])).2

end Operations

theorem event_resultBody {st : AgentState} {index : Option Int}
    (h : (service.resultBody st index).2.1 = some event) : event = .resultsConsumed := by
  unfold Service.resultBody at h
  split at h
  · cases h
  split at h
  · cases h
  split at h <;> cases h
  rfl

theorem consumed_algo {c : AlgoCall} {o : Outcome} (h : AlgoResult env service files c o) :
    o.consumed = [] := by
  cases h <;> rfl

theorem consumed_downloadAlgorithm {o : Outcome} (h : DownloadAlgoResult env service files o) :
    o.consumed = [] := by
  cases h <;> rfl

theorem progress_perform (h : Ledger env currentState service files declared placed) {world : World}
    (hop : thread.op world = some op)
    (hth : ThreadOk currentState declared service.algoReceived thread)
    (hpro : ProperOp env currentState service files placed op) :
    Progress env currentState service declared
      (placed ++ (op.outcome env service files).consumed.map (place service op))
      (op.outcome env service files) := by
  cases thread with
  | algo c =>
    cases hop
    have ho : AlgoResult env service files c (Op.outcome env service files (.algo c)) :=
      algo_result ..
    rw [consumed_algo ho]
    simpa using progress_algo h hth ho
  | downloadAlgorithm owner =>
    cases hop
    have ho : DownloadAlgoResult env service files
        (Op.outcome env service files (.downloadAlgorithm world.algo)) :=
      downloadAlgorithmIfRemote_result ..
    rw [consumed_downloadAlgorithm ho]
    simpa using progress_downloadAlgorithm h hth ho hpro
  | data c =>
    cases hop
    obtain ⟨hlate, hrec⟩ := hth
    have hoth : (Op.data c).Other := trivial
    exact progress_datasets h hlate hrec (datasetSpec_outcome _)
      (sameAlgorithm_outcome hoth).received
      fun hgat => kept_data (data_result ..) (h.kept hgat) (hpro hgat)
  | downloadDatasets owner =>
    cases hop
    obtain ⟨hlate, hrec⟩ := hth
    have hoth : (Op.downloadDatasets world.data).Other := trivial
    refine progress_datasets h hlate hrec (datasetSpec_outcome _)
      (sameAlgorithm_outcome hoth).received fun hgat => ?_
    -- The loop over the datasets runs only if one of them is remote.
    obtain ⟨-, heq⟩ | ⟨-, hloop⟩ := downloadDatasetsIfRemote_cases env service files world.data
    · simp only [Op.outcome, heq, List.map_nil, List.append_nil, and_true]
      exact h.kept hgat
    · refine kept_downloadDatasets hloop (h.kept hgat) ?_
      rw [List.take_length]
      exact hpro hgat
  -- `Result` changes neither the manifest nor the files.
  | result st index =>
    cases hop
    have hoth : (Op.result st index).Other := trivial
    have hrec : ((Op.result st index).outcome env service files).service.algoReceived =
        service.algoReceived := (sameAlgorithm_outcome hoth).received
    have hconsumed : ((Op.result st index).outcome env service files).consumed = [] := rfl
    rw [hconsumed, List.map_nil, List.append_nil]
    refine ⟨h.same (service_resultBody st index).1 hrec, hrec.trans, fun event heq => ?_⟩
    rw [event_resultBody heq]
    trivial
  | finished | initChecked | initStored | initHolding | run => cases hop

/-! ### Transitions -/

/-- What a transition for an event that may have been sent leads to. -/
structure Advance (currentState next : AgentState) (declared : Option (List Dataset))
    (received : Bool) : Prop where
  fresh : next.fresh = true → currentState.fresh = true
  late : currentState.fresh = false → next.fresh = false
  declared : next.fresh = false → declared ≠ none
  ready : next = .receivingData → received = true
  gathering : next.gathering = true → currentState.gathering = true ∨ currentState.fresh = true

theorem advance_of_table {sm : AgentMachine} {algorithmReceived dataReceived : Option AgentState}
    (htab : Tabled sm algorithmReceived dataReceived)
    (hnext : sm.transitions currentState (some event) = some next)
    (hok : EventOk currentState declared received pending event)
    (hdcl : currentState.fresh = false → declared ≠ none) :
    Advance currentState next declared received := by
  rw [htab.eq] at hnext
  cases currentState <;> cases event <;> try cases hnext
  case idle.start => exact ⟨fun _ => rfl, nofun, nofun, nofun, nofun⟩
  case receivingManifest.manifestReceived =>
    exact ⟨nofun, nofun, fun _ => hok, nofun, fun _ => .inr rfl⟩
  case receivingAlgorithm.algorithmReceived =>
    obtain rfl | rfl := htab.algorithm next rfl
    · exact ⟨nofun, fun _ => rfl, fun _ => hdcl rfl, fun _ => hok.2, fun _ => .inl rfl⟩
    · exact ⟨nofun, fun _ => rfl, fun _ => hdcl rfl, nofun, nofun⟩
  case receivingData.dataReceived =>
    obtain rfl := htab.data next rfl
    exact ⟨nofun, fun _ => rfl, fun _ => hdcl rfl, nofun, nofun⟩
  all_goals exact ⟨nofun, fun _ => rfl, fun _ => hdcl rfl, nofun, nofun⟩

theorem Ledger.advance (h : Ledger env currentState service files declared placed)
    (hadv : Advance currentState next declared service.algoReceived) :
    Ledger env next service files declared placed where
  fresh hfre := h.fresh (hadv.fresh hfre)
  manifest := hadv.declared
  ready := hadv.ready
  perm := h.perm
  hash := h.hash
  late := h.late
  algo hgat hrec := by
    obtain hold | hold := hadv.gathering hgat
    · exact h.algo hold hrec
    · exact absurd ((h.fresh hold).symm.trans hrec) (by simp)
  kept hgat := by
    obtain hold | hold := hadv.gathering hgat
    · exact h.kept hold
    · -- Nothing is placed before the algorithm has come.
      by_cases hnil : placed = []
      · rw [hnil]
        exact kept_nil
      · exact absurd ((h.fresh hold).symm.trans (h.late hnil)) (by simp)

theorem ThreadOk.advance (h : ThreadOk currentState declared received thread)
    (hadv : Advance currentState next declared received) :
    ThreadOk next declared received thread := by
  cases thread with
  | algo | result | downloadAlgorithm => exact hadv.late h
  | data | downloadDatasets => exact ⟨hadv.late h.1, h.2⟩
  | run =>
    refine ⟨hadv.late h.1, Bool.eq_false_iff.mpr fun hgat => ?_⟩
    obtain hold | hold := hadv.gathering hgat
    · exact absurd (h.2.symm.trans hold) (by simp)
    · exact absurd (h.1.symm.trans hold) (by simp)
  | _ => exact h

theorem threadOk_action {owner : Nat}
    (hadv : Advance currentState next declared received) (hmem : thread ∈ action owner next) :
    ThreadOk next declared received thread := by
  cases next with
  | receivingAlgorithm =>
    obtain rfl := List.mem_singleton.mp hmem
    rfl
  | receivingData =>
    obtain rfl := List.mem_singleton.mp hmem
    exact ⟨rfl, hadv.ready rfl⟩
  | running =>
    obtain rfl := List.mem_singleton.mp hmem
    exact ⟨rfl, rfl⟩
  | _ => cases hmem

end SecureBinding.Agent
