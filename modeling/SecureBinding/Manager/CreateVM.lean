import SecureBinding.Lib.Cut
import SecureBinding.Lib.Except
import SecureBinding.Manager.Request
import SecureBinding.Qemu.Config

/-!
# Manager.CreateVM

The model of `CreateVM` (`manager/service.go`) as one call: what it returns, and what is left of
it when it has returned. The steps that it takes may fail in any way (`Host`).

Only `tmpEnvironment` takes back what it has done when it fails. The certificates of a call
that fails later stay where they are, and a TTL that cannot be parsed is noticed only when the
VM is registered and running. So a failed call leaves nothing behind only if it fails before it
has created anything, or at the second check of the limit with a `Stop` that goes well
(`all_or_nothing_iff`).
-/

namespace SecureBinding.Manager

open Go Lib Qemu

/-! ### The system -/

/-- How `Stop` finds the end of the process: `Wait` returns, or it does not in time and the
process is killed. The flag says if the process has ended although that failed. -/
inductive Wait
  | exited
  | failed (err : GoString) (ended : Bool)
  | killed
  | notKilled (err : GoString) (ended : Bool)

/-- The answers to the steps of `Stop`, and if the process has ended when they are not all
taken. -/
structure StopAnswers where
  signal : Option GoString := none
  removeCerts : Option GoString := none
  removeEnv : Option GoString := none
  wait : Wait := .exited
  ended : Bool := true

/-- The answers to the steps of `CreateVM`. The end of the name of a temporary directory is
random. -/
structure Answers where
  /-- The number of registered VMs at the first check of the limit and at the second. -/
  vms : Nat := 0
  vmsLater : Nat := 0
  mkdirCerts : Except GoString GoString
  writeCert : Option GoString := none
  writeKey : Option GoString := none
  writeCA : Option GoString := none
  mkdirEnv : Except GoString GoString
  validateOrder : MapOrder := .listed
  openEnv : Option GoString := none
  writeOrder : MapOrder := .listed
  writeEnv : GoString → Option GoString := fun _ => none
  closeEnv : Option GoString := none
  removeEnv : Option GoString := none
  getFreePort : Except GoString Int64 := .ok 0
  start : Option GoString := none
  stop : StopAnswers := {}
  getProcess : Int64 := 0
  saveVM : Option GoString := none
  /-- A temporary directory is a new one. -/
  distinct : ∀ suffix, mkdirCerts = .ok suffix → mkdirEnv ≠ .ok suffix

/-! ### Mounts -/

/-- A step that may fail with an error of the system. -/
def attempt : Option GoString → Except CreateError Unit
  | none => .ok ()
  | some err => .error (.other err)

/-- `os.MkdirTemp("/tmp", id)`. -/
def mkdirTemp (id : GoString) : Except GoString GoString → Except CreateError GoString
  | .ok suffix => .ok (lit "/tmp/" ++ id ++ suffix)
  | .error err => .error (.other err)

/-- `tempCertMount`: what it returns, and the directories that it leaves. -/
def tempCertMount (answers : Answers) (id : GoString) : Except CreateError GoString × List GoString :=
  match mkdirTemp id answers.mkdirCerts with
  | .error err => (.error err, [])
  | .ok dir =>
    let written := do
      attempt answers.writeCert
      attempt answers.writeKey
      attempt answers.writeCA
    (written.map fun _ => dir, [dir])

/-- The loop of `tmpEnvironment` that writes the entries: what it has written. -/
def writeEntries (answers : Answers) : List (GoString × GoString) → Except CreateError Bytes
  | [] => .ok []
  | (k, v) :: entries => do
    attempt (answers.writeEnv k)
    let rest ← writeEntries answers entries
    return k ++ lit "=" ++ v ++ lit "\n" ++ rest

/-- `tmpEnvironment` once it has its directory: the contents of its file. -/
def writeEnvironment (answers : Answers) (id : GoString) (req : CreateReq) :
    Except CreateError Bytes := do
  (answers.validateOrder.order (environment id req)).forM fun e => validateEnvironmentValue e.1 e.2
  attempt answers.openEnv
  let file ← writeEntries answers (answers.writeOrder.order (environment id req))
  attempt answers.closeEnv
  return file

/-- `tmpEnvironment`: what it returns, with the file it has written there, and the directories
that it leaves. An error of `os.RemoveAll` is ignored. -/
def tmpEnvironment (answers : Answers) (id : GoString) (req : CreateReq) :
    Except CreateError (GoString × Bytes) × List GoString :=
  match mkdirTemp id answers.mkdirEnv with
  | .error err => (.error err, [])
  | .ok dir =>
    match writeEnvironment answers id req with
    | .error err => (.error err, if answers.removeEnv.isNone then [] else [dir])
    | .ok file => (.ok (dir, file), [dir])

/-! ### Stop -/

def Wait.result : Wait → Option GoString
  | exited | killed => none
  | failed err _ => some err
  | notKilled err _ => some (lit "failed to kill process: " ++ err)

def Wait.ended : Wait → Bool
  | exited | killed => true
  | failed _ ended | notKilled _ ended => ended

/-- What is left after `Stop`: its error, if the process still runs, and the directories. -/
structure Stopped where
  err : Option GoString
  running : Bool
  dirs : List GoString

/-- `Stop` of a VM. A mount without a name is not removed. -/
def stop (answers : StopAnswers) (info : Qemu.VMInfo) (dirs : List GoString) : Stopped :=
  match answers.signal with
  | some err => ⟨some (lit "failed to send SIGTERM: " ++ err), !answers.ended, dirs⟩
  | none =>
    match if info.config.certsMount = [] then none else answers.removeCerts with
    | some err => ⟨some (lit "failed to remove certs mount: " ++ err), !answers.ended, dirs⟩
    | none =>
      let dirs := dirs.filter fun dir => dir ≠ info.config.certsMount
      match if info.config.envMount = [] then none else answers.removeEnv with
      | some err => ⟨some (lit "failed to remove env mount: " ++ err), !answers.ended, dirs⟩
      | none =>
        let dirs := dirs.filter fun dir => dir ≠ info.config.envMount
        ⟨answers.wait.result, !answers.wait.ended, dirs⟩

/-! ### CreateVM -/

/-- What is left of a call: its temporary directories, a process, an entry in the map of VMs,
a timer and a persisted record. -/
structure Left where
  dirs : List GoString := []
  running : Bool := false
  registered : Bool := false
  ttl : Option Duration := none
  record : Option VMState := none

/-- The results of `CreateVM`, and what is left. -/
structure Outcome where
  port : GoString
  id : GoString
  err : Option CreateError
  left : Left

def Outcome.failed (id : GoString) (left : Left) (err : CreateError) : Outcome :=
  ⟨[], id, some err, left⟩

/-- The configuration of the service that `CreateVM` reads, and `time.ParseDuration`. -/
structure Setup where
  qemuCfg : Qemu.Config
  maxVMs : Int
  parseDuration : GoString → Except GoString Duration

/-- The configuration of the VM before its mounts and its port. -/
def baseConfig (setup : Setup) (req : CreateReq) : Qemu.Config :=
  if req.aaKbsParams = [] then setup.qemuCfg
  else
    { setup.qemuCfg with
      kernelCommandLine :=
        setup.qemuCfg.kernelCommandLine ++ lit " agent.aa_kbc_params=" ++ req.aaKbsParams }

/-- What the VM is started with. -/
def startInfo (setup : Setup) (req : CreateReq) (certs env : GoString) (port : Int64) :
    Qemu.VMInfo :=
  let base := baseConfig setup req
  { config :=
      { base with
        certsMount := certs
        envMount := env
        netDev := { base.netDev with hostFwdAgent := port } }
    launchTCB := 0 }

/-- `CreateVM` from the second check of the limit on, with a VM that is started. -/
def register (setup : Setup) (answers : Answers) (id : GoString) (req : CreateReq) (info : Qemu.VMInfo)
    (dirs : List GoString) : Outcome :=
  if limitReached setup.maxVMs answers.vmsLater then
    let stopped := stop answers.stop info dirs
    .failed id { dirs := stopped.dirs, running := stopped.running } .maxVMsExceeded
  else
    match parseTTL setup.parseDuration req with
    | .error err => .failed id { dirs, running := true, registered := true } err
    | .ok ttl =>
      let state := { id, vmInfo := info, pid := answers.getProcess : VMState }
      { port := formatInt info.config.netDev.hostFwdAgent.toInt
        id
        err := none
        left :=
          { dirs
            running := true
            registered := true
            ttl
            record := if answers.saveVM.isNone then some state else none } }

/-- `CreateVM` from the allocation of a port on, with both mounts in place. -/
def launch (setup : Setup) (answers : Answers) (id : GoString) (req : CreateReq) (certs env : GoString)
    (dirs : List GoString) : Outcome :=
  match answers.getFreePort with
  | .error err => .failed id { dirs } (.allocatePort err)
  | .ok port =>
    match answers.start with
    | some err => .failed id { dirs } (.other err)
    | none => register setup answers id req (startInfo setup req certs env port) dirs

/-- `CreateVM`, with `id` for the identifier that it generates. -/
def createVM (setup : Setup) (answers : Answers) (id : GoString) (req : CreateReq) : Outcome :=
  match screen setup.maxVMs answers.vms req with
  | .error err => .failed id {} err
  | .ok _ =>
    match tempCertMount answers id with
    | (.error err, dirs) => .failed id { dirs } err
    | (.ok certs, dirs) =>
      match tmpEnvironment answers id req with
      | (.error err, dirs') => .failed id { dirs := dirs ++ dirs' } err
      | (.ok (env, _), dirs') => launch setup answers id req certs env (dirs ++ dirs')

/-! ### What is left -/

/-- A call that fails leaves nothing. -/
def AllOrNothing (o : Outcome) : Prop :=
  o.err ≠ none →
    o.left.running = false ∧ o.left.registered = false ∧ o.left.record = none ∧ o.left.dirs = []

/-- Both mounts are made. -/
structure Mounted (answers : Answers) (id : GoString) (req : CreateReq) : Prop where
  mkdirCerts : ∃ suffix, answers.mkdirCerts = .ok suffix
  certs : answers.writeCert = none ∧ answers.writeKey = none ∧ answers.writeCA = none
  mkdirEnv : ∃ suffix, answers.mkdirEnv = .ok suffix
  values : ∀ e ∈ environment id req, validateEnvironmentValue e.1 e.2 = .ok ()
  openEnv : answers.openEnv = none
  written : ∀ e ∈ environment id req, answers.writeEnv e.1 = none
  closeEnv : answers.closeEnv = none

/-- `Stop` ends the process and removes both mounts. -/
structure StopsCleanly (answers : StopAnswers) : Prop where
  signal : answers.signal = none
  removeCerts : answers.removeCerts = none
  removeEnv : answers.removeEnv = none
  ended : answers.wait.ended = true

/-- The call can only fail where nothing is left of it: it is refused before it has created
anything, or all goes well until the second check of the limit; there, if the limit is reached,
the VM is stopped without a trace, and otherwise the TTL is good. -/
def FailsCleanly (setup : Setup) (answers : Answers) (id : GoString) (req : CreateReq) : Prop :=
  (∃ err, screen setup.maxVMs answers.vms req = .error err) ∨
  (∃ err, answers.mkdirCerts = .error err) ∨
  (Mounted answers id req ∧ (∃ port, answers.getFreePort = .ok port) ∧ answers.start = none ∧
    if limitReached setup.maxVMs answers.vmsLater then StopsCleanly answers.stop
    else ∃ ttl, parseTTL setup.parseDuration req = .ok ttl)

theorem attempt_ok_iff {err : Option GoString} {u : Unit} : attempt err = .ok u ↔ err = none := by
  cases err <;> simp [attempt]

theorem forM_order_ok_iff {order : MapOrder} {l : List (GoString × GoString)}
    {f : GoString × GoString → Except CreateError Unit} {u : Unit} :
    (order.order l).forM f = .ok u ↔ ∀ e ∈ l, f e = .ok () := by
  rw [forM_ok_iff]
  simp only [(order.perm l).mem_iff]

theorem writeEntries_ok_iff {answers : Answers} {l : List (GoString × GoString)} {file : Bytes} :
    writeEntries answers l = .ok file ↔ (∀ e ∈ l, answers.writeEnv e.1 = none) ∧
      file = l.flatMap fun e => e.1 ++ 0x3d :: (e.2 ++ [0x0a]) := by
  induction l generalizing file with
  | nil => simp [writeEntries, eq_comm]
  | cons e l ih =>
    have hline : ∀ rest, e.1 ++ lit "=" ++ e.2 ++ lit "\n" ++ rest =
        e.1 ++ 0x3d :: (e.2 ++ [0x0a]) ++ rest := by
      simp [lit]
    simp only [writeEntries, bind_ok_iff, attempt_ok_iff, ih, hline, List.forall_mem_cons,
      List.flatMap_cons]
    constructor
    · rintro ⟨_, hfirst, _, ⟨hrest, rfl⟩, hfile⟩
      exact ⟨⟨hfirst, hrest⟩, (Except.ok.inj hfile).symm⟩
    · rintro ⟨⟨hfirst, hrest⟩, rfl⟩
      exact ⟨(), hfirst, _, ⟨hrest, rfl⟩, rfl⟩

theorem writeEnvironment_ok_iff {answers : Answers} {id : GoString} {req : CreateReq} {file : Bytes} :
    writeEnvironment answers id req = .ok file ↔
      (∀ e ∈ environment id req, validateEnvironmentValue e.1 e.2 = .ok ()) ∧
        answers.openEnv = none ∧ (∀ e ∈ environment id req, answers.writeEnv e.1 = none) ∧
        answers.closeEnv = none ∧ file = (answers.writeOrder.order (environment id req)).flatMap
          fun e => e.1 ++ 0x3d :: (e.2 ++ [0x0a]) := by
  simp only [writeEnvironment, bind_ok_iff, forM_order_ok_iff, attempt_ok_iff,
    writeEntries_ok_iff, (answers.writeOrder.perm _).mem_iff]
  constructor
  · rintro ⟨_, hvls, _, hopen, _, ⟨hwr, rfl⟩, _, hcls, hfile⟩
    exact ⟨hvls, hopen, hwr, hcls, (Except.ok.inj hfile).symm⟩
  · rintro ⟨hvls, hopen, hwr, hcls, rfl⟩
    exact ⟨(), hvls, (), hopen, _, ⟨hwr, rfl⟩, (), hcls, rfl⟩

/-- The certificates are written or not, but their directory stays. -/
theorem tempCertMount_of_ok {answers : Answers} {suffix : GoString} (id : GoString)
    (h : answers.mkdirCerts = .ok suffix) :
    (tempCertMount answers id).2 = [lit "/tmp/" ++ id ++ suffix] ∧
      ∀ dir, (tempCertMount answers id).1 = .ok dir ↔
        (answers.writeCert = none ∧ answers.writeKey = none ∧ answers.writeCA = none) ∧
          dir = lit "/tmp/" ++ id ++ suffix := by
  rw [tempCertMount, h]
  refine ⟨rfl, fun dir => ?_⟩
  simp only [mkdirTemp, map_ok_iff, bind_ok_iff, attempt_ok_iff]
  constructor
  · intro hwtn
    obtain ⟨_, ⟨_, hcert, _, hkey, hca⟩, rfl⟩ := hwtn
    exact ⟨⟨hcert, hkey, hca⟩, rfl⟩
  · intro hwtn
    obtain ⟨⟨hcert, hkey, hca⟩, rfl⟩ := hwtn
    exact ⟨(), ⟨(), hcert, (), hkey, hca⟩, rfl⟩

/-- The environment is there if all of it was written. -/
theorem tmpEnvironment_ok_iff {answers : Answers} {id dir : GoString} {req : CreateReq}
    {file : Bytes} {dirs : List GoString} :
    tmpEnvironment answers id req = (.ok (dir, file), dirs) ↔
      ∃ suffix, answers.mkdirEnv = .ok suffix ∧ writeEnvironment answers id req = .ok file ∧
        dir = lit "/tmp/" ++ id ++ suffix ∧ dirs = [dir] := by
  unfold tmpEnvironment
  cases answers.mkdirEnv with
  | error err => simp [mkdirTemp]
  | ok suffix =>
    cases writeEnvironment answers id req with
    | error err => simp [mkdirTemp]
    | ok file' =>
      simp only [mkdirTemp, Prod.mk.injEq, Except.ok.injEq]
      constructor
      · rintro ⟨⟨rfl, rfl⟩, rfl⟩
        exact ⟨suffix, rfl, rfl, rfl, rfl⟩
      · rintro ⟨_, rfl, rfl, rfl, rfl⟩
        exact ⟨⟨rfl, rfl⟩, rfl⟩

theorem allOrNothing_failed {id : GoString} {left : Left} {err : CreateError} :
    AllOrNothing (.failed id left err) ↔ left.running = false ∧ left.registered = false ∧
      left.record = none ∧ left.dirs = [] := by
  simp [AllOrNothing, Outcome.failed]

theorem not_allOrNothing_of_mem {id dir : GoString} {left : Left} {err : CreateError}
    (h : dir ∈ left.dirs) : ¬AllOrNothing (.failed id left err) := by
  rw [allOrNothing_failed]
  intro hleft
  rw [hleft.2.2.2] at h
  cases h

section Launched

variable {setup : Setup} {answers : Answers} {id certs env : GoString} {req : CreateReq}

theorem stop_leaves_nothing_iff {stopping : StopAnswers} {info : Qemu.VMInfo}
    (hcts : info.config.certsMount = certs) (henv : info.config.envMount = env)
    (hcne : certs ≠ []) (henv_ne : env ≠ []) (hne : env ≠ certs) :
    ((stop stopping info [certs, env]).running = false ∧
      (stop stopping info [certs, env]).dirs = []) ↔ StopsCleanly stopping := by
  have hiff : StopsCleanly stopping ↔ stopping.signal = none ∧ stopping.removeCerts = none ∧
      stopping.removeEnv = none ∧ stopping.wait.ended = true :=
    ⟨fun h => ⟨h.signal, h.removeCerts, h.removeEnv, h.ended⟩,
      fun h => ⟨h.1, h.2.1, h.2.2.1, h.2.2.2⟩⟩
  rw [hiff]
  -- The first step that fails keeps the directories that are not yet removed.
  cases hsignal : stopping.signal with
  | some err => simp [stop, hsignal]
  | none =>
    cases hrm : stopping.removeCerts with
    | some err => simp [stop, hsignal, hrm, hcts, hcne]
    | none =>
      cases hrm' : stopping.removeEnv with
      | some err => simp [stop, hsignal, hrm, hrm', hcts, henv, henv_ne, hne]
      | none => simp [stop, hsignal, hrm, hrm', hcts, henv]

theorem register_allOrNothing_iff {info : Qemu.VMInfo} (hcts : info.config.certsMount = certs)
    (henv : info.config.envMount = env) (hcne : certs ≠ []) (henv_ne : env ≠ [])
    (hne : env ≠ certs) :
    AllOrNothing (register setup answers id req info [certs, env]) ↔
      if limitReached setup.maxVMs answers.vmsLater then StopsCleanly answers.stop
      else ∃ ttl, parseTTL setup.parseDuration req = .ok ttl := by
  unfold register
  split
  · rw [allOrNothing_failed, ← stop_leaves_nothing_iff hcts henv hcne henv_ne hne]
    simp
  · cases parseTTL setup.parseDuration req with
    | error err => simp [allOrNothing_failed]
    | ok ttl => simp [AllOrNothing]

theorem launch_allOrNothing_iff (hcne : certs ≠ []) (henv_ne : env ≠ []) (hne : env ≠ certs) :
    AllOrNothing (launch setup answers id req certs env [certs, env]) ↔
      (∃ port, answers.getFreePort = .ok port) ∧ answers.start = none ∧
        if limitReached setup.maxVMs answers.vmsLater then StopsCleanly answers.stop
        else ∃ ttl, parseTTL setup.parseDuration req = .ok ttl := by
  unfold launch
  cases hport : answers.getFreePort with
  | error err => simp [allOrNothing_failed]
  | ok port =>
    cases hstart : answers.start with
    | some err => simp [allOrNothing_failed]
    | none =>
      have hregister := @register_allOrNothing_iff setup answers id certs env req
        (startInfo setup req certs env port) rfl rfl hcne henv_ne hne
      simp [hregister]

end Launched

theorem mounted_iff {answers : Answers} {id : GoString} {req : CreateReq} :
    Mounted answers id req ↔ ∃ certs env file, tempCertMount answers id = (.ok certs, [certs]) ∧
      tmpEnvironment answers id req = (.ok (env, file), [env]) := by
  constructor
  · intro h
    obtain ⟨suffix, hsuffix⟩ := h.mkdirCerts
    obtain ⟨suffix', hsuffix'⟩ := h.mkdirEnv
    obtain ⟨hdirs, hok⟩ := tempCertMount_of_ok id hsuffix
    have hwtn := writeEnvironment_ok_iff.mpr ⟨h.values, h.openEnv, h.written, h.closeEnv, rfl⟩
    exact ⟨_, lit "/tmp/" ++ id ++ suffix', _, Prod.ext ((hok _).mpr ⟨h.certs, rfl⟩) hdirs,
      tmpEnvironment_ok_iff.mpr ⟨suffix', hsuffix', hwtn, rfl, rfl⟩⟩
  · intro h
    obtain ⟨certs, env, file, hcts, henv⟩ := h
    obtain ⟨suffix', hsuffix', hwtn, -⟩ := tmpEnvironment_ok_iff.mp henv
    obtain ⟨hvls, hopen, hwr, hcls, -⟩ := writeEnvironment_ok_iff.mp hwtn
    cases hmk : answers.mkdirCerts with
    | error err => simp [tempCertMount, hmk, mkdirTemp] at hcts
    | ok suffix =>
      obtain ⟨-, hok⟩ := tempCertMount_of_ok id hmk
      have hall := ((hok certs).mp (by rw [hcts])).1
      exact ⟨⟨suffix, hmk⟩, hall, ⟨suffix', hsuffix'⟩, hvls, hopen, hwr, hcls⟩

/-- The two mounts are different directories. -/
theorem mounts_ne {answers : Answers} {id certs env : GoString} {req : CreateReq} {file : Bytes}
    (hcts : tempCertMount answers id = (.ok certs, [certs]))
    (henv : tmpEnvironment answers id req = (.ok (env, file), [env])) :
    certs ≠ [] ∧ env ≠ [] ∧ env ≠ certs := by
  obtain ⟨suffix', hsuffix', -, rfl, -⟩ := tmpEnvironment_ok_iff.mp henv
  cases hmk : answers.mkdirCerts with
  | error err => simp [tempCertMount, hmk, mkdirTemp] at hcts
  | ok suffix =>
    obtain ⟨hdirs, -⟩ := tempCertMount_of_ok id hmk
    rw [hcts] at hdirs
    obtain rfl : certs = lit "/tmp/" ++ id ++ suffix := by simpa using hdirs
    have htmp : lit "/tmp/" ≠ [] := by decide
    refine ⟨by simp [htmp], by simp [htmp], fun heq => ?_⟩
    obtain rfl := List.append_cancel_left heq
    exact answers.distinct _ hmk hsuffix'

/-- A call leaves nothing behind when it fails, exactly if it can only fail cleanly. -/
theorem all_or_nothing_iff {setup : Setup} {answers : Answers} {id : GoString} {req : CreateReq} :
    AllOrNothing (createVM setup answers id req) ↔ FailsCleanly setup answers id req := by
  unfold createVM FailsCleanly
  cases hscreen : screen setup.maxVMs answers.vms req with
  | error err => simp [allOrNothing_failed]
  | ok u =>
    cases hmk : answers.mkdirCerts with
    | error err => simp [tempCertMount, hmk, mkdirTemp, allOrNothing_failed]
    | ok suffix =>
      -- From here on there is a directory that only a clean `Stop` removes.
      obtain ⟨hdirs, hok⟩ := tempCertMount_of_ok id hmk
      rw [mounted_iff]
      rcases hcts : tempCertMount answers id with ⟨err | certs, dirs⟩
      · have hleft : dirs = [lit "/tmp/" ++ id ++ suffix] := by rw [← hdirs, hcts]
        have hnot := @not_allOrNothing_of_mem id (lit "/tmp/" ++ id ++ suffix) { dirs } err
          (by simp [hleft])
        simp [hnot]
      · have hleft : dirs = [certs] := by
          rw [((hok certs).mp (by rw [hcts])).2, ← hdirs, hcts]
        subst hleft
        rcases henv : tmpEnvironment answers id req with ⟨err | ⟨env, file⟩, dirs⟩
        · have hnot := @not_allOrNothing_of_mem id certs { dirs := certs :: dirs } err (by simp)
          simp [hnot]
        · obtain ⟨-, -, -, -, rfl⟩ := tmpEnvironment_ok_iff.mp henv
          obtain ⟨hcne, henv_ne, hne⟩ := mounts_ne hcts henv
          have hlaunch := @launch_allOrNothing_iff setup answers id certs env req hcne henv_ne hne
          simp [hlaunch]

/-- A system where all goes well. -/
def sampleAnswers : Answers where
  mkdirCerts := .ok (lit "1")
  mkdirEnv := .ok (lit "2")
  distinct := by
    intro suffix h h'
    have heq : lit "1" = lit "2" := (Except.ok.inj h).trans (Except.ok.inj h').symm
    exact absurd heq (by decide)

/-- A service without a limit; the only good TTL is an hour. -/
def sampleSetup : Setup where
  qemuCfg := {}
  maxVMs := 0
  parseDuration s := if s = lit "1h" then .ok 3600000000000 else .error (lit "invalid duration")

/-- A TTL that cannot be parsed leaves a VM that is registered and runs. -/
theorem bad_ttl_leaves_vm :
    ¬AllOrNothing (createVM sampleSetup sampleAnswers (lit "a1") { ttl := lit "soon" }) := by
  intro h
  exact absurd (h (by decide +kernel)).2.1 (by decide +kernel)

/-! ### The environment file -/

/-- The environment that a request asks for: the values of the request and the identifier of the
VM, the paths of the files that it has, and the credentials that are given. -/
inductive Intended (id : GoString) (req : CreateReq) : GoString → GoString → Prop
  | logLevel : Intended id req (lit "AGENT_LOG_LEVEL") req.agentLogLevel
  | serverUrl : Intended id req (lit "AGENT_CVM_GRPC_URL") req.agentCvmServerUrl
  | id : Intended id req (lit "AGENT_CVM_ID") id
  | certsToken : Intended id req (lit "AGENT_CERTS_TOKEN") req.agentCertsToken
  | caUrl : Intended id req (lit "AGENT_CVM_CA_URL") req.agentCvmCaUrl
  | clientCert (h : req.agentCvmClientCert ≠ none) :
    Intended id req (lit "AGENT_CVM_GRPC_CLIENT_CERT") (lit "/etc/certs/cert.pem")
  | clientKey (h : req.agentCvmClientKey ≠ none) :
    Intended id req (lit "AGENT_CVM_GRPC_CLIENT_KEY") (lit "/etc/certs/key.pem")
  | serverCaCert (h : req.agentCvmServerCaCert ≠ none) :
    Intended id req (lit "AGENT_CVM_GRPC_SERVER_CA_CERTS") (lit "/etc/certs/ca.pem")
  | awsAccessKeyId (h : req.awsAccessKeyId ≠ []) :
    Intended id req (lit "AWS_ACCESS_KEY_ID") req.awsAccessKeyId
  | awsSecretAccessKey (h : req.awsSecretAccessKey ≠ []) :
    Intended id req (lit "AWS_SECRET_ACCESS_KEY") req.awsSecretAccessKey
  | awsEndpointUrl (h : req.awsEndpointUrl ≠ []) :
    Intended id req (lit "AWS_ENDPOINT_URL") req.awsEndpointUrl
  | awsRegion (h : req.awsRegion ≠ []) : Intended id req (lit "AWS_REGION") req.awsRegion

theorem mem_entryOf_iff {key : String} {value k v : GoString} :
    (k, v) ∈ entryOf key value ↔ value ≠ [] ∧ k = lit key ∧ v = value := by
  unfold entryOf
  split <;> simp [*]

theorem mem_pathOf_iff {key path : String} {data : Option Bytes} {k v : GoString} :
    (k, v) ∈ pathOf key data path ↔ data ≠ none ∧ k = lit key ∧ v = lit path := by
  unfold pathOf
  cases data <;> simp

/-- The map of the code is the one that is intended. -/
theorem mem_environment_iff {id k v : GoString} {req : CreateReq} :
    (k, v) ∈ environment id req ↔ Intended id req k v := by
  simp only [environment, List.mem_append, List.mem_cons, List.not_mem_nil, or_false,
    mem_entryOf_iff, mem_pathOf_iff, Prod.mk.injEq]
  constructor
  · rintro ((((((((⟨rfl, rfl⟩ | ⟨rfl, rfl⟩ | ⟨rfl, rfl⟩ | ⟨rfl, rfl⟩ | ⟨rfl, rfl⟩) | ⟨h, rfl, rfl⟩) |
      ⟨h, rfl, rfl⟩) | ⟨h, rfl, rfl⟩) | ⟨h, rfl, rfl⟩) | ⟨h, rfl, rfl⟩) | ⟨h, rfl, rfl⟩) |
      ⟨h, rfl, rfl⟩)
    · exact .logLevel
    · exact .serverUrl
    · exact .id
    · exact .certsToken
    · exact .caUrl
    · exact .clientCert h
    · exact .clientKey h
    · exact .serverCaCert h
    · exact .awsAccessKeyId h
    · exact .awsSecretAccessKey h
    · exact .awsEndpointUrl h
    · exact .awsRegion h
  · intro h
    cases h <;> simp [*]

/-- The lines of a text, each cut at its first equals sign. -/
def parseEnvironment (text : Bytes) : List (GoString × Option GoString) :=
  let lines := split 0x0a text
  (if lines.getLast? = some [] then lines.dropLast else lines).map (cut 0x3d)

theorem keys_entryOf (key : String) (value : GoString) :
    ((entryOf key value).map Prod.fst).Sublist [lit key] := by
  unfold entryOf
  split <;> simp

theorem keys_pathOf (key : String) (data : Option Bytes) (path : String) :
    ((pathOf key data path).map Prod.fst).Sublist [lit key] := by
  unfold pathOf
  split <;> simp

/-- The keys are constants, all different, without a line break or an equals sign. -/
theorem keys_environment (id : GoString) (req : CreateReq) :
    ∃ keys : List GoString, (keys.Nodup ∧ ∀ k ∈ keys, 0x3d ∉ k ∧ 0x0a ∉ k) ∧
      ((environment id req).map Prod.fst).Sublist keys := by
  apply Exists.intro
  apply And.intro
  rotate_left
  · simp only [environment, List.map_append, List.map_cons, List.map_nil]
    exact (List.Sublist.refl _).append (keys_pathOf ..) |>.append (keys_pathOf ..)
      |>.append (keys_pathOf ..) |>.append (keys_entryOf ..) |>.append (keys_entryOf ..)
      |>.append (keys_entryOf ..) |>.append (keys_entryOf ..)
  · decide +kernel

theorem split_lines {l : List (GoString × GoString)} (h : ∀ e ∈ l, 0x0a ∉ e.1 ∧ 0x0a ∉ e.2) :
    split 0x0a (l.flatMap fun e => e.1 ++ 0x3d :: (e.2 ++ [0x0a])) =
      l.map (fun e => e.1 ++ 0x3d :: e.2) ++ [[]] := by
  induction l with
  | nil => exact split_of_notMem List.not_mem_nil
  | cons e l ih =>
    obtain ⟨⟨hkey, hval⟩, hl⟩ := List.forall_mem_cons.mp h
    have hline : 0x0a ∉ e.1 ++ 0x3d :: e.2 := by simp [hkey, hval]
    rw [List.flatMap_cons, List.map_cons, List.cons_append, ← ih hl, ← split_append_cons hline]
    simp

/-- No value has a line break, so that each entry is one line; in whatever order they are written,
the entries that are read back from the file are those that the request asks for. -/
theorem environment_read_back {answers : Answers} {id dir : GoString} {req : CreateReq} {file : Bytes}
    {dirs : List GoString} (h : tmpEnvironment answers id req = (.ok (dir, file), dirs)) :
    ∃ entries : List (GoString × GoString),
      parseEnvironment file = entries.map (fun e => (e.1, some e.2)) ∧
      (∀ k v, (k, v) ∈ entries ↔ Intended id req k v) ∧ (entries.map Prod.fst).Nodup := by
  obtain ⟨-, -, hwr, -, -⟩ := tmpEnvironment_ok_iff.mp h
  obtain ⟨hvalues, -, -, -, rfl⟩ := writeEnvironment_ok_iff.mp hwr
  obtain ⟨keys, ⟨hnd, hkeys⟩, hsub⟩ := keys_environment id req
  have hperm := answers.writeOrder.perm (environment id req)
  have hentry : ∀ e ∈ answers.writeOrder.order (environment id req),
      0x3d ∉ e.1 ∧ 0x0a ∉ e.1 ∧ 0x0a ∉ e.2 := by
    intro e he
    have he := hperm.mem_iff.mp he
    obtain ⟨heq, hbreak⟩ := hkeys e.1 (hsub.subset (List.mem_map_of_mem he))
    have hval := hvalues e he
    refine ⟨heq, hbreak, fun hmem => ?_⟩
    rw [validateEnvironmentValue, if_pos (List.any_eq_true.mpr ⟨0x0a, hmem, by simp⟩)] at hval
    cases hval
  refine ⟨_, ?_, fun k v => hperm.mem_iff.trans mem_environment_iff,
    ((hperm.map Prod.fst).nodup_iff).mpr (hsub.nodup hnd)⟩
  rw [parseEnvironment, split_lines fun e he => (hentry e he).2]
  simp only [List.getLast?_append, List.getLast?_singleton, Option.some_or, ↓reduceIte,
    List.dropLast_concat, List.map_map]
  exact List.map_congr_left fun e he => cut_append_cons (hentry e he).1

/-- A value that looks like an entry itself. -/
theorem environment_read_back_sample :
    ∃ dir file dirs, tmpEnvironment sampleAnswers (lit "a1") { awsRegion := lit "a=b" } =
        (.ok (dir, file), dirs) ∧
      ∃ entries : List (GoString × GoString),
        parseEnvironment file = entries.map (fun e => (e.1, some e.2)) ∧
        (∀ k v, (k, v) ∈ entries ↔ Intended (lit "a1") { awsRegion := lit "a=b" } k v) ∧
        (entries.map Prod.fst).Nodup := by
  obtain ⟨⟨dir, file⟩, hok⟩ : ∃ res, (tmpEnvironment sampleAnswers (lit "a1")
      { awsRegion := lit "a=b" }).1 = .ok res := ⟨_, rfl⟩
  exact ⟨dir, file, _, Prod.ext hok rfl, environment_read_back (Prod.ext hok rfl)⟩

end SecureBinding.Manager
