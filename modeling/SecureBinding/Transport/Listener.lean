import SecureBinding.EA.Completeness
import SecureBinding.Lib.Transition
import SecureBinding.Transport.Server

/-!
# Transport.Listener

A loop that calls `Listener.Accept` until it returns an error, as `net/http` and gRPC do.

`Accept` hands on the error of `Server`, and waits for as long as `Server` does. The loop
therefore lives as long as every peer completes, and the first one that does not ends it.
-/

namespace SecureBinding.Transport

open Go Go.Crypto EA Lib

variable {V : Type} {prim : Primitives V} {cfg : ServerConfig} {session : Option Session}

/-! ### The loop -/

/-- One turn of the loop: what the underlying listener returns, and the randomness of the
call. -/
structure Inbound where
  signer : Signer
  raw : Except String Peer

/-- One turn of the loop, if it goes on after it. -/
def acceptStep (prim : Primitives V) (cfg : ServerConfig) (session : Option Session)
    (i : Inbound) : Option (Option Session) :=
  match accept prim i.signer cfg i.raw session with
  | (some (.ok _), session) => some session
  | _ => none

/-- `Accept` returns, and with an error only if the underlying listener did. -/
def Isolated (prim : Primitives V) (cfg : ServerConfig) (session : Option Session) (i : Inbound) :
    Prop :=
  ∃ res, (accept prim i.signer cfg i.raw session).1 = some res ∧
    ∀ e, res = .error e → ∃ text, i.raw = .error text

/-- The peer of this turn, if there is one, completes. -/
def PeerCompletes (prim : Primitives V) (cfg : ServerConfig) (session : Option Session)
    (i : Inbound) : Prop :=
  ∀ peer, i.raw = .ok peer → Completes prim i.signer cfg peer session

theorem accept_ok_iff {i : Inbound} {peer : Peer} (hraw : i.raw = .ok peer) :
    (∃ conn, (accept prim i.signer cfg i.raw session).1 = some (.ok conn)) ↔
      Completes prim i.signer cfg peer session := by
  rw [← serveConn_isOk_iff, hraw]
  show (∃ conn, (serveConn prim i.signer cfg peer session).1.map
    (fun r : Except ServerError ServerConn => r.mapError AcceptError.server) = some (.ok conn)) ↔ _
  match (serveConn prim i.signer cfg peer session).1 with
  | none => simp
  | some r => simp [mapError_ok_iff]

theorem isolated_iff {i : Inbound} :
    Isolated prim cfg session i ↔ PeerCompletes prim cfg session i := by
  unfold Isolated PeerCompletes
  cases hraw : i.raw with
  | error text => exact ⟨fun _ peer hpeer => (by cases hpeer), fun _ => ⟨_, rfl, by simp⟩⟩
  | ok peer =>
    have hok := @accept_ok_iff V prim cfg session i peer hraw
    rw [hraw] at hok
    constructor
    · rintro ⟨res, hres, herr⟩ peer' hpeer
      cases hpeer
      cases res with
      | error e =>
        obtain ⟨text, htext⟩ := herr e rfl
        cases htext
      | ok conn => exact hok.mp ⟨conn, hres⟩
    · intro hall
      obtain ⟨conn, hconn⟩ := hok.mpr (hall peer rfl)
      refine ⟨.ok conn, hconn, ?_⟩
      intro e he
      cases he

/-- The loop goes on after a turn exactly if there is a peer and it completes. -/
theorem acceptStep_isSome_iff {i : Inbound} :
    (∃ session', acceptStep prim cfg session i = some session') ↔
      (∃ peer, i.raw = .ok peer) ∧ PeerCompletes prim cfg session i := by
  have hstep : (∃ session', acceptStep prim cfg session i = some session') ↔
      ∃ conn, (accept prim i.signer cfg i.raw session).1 = some (.ok conn) := by
    unfold acceptStep
    split
    · rename_i conn session' hres
      simp [hres]
    · rename_i hnot
      simp only [reduceCtorEq, exists_false, false_iff]
      rintro ⟨conn, hconn⟩
      exact hnot conn _ (Prod.ext hconn rfl)
  rw [hstep]
  unfold PeerCompletes
  cases hraw : i.raw with
  | error text => simp [accept]
  | ok peer =>
    have hok := @accept_ok_iff V prim cfg session i peer hraw
    rw [hraw] at hok
    rw [hok]
    simp

/-! ### Runs of the loop -/

/-- Every call of `Accept` that the loop makes is isolated. -/
def RunIsolated (prim : Primitives V) (cfg : ServerConfig) (session : Option Session)
    (inbound : List Inbound) : Prop :=
  ∀ before i after session', inbound = before ++ i :: after →
    run (acceptStep prim cfg) session before = some session' → Isolated prim cfg session' i

theorem runIsolated_cons_iff {i : Inbound} {rest : List Inbound} :
    RunIsolated prim cfg session (i :: rest) ↔ Isolated prim cfg session i ∧
      ∀ session', acceptStep prim cfg session i = some session' →
        RunIsolated prim cfg session' rest := by
  constructor
  · intro h
    refine ⟨h [] i rest session rfl rfl, ?_⟩
    intro session' hstep before j after session'' heq hrun
    exact h (i :: before) j after session'' (by rw [heq]; rfl)
      (run_cons_eq_some_iff.mpr ⟨session', hstep, hrun⟩)
  · intro h before j after session' heq hrun
    obtain ⟨hfst, hrest⟩ := h
    cases before with
    | nil =>
      cases heq
      cases hrun
      exact hfst
    | cons k before =>
      obtain ⟨rfl, rfl⟩ := List.cons.inj heq
      obtain ⟨session'', hstep, hrun⟩ := run_cons_eq_some_iff.mp hrun
      exact hrest session'' hstep before j after session' rfl hrun

/-- One peer stops the listener as soon as it does not complete: `Accept` then returns its
error, or does not return. The calls of a run are isolated exactly if every peer completes
when its turn comes; and without errors of the underlying listener, the loop is still
serving at the end of exactly these runs. -/
theorem listener_isolates_iff (prim : Primitives V) (cfg : ServerConfig)
    (session : Option Session) (inbound : List Inbound) :
    (RunIsolated prim cfg session inbound ↔
      Guarded (acceptStep prim cfg) (PeerCompletes prim cfg) session inbound) ∧
    ((∀ i ∈ inbound, ∃ peer, i.raw = .ok peer) →
      ((∃ session', run (acceptStep prim cfg) session inbound = some session') ↔
        Guarded (acceptStep prim cfg) (PeerCompletes prim cfg) session inbound)) := by
  -- On the peers, for all sessions: each call leaves the next one another session.
  induction inbound generalizing session with
  | nil =>
    refine ⟨⟨fun _ => trivial, fun _ before i after session' heq => ?_⟩, fun _ => ?_⟩
    · simp at heq
    · exact ⟨fun _ => trivial, fun _ => ⟨session, rfl⟩⟩
  | cons i rest ih =>
    refine ⟨?_, ?_⟩
    · rw [runIsolated_cons_iff, isolated_iff, Guarded]
      exact and_congr_right fun _ => forall_congr' fun session' => imp_congr_right fun _ =>
        (ih session').1
    · intro hraw
      obtain ⟨hfst, hrest⟩ := List.forall_mem_cons.mp hraw
      simp only [run_cons_eq_some_iff]
      constructor
      · rintro ⟨session'', session', hstep, hrun⟩
        refine ⟨(acceptStep_isSome_iff.mp ⟨session', hstep⟩).2, ?_⟩
        intro u hu
        rw [hstep] at hu
        cases hu
        exact ((ih session').2 hrest).mp ⟨session'', hrun⟩
      · rintro ⟨hcompletes, hg⟩
        obtain ⟨session', hstep⟩ := acceptStep_isSome_iff.mpr ⟨hfst, hcompletes⟩
        obtain ⟨session'', hrun⟩ := ((ih session').2 hrest).mpr (hg session' hstep)
        exact ⟨session'', session', hstep, hrun⟩

/-! ### Samples -/

def sampleServer : ServerConfig := { identity := sampleIdentity }

/-- A peer that sends these bytes and then waits. -/
def peerThatSends (sends : Bytes) : Inbound where
  signer := sampleSigner
  raw := .ok ⟨some (.ok ()), connectionWith 7, sends, false, fun _ => some (.ok ())⟩

/-- A peer that sends the sample request. -/
def goodPeer : Inbound :=
  peerThatSends
    ((marshalFrame frameTypeRequest (written sampleRequest.marshal)).toOption.getD [])

/-- A peer that ends the handshake early. -/
def abortingPeer : Inbound where
  signer := sampleSigner
  raw := .ok ⟨some (.error "EOF"), connectionWith 7, [], true, fun _ => some (.ok ())⟩

/-- A frame of the wrong type, and an aborted handshake, are returned as errors of `Accept`;
with a peer that says nothing it does not return. The good peer behind them is served only
without them. -/
theorem one_peer_stops_listener :
    (accept samplePrimitives sampleSigner sampleServer (peerThatSends [9, 0, 0, 0, 0]).raw none).1
        = some (.error (.server (.frame (.unexpectedFrameType 9)))) ∧
      (accept samplePrimitives sampleSigner sampleServer abortingPeer.raw none).1
        = some (.error (.server (.external "EOF"))) ∧
      (accept samplePrimitives sampleSigner sampleServer (peerThatSends []).raw none).1 = none ∧
      run (acceptStep samplePrimitives sampleServer) none
        [peerThatSends [9, 0, 0, 0, 0], goodPeer] = none ∧
      run (acceptStep samplePrimitives sampleServer) none [goodPeer] = some none := by
  decide +kernel

/-- Good peers keep the loop going. -/
theorem listener_isolates_good_peers :
    run (acceptStep samplePrimitives sampleServer) none [goodPeer, goodPeer] = some none ∧
      RunIsolated samplePrimitives sampleServer none [goodPeer, goodPeer] := by
  have hrun : run (acceptStep samplePrimitives sampleServer) none [goodPeer, goodPeer]
      = some none := by
    decide +kernel
  have hthm := listener_isolates_iff samplePrimitives sampleServer none [goodPeer, goodPeer]
  refine ⟨hrun, hthm.1.mpr ((hthm.2 ?_).mp ⟨none, hrun⟩)⟩
  intro i hi
  obtain rfl : i = goodPeer := by simpa using hi
  exact ⟨_, rfl⟩

end SecureBinding.Transport
