import SecureBinding.Agent.CvmsClient

/-!
# Agent.IngressRuns

The ingress proxy over a whole series of run and stop requests, handled one after the other.

The proxy is one object for all computations, and after the first stop it can not be started
any more. `serves_iff` says which series it serves: those in which no run that could be served
comes after a stop.
-/

namespace SecureBinding.Agent.Cvms

open Go Ingress

inductive Request
  | run (call : RunCall)
  | stop (call : StopCall)

variable {V : Type}

/-- One request, handled to its end; `none` when the agent panics. -/
def handle (lib : Auth.Library V) (client : Client) : Request → Option Client
  | .run call => (executeRun lib client call).map (·.client)
  | .stop call => some (handleStopComputation client call)

def Client.proxyListening (client : Client) : Bool := client.ingressProxy.any (·.listening)

/-- The run is initialised, and its settings are valid. -/
def Request.ValidRun (certProvider : Bool) : Request → Prop
  | .run call => call.accepted ∧ ValidSettings call.proxy certProvider call.runReq.proxyConfig
  | .stop _ => False

instance (certProvider : Bool) : DecidablePred (Request.ValidRun certProvider)
  | .run _ => inferInstanceAs (Decidable (_ ∧ _))
  | .stop _ => isFalse id

def Request.isStop : Request → Bool
  | .run _ => false
  | .stop _ => true

/-- What is expected of the proxy after a request. -/
def Request.Served (certProvider listening : Bool) (r : Request) : Prop :=
  (r.ValidRun certProvider → listening = true) ∧ (r.isStop = true → listening = false)

/-- After every request of a series the proxy does what is expected. -/
def Serves (lib : Auth.Library V) (certProvider : Bool) (client : Client) (rs : List Request) :
    Prop :=
  ∀ before r after, rs = before ++ r :: after →
    ∀ t, Lib.run (handle lib) client (before ++ [r]) = some t →
      r.Served certProvider t.proxyListening

section Series

variable {lib : Auth.Library V} {certProvider : Bool} {client t : Client} {p : ProxyServer}
  {r : Request} {rs : List Request}

theorem serves_nil : Serves lib certProvider client [] := by
  intro before r after h
  simp at h

/-- A series is served when its first request is, and the others are from there on. -/
theorem serves_cons_iff (hstep : handle lib client r = some t) :
    Serves lib certProvider client (r :: rs) ↔
      r.Served certProvider t.proxyListening ∧ Serves lib certProvider t rs := by
  constructor
  · intro h
    refine ⟨h [] r rs rfl t (by simp [Lib.run, hstep]), fun before r' after hrs u hrun => ?_⟩
    exact h (r :: before) r' after (by rw [hrs]; rfl) u (by simpa [Lib.run, hstep] using hrun)
  · intro h before r' after hrs u hrun
    obtain ⟨hfst, hrest⟩ := h
    cases before with
    | nil =>
      obtain ⟨rfl, rfl⟩ := hrs
      obtain rfl : t = u := by simpa [Lib.run, hstep] using hrun
      exact hfst
    | cons r₀ before =>
      simp only [List.cons_append, List.cons.injEq] at hrs
      obtain ⟨rfl, hrs⟩ := hrs
      exact hrest before r' after hrs u (by simpa [Lib.run, hstep] using hrun)

/-- What handling a request does to the proxy. -/
structure Handled (r : Request) (p p' : ProxyServer) : Prop where
  consistent : p'.Consistent
  certProvider_eq : p'.certProvider = p.certProvider
  stopped_eq : p'.stopped = (p.stopped || r.isStop)
  served_iff : r.Served p.certProvider p'.listening ↔
    (r.ValidRun p.certProvider → p.stopped = false)

/-- The first stop is the last thing that happens to the proxy. -/
theorem handled_of_handle (hprx : client.ingressProxy = some p) (hp : p.Consistent)
    (hstep : handle lib client r = some t) :
    ∃ p', t.ingressProxy = some p' ∧ Handled r p p' := by
  cases r with
  | stop call =>
    cases hstep
    refine ⟨(p.stop call.shutdownErr).2, by simp [handleStopComputation, hprx],
      consistent_stop hp, certProvider_stop, by simp [stopped_stop, Request.isStop], ?_⟩
    simp [Request.Served, Request.ValidRun, listening_stop hp]
  | run call =>
    obtain ⟨res, hres, rfl⟩ := Option.map_eq_some_iff.mp hstep
    cases hac : toComputation call.runReq with
    | none => simp [executeRun_eq_none hac] at hres
    | some ac =>
      by_cases hacc : call.accepted
      · rw [executeRun_of_accepted hac hacc] at hres
        cases hres
        refine ⟨(p.start call.proxy call.runReq.proxyConfig).2, by simp [Client.serve, hprx],
          consistent_start hp, certProvider_start, by simp [stopped_start, Request.isStop], ?_⟩
        have hlisten := @listening_start call.proxy p call.runReq.proxyConfig hp
        simp +contextual [Request.Served, Request.ValidRun, Request.isStop, hlisten]
      · rw [executeRun_of_not_accepted hac hacc] at hres
        cases hres
        exact ⟨p, hprx, hp, rfl, by simp [Request.isStop],
          by simp [Request.Served, Request.ValidRun, Request.isStop, hacc]⟩

/-- A series is served when no valid run comes after a stop, be it one of the series or an
earlier one. -/
theorem serves_iff_of_consistent (hprx : client.ingressProxy = some p) (hp : p.Consistent)
    (hrun : Lib.run (handle lib) client rs = some t) :
    Serves lib p.certProvider client rs ↔
      (p.stopped = true → ∀ r ∈ rs, ¬r.ValidRun p.certProvider) ∧
      rs.Pairwise fun r r' => r.isStop = true → ¬r'.ValidRun p.certProvider := by
  induction rs generalizing client p with
  | nil => simp [serves_nil]
  | cons r rs ih =>
    obtain ⟨u, hstep, hrest⟩ := Lib.run_cons_eq_some_iff.mp hrun
    obtain ⟨p', hprx', h⟩ := handled_of_handle hprx hp hstep
    have hlisten : u.proxyListening = p'.listening := by simp [Client.proxyListening, hprx']
    have ih' := ih hprx' h.consistent hrest
    rw [h.certProvider_eq, h.stopped_eq] at ih'
    rw [serves_cons_iff hstep, hlisten, h.served_iff, ih', List.pairwise_cons, List.forall_mem_cons]
    cases p.stopped <;> cases r.isStop <;> simp <;> tauto

end Series

def newProxyServer (backendURL : BackendURL) (certProvider : Bool) : ProxyServer :=
  { backendURL, certProvider }

/-- For every client with a new proxy and every series of run and stop requests that it
handles: after each initialised run with valid settings the proxy listens and after each stop
it does not, exactly when no such run comes after a stop. -/
theorem serves_iff (lib : Auth.Library V) (client : Client) (backendURL : BackendURL)
    (certProvider : Bool) (rs : List Request) (t : Client)
    (hproxy : client.ingressProxy = some (newProxyServer backendURL certProvider))
    (hrun : Lib.run (handle lib) client rs = some t) :
    Serves lib certProvider client rs ↔
      rs.Pairwise fun r r' => r.isStop = true → ¬r'.ValidRun certProvider := by
  have hp : (newProxyServer backendURL certProvider).Consistent := ⟨rfl, fun h => by cases h⟩
  rw [show certProvider = (newProxyServer backendURL certProvider).certProvider from rfl,
    serves_iff_of_consistent hproxy hp hrun]
  simp [newProxyServer]

/-- A run with a certificate, accepted by the agent. -/
def sampleRun : Request :=
  .run (sampleCall {
    algorithm := some { hash := List.replicate 32 7 }
    agentConfig := some { certFile := lit "cert.pem", keyFile := lit "key.pem" } })

/-- A stop that goes well, after which the agent waits for a manifest again. -/
def sampleStop : Request := .stop { stopComputation := fun _ => (none, {}) }

def sampleClient : Client :=
  { ingressProxy := some (newProxyServer { scheme := lit "unix" } true) }

/-- The first computation is served. -/
theorem serves_first : ∃ t,
    Lib.run (handle Auth.sampleLibrary) sampleClient [sampleRun, sampleStop] = some t ∧
      Serves Auth.sampleLibrary true sampleClient [sampleRun, sampleStop] := by
  have hsome : (Lib.run (handle Auth.sampleLibrary) sampleClient
      [sampleRun, sampleStop]).isSome = true := by
    decide
  obtain ⟨t, hrun⟩ := Option.isSome_iff_exists.mp hsome
  exact ⟨t, hrun, (serves_iff _ _ _ _ _ t rfl hrun).mpr (by decide)⟩

/-- The second one is not. -/
theorem second_not_served : sampleRun.ValidRun true ∧ ∃ t,
    Lib.run (handle Auth.sampleLibrary) sampleClient [sampleRun, sampleStop, sampleRun] = some t ∧
      t.proxyListening = false := by
  have h : (Lib.run (handle Auth.sampleLibrary) sampleClient
      [sampleRun, sampleStop, sampleRun]).map (·.proxyListening) = some false := by
    decide
  exact ⟨by decide, Option.map_eq_some_iff.mp h⟩

end SecureBinding.Agent.Cvms
