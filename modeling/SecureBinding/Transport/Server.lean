import SecureBinding.EA.Create
import SecureBinding.Transport.Client

/-!
# Transport.Server

The model of `Server` in `conn.go` and of `Listener.Accept` in `listener.go`.

A call need not return: a peer that stays silent, or does not take what is written to it,
makes the server wait without a deadline. The result of such a call is `none`.
-/

namespace SecureBinding.Transport

open Go Go.Crypto EA Lib

/-! ### Errors -/

/-- The errors of `Server`. -/
inductive ServerError
  | missingServerConfig
  | trailingRequestBytes
  | cmwNotOffered
  | missingServerIdentity
  | missingServerLeaf
  | frame (err : Error)
  | request (err : EA.Error)
  | create (err : EA.CreateError)
  /-- An error of the network, of `crypto/x509` or of the callback. -/
  | external (text : String)
  deriving Repr, DecidableEq

/-! ### Configuration and peers -/

/-- `ServerConfig`. The session is state; `certificates` are those of the TLS configuration,
`none` if there is no such configuration. -/
structure ServerConfig where
  identity : Identity := {}
  certificates : Option (List Identity) := none
  buildLeafExtensions : Option (Tls.ConnectionState → AuthenticatorRequest → Certificate →
    Except String (List Extension)) := none

/-- What a peer does on its connection: how the handshake ends, if it does; what the peer
sends, and whether it closes its side after that; and what writing to it returns, if it
does. -/
structure Peer where
  handshake : Option (Except String Unit)
  connectionState : Tls.ConnectionState
  sends : Bytes
  closes : Bool
  write : Bytes → Option (Except String Unit)

/-- `Conn`, as `Server` returns it. -/
structure ServerConn where
  request : AuthenticatorRequest
  deriving Repr, DecidableEq

/-! ### Server -/

/-- `readFrame` has what it needs: it can go on without more bytes. -/
def frameDecided : Bytes → Bool
  | t :: a :: b :: c :: d :: rest =>
    t == 0 || decide (readUint32 a b c d > maxFramePayloadLen)
      || decide (readUint32 a b c d ≤ rest.length)
  | _ => false

section Server

variable {V : Type} (prim : Primitives V) (signer : Signer) (cfg : ServerConfig)

/-- What `Server` makes of the bytes of a peer. -/
def parseRequest (sends : Bytes) : Except ServerError AuthenticatorRequest := do
  let (type, reqBytes, _) ← (readFrame sends).mapError .frame
  ensure (type = frameTypeRequest) (.frame (.unexpectedFrameType type))
  let (req, rest) ← (AuthenticatorRequest.unmarshal reqBytes).mapError .request
  ensure (rest = []) .trailingRequestBytes
  ensure (cfg.buildLeafExtensions.isNone = true ∨
    requestPermitsCertificateExtension (some req) cmwAttestationExtensionType = true) .cmwNotOffered
  return req

/-- `Server` up to the request. -/
def readRequest (peer : Peer) : Option (Except ServerError AuthenticatorRequest) :=
  match peer.handshake with
  | none => none
  | some (.error text) => some (.error (.external text))
  | some (.ok _) =>
    if frameDecided peer.sends || peer.closes then some (parseRequest cfg peer.sends) else none

def resolveIdentity : Except ServerError Identity :=
  if cfg.identity.certificate ≠ [] ∧ cfg.identity.privateKey ≠ none then .ok cfg.identity
  else
    match cfg.certificates with
    | some (first :: _) => .ok first
    | _ => .error .missingServerIdentity

def buildServerExtensions (st : Tls.ConnectionState) (req : AuthenticatorRequest)
    (identity : Identity) : Except ServerError (List Extension) :=
  match cfg.buildLeafExtensions with
  | none => .ok []
  | some build =>
    match identity.certificate with
    | [] => .error .missingServerLeaf
    | der :: _ => do
      let leaf ← (prim.parseCertificate der).mapError .external
      (build st req leaf).mapError .external

/-- The identity and the extensions for an authenticator. -/
def prepareAnswer (st : Tls.ConnectionState) (req : AuthenticatorRequest) :
    Except ServerError (Identity × List Extension) := do
  let identity ← resolveIdentity cfg
  let exts ← buildServerExtensions prim cfg st req identity
  return (identity, exts)

/-- `writeFrame` of an authenticator. -/
def writeAnswer (peer : Peer) (authBytes : Bytes) : Option (Except ServerError Unit) :=
  match marshalFrame frameTypeAuthenticator authBytes with
  | .error e => some (.error (.frame e))
  | .ok frame => (peer.write frame).map fun r => r.mapError .external

/-- `Server`, with a configuration. -/
def serveConn (peer : Peer) (session : Option Session) :
    Option (Except ServerError ServerConn) × Option Session :=
  match readRequest cfg peer with
  | none => (none, session)
  | some (.error e) => (some (.error e), session)
  | some (.ok req) =>
    match prepareAnswer prim cfg peer.connectionState req with
    | .error e => (some (.error e), session)
    | .ok (identity, exts) =>
      match createAuthenticator prim signer session peer.connectionState roleServer (some req) none
          identity exts with
      | (.error e, session) => (some (.error (.create e)), session)
      | (.ok authBytes, session) =>
        ((writeAnswer peer authBytes).map fun r => r.map fun _ => ⟨req⟩, session)

def server (cfg : Option ServerConfig) (peer : Peer) (session : Option Session) :
    Option (Except ServerError ServerConn) × Option Session :=
  match cfg with
  | none => (some (.error .missingServerConfig), session)
  | some cfg => serveConn prim signer cfg peer session

/-! ### Listener -/

/-- An error of `Accept`, by where it comes from. -/
inductive AcceptError
  | raw (text : String)
  | server (err : ServerError)
  deriving Repr, DecidableEq

/-- `Listener.Accept`, for what the underlying listener returns. -/
def accept (raw : Except String Peer) (session : Option Session) :
    Option (Except AcceptError ServerConn) × Option Session :=
  match raw with
  | .error text => (some (.error (.raw text)), session)
  | .ok peer =>
    let res := server prim signer (some cfg) peer session
    (res.1.map fun r => r.mapError .server, res.2)

/-! ### Peers that are served -/

/-- The peer does its part, and the server can answer it. -/
structure Completes (peer : Peer) (session : Option Session) : Prop where
  handshake : peer.handshake = some (.ok ())
  exchange : ∃ req identity exts authBytes frame, parseRequest cfg peer.sends = .ok req ∧
    prepareAnswer prim cfg peer.connectionState req = .ok (identity, exts) ∧
    (createAuthenticator prim signer session peer.connectionState roleServer (some req) none identity
      exts).1 = .ok authBytes ∧
    marshalFrame frameTypeAuthenticator authBytes = .ok frame ∧ peer.write frame = some (.ok ())

end Server

variable {V : Type} {prim : Primitives V} {signer : Signer} {cfg : ServerConfig} {peer : Peer}
  {session : Option Session}

theorem frameDecided_of_readFrame {b : Bytes} {res : UInt8 × Bytes × Bytes}
    (h : readFrame b = .ok res) : frameDecided b = true := by
  unfold readFrame at h
  unfold frameDecided
  split at h
  · rename_i t x y z w rest
    by_contra hnot
    simp only [Bool.or_eq_true, beq_iff_eq, decide_eq_true_eq, not_or, not_le] at hnot
    obtain ⟨⟨htype, hmax⟩, hlen⟩ := hnot
    rw [if_neg htype, if_neg hmax, if_pos hlen] at h
    cases h
  · cases h

theorem frameDecided_of_parseRequest {req : AuthenticatorRequest}
    (h : parseRequest cfg peer.sends = .ok req) : frameDecided peer.sends = true := by
  obtain ⟨res, hread, -⟩ := bind_ok_iff.mp h
  exact frameDecided_of_readFrame (mapError_ok_iff.mp hread)

theorem readRequest_ok_iff {req : AuthenticatorRequest} :
    readRequest cfg peer = some (.ok req) ↔
      peer.handshake = some (.ok ()) ∧ parseRequest cfg peer.sends = .ok req := by
  unfold readRequest
  match peer.handshake with
  | none => simp
  | some (.error text) => simp
  | some (.ok u) =>
    simp only [Option.ite_none_right_eq_some, Option.some.injEq, true_and]
    constructor
    · exact fun h => h.2
    · intro h
      exact ⟨by rw [frameDecided_of_parseRequest h]; rfl, h⟩

/-- A connection is returned to the peers that complete, and to no others. -/
theorem serveConn_isOk_iff :
    (∃ conn, (serveConn prim signer cfg peer session).1 = some (.ok conn)) ↔
      Completes prim signer cfg peer session := by
  unfold serveConn
  constructor
  · rintro ⟨conn, h⟩
    split at h
    · cases h
    · cases h
    · rename_i req hread
      obtain ⟨hhs, hpar⟩ := readRequest_ok_iff.mp hread
      split at h
      · cases h
      · rename_i identity exts hprepare
        split at h
        · cases h
        · rename_i authBytes session' hcr
          -- The peer decides last: it may fail the write, or never take the frame.
          unfold writeAnswer at h
          split at h
          · cases h
          · rename_i frame hfr
            refine ⟨hhs, req, identity, exts, authBytes, frame, hpar, hprepare, ?_, hfr, ?_⟩
            · rw [hcr]
            · match hwr : peer.write frame with
              | none => rw [hwr] at h; cases h
              | some (.error text) => rw [hwr] at h; cases h
              | some (.ok u) => rfl
  · rintro ⟨hhs, req, identity, exts, authBytes, frame, hpar, hprepare, hcr, hfr, hwr⟩
    have hread := readRequest_ok_iff.mpr ⟨hhs, hpar⟩
    refine ⟨⟨req⟩, ?_⟩
    simp only [hread, hprepare]
    rcases hres : createAuthenticator prim signer session peer.connectionState roleServer (some req)
        none identity exts with ⟨_ | authBytes', session'⟩
    · rw [hres] at hcr
      cases hcr
    · rw [hres] at hcr
      cases hcr
      simp only [writeAnswer, hfr, hwr]
      rfl

end SecureBinding.Transport
