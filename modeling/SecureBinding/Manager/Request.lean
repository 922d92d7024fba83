import SecureBinding.Go.Strings
import SecureBinding.Go.Time

/-!
# Manager.Request

The request of `CreateVM` (`manager/service.go`): its fields, the checks of them, and the
environment that a VM gets from them.

A map of Go is iterated in no particular order, so the environment is a list here and an
iteration over it is one of its permutations (`MapOrder`).
-/

namespace SecureBinding.Manager

open Go

/-- `CreateReq`; a certificate or key can be absent. -/
structure CreateReq where
  agentLogLevel : GoString := []
  agentCvmServerCaCert : Option Bytes := none
  agentCvmClientKey : Option Bytes := none
  agentCvmClientCert : Option Bytes := none
  agentCvmServerUrl : GoString := []
  agentCvmCaUrl : GoString := []
  ttl : GoString := []
  agentCertsToken : GoString := []
  awsAccessKeyId : GoString := []
  awsSecretAccessKey : GoString := []
  awsEndpointUrl : GoString := []
  awsRegion : GoString := []
  aaKbsParams : GoString := []

/-- The errors of `CreateVM`. -/
inductive CreateError
  | maxVMsExceeded
  | aaKbsTooLong
  | aaKbsCharacters
  | environmentValue (key : GoString)
  | allocatePort (err : GoString)
  /-- An error of the system, of the VM or of `time.ParseDuration`, as it is. -/
  | other (err : GoString)
  deriving Repr, DecidableEq

/-! ### Checks -/

/-- `ms.maxVMs > 0 && len(ms.vms) >= ms.maxVMs`. -/
def limitReached (maxVMs : Int) (vms : Nat) : Bool := 0 < maxVMs && maxVMs ≤ vms

/-- Is there a white-space or control rune? Such a rune is recognised at its first byte. -/
def hasSpaceOrControl : GoString → Bool
  | [] => false
  | a :: s =>
    spaceLen (a :: s) != 0 || (runeLen (a :: s) != 0 && startsWithControl (a :: s))
      || hasSpaceOrControl s

def validateAAKBSParams (value : GoString) : Except CreateError Unit :=
  if 1024 < value.length then .error .aaKbsTooLong
  else if hasSpaceOrControl value then .error .aaKbsCharacters
  else .ok ()

/-- The checks of `CreateVM` before it does anything, with so many VMs registered. -/
def screen (maxVMs : Int) (vms : Nat) (req : CreateReq) : Except CreateError Unit :=
  if limitReached maxVMs vms then .error .maxVMsExceeded
  else if req.aaKbsParams = [] then .ok ()
  else validateAAKBSParams req.aaKbsParams

/-- The TTL of a request, if it has one. -/
def parseTTL (parseDuration : GoString → Except GoString Duration) (req : CreateReq) :
    Except CreateError (Option Duration) :=
  if req.ttl = [] then .ok none
  else match parseDuration req.ttl with
    | .ok ttl => .ok (some ttl)
    | .error err => .error (.other err)

/-! ### The environment -/

/-- An entry that is there if the value is not empty. -/
def entryOf (key : String) (value : GoString) : List (GoString × GoString) :=
  if value = [] then [] else [(lit key, value)]

/-- An entry that is there if the request has the file. -/
def pathOf (key : String) (data : Option Bytes) (path : String) : List (GoString × GoString) :=
  if data.isSome then [(lit key, lit path)] else []

/-- The environment of the VM `id`. -/
def environment (id : GoString) (req : CreateReq) : List (GoString × GoString) :=
  [(lit "AGENT_LOG_LEVEL", req.agentLogLevel), (lit "AGENT_CVM_GRPC_URL", req.agentCvmServerUrl),
    (lit "AGENT_CVM_ID", id), (lit "AGENT_CERTS_TOKEN", req.agentCertsToken),
    (lit "AGENT_CVM_CA_URL", req.agentCvmCaUrl)] ++
  pathOf "AGENT_CVM_GRPC_CLIENT_CERT" req.agentCvmClientCert "/etc/certs/cert.pem" ++
  pathOf "AGENT_CVM_GRPC_CLIENT_KEY" req.agentCvmClientKey "/etc/certs/key.pem" ++
  pathOf "AGENT_CVM_GRPC_SERVER_CA_CERTS" req.agentCvmServerCaCert "/etc/certs/ca.pem" ++
  entryOf "AWS_ACCESS_KEY_ID" req.awsAccessKeyId ++
  entryOf "AWS_SECRET_ACCESS_KEY" req.awsSecretAccessKey ++
  entryOf "AWS_ENDPOINT_URL" req.awsEndpointUrl ++
  entryOf "AWS_REGION" req.awsRegion

def validateEnvironmentValue (key value : GoString) : Except CreateError Unit :=
  if value.any (fun a => a == 0x00 || a == 0x0d || a == 0x0a) then .error (.environmentValue key)
  else .ok ()

/-- The order of an iteration over a map. -/
structure MapOrder where
  order : List (GoString × GoString) → List (GoString × GoString)
  perm : ∀ l, (order l).Perm l

/-- The order in which the entries are written down here. -/
def MapOrder.listed : MapOrder := ⟨id, fun _ => .refl _⟩

end SecureBinding.Manager
