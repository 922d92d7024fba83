import SecureBinding.JWT.Library

/-!
# JWT.Claims

The claim structs of `pkg/clients/identity_jwt.go` and `pkg/agtp/jwt.go` as decoding
targets: the JSON names of their fields, in the order of the source, and how a value
is stored in each.
-/

namespace SecureBinding.JWT

open Go Go.Json

/-- A field of type `string`. -/
def stringField (name : String) (set : GoString → Claims → Claims) :
    GoString × StructField Claims :=
  (lit name, { store := storeString set })

/-- A field of type `[]string`. -/
def stringsField (name : String) (get : Claims → List GoString)
    (set : List GoString → Claims → Claims) : GoString × StructField Claims :=
  (lit name, { store := storeStrings get set })

section Structs

variable {Key : Type} (lib : Library Key)

/-- A field of type `*jwt.NumericDate`. -/
def dateField (name : String) (set : Option Time → Claims → Claims) :
    GoString × StructField Claims :=
  (lit name, { store := fun
    | .null, c => some (set none c)
    | v, c => (lib.numericDate v).map fun t => set (some t) c })

/-- A field of type `jwt.ClaimStrings`. -/
def claimStringsField (name : String) (set : List GoString → Claims → Claims) :
    GoString × StructField Claims :=
  (lit name, { store := fun
    | .null, c => some c
    | v, c => (lib.claimStrings v).map fun values => set values c })

/-- The embedded `jwt.RegisteredClaims`. -/
def registeredClaims : StructType Claims :=
  [stringField "iss" fun s c => { c with issuer := s },
    stringField "sub" fun s c => { c with subject := s },
    claimStringsField lib "aud" fun ss c => { c with audience := ss },
    dateField lib "exp" fun t c => { c with expiresAt := t },
    dateField lib "nbf" fun t c => { c with notBefore := t },
    dateField lib "iat" fun t c => { c with issuedAt := t },
    stringField "jti" fun s c => { c with id := s }]

/-- `profileClaims` of `pkg/agtp`, and the first fields of `bindingJWTClaims`. -/
def profileClaims : StructType Claims :=
  [stringField "profile_type" fun s c => { c with profileType := s },
    stringField "profile_version" fun s c => { c with profileVersion := s },
    stringField "agtp_type" fun s c => { c with legacyType := s },
    stringField "agtp_version" fun s c => { c with legacyVersion := s }]

/-- `cnf` of `pkg/clients`, `confirmationClaim` of `pkg/agtp`. -/
def confirmationClaim : StructType Claims :=
  [stringField "kid" fun s c => { c with confirmationKeyID := s }]

/-- The fields of a grant that say which keys may sign for it. -/
def keyClaims : StructType Claims :=
  [(lit "cnf",
      { store := storeStruct confirmationClaim, shape := StructType.shape confirmationClaim }),
    stringsField "authorized_endpoint_keys" Claims.endpointKeyIDs
      fun ss c => { c with endpointKeyIDs := ss }]

/-- The fields of a session binding. -/
def bindingClaims : StructType Claims :=
  [stringField "grant_hash" fun s c => { c with grantHash := s },
    stringField "leaf_public_key_sha256" fun s c => { c with leafKeySHA256 := s },
    stringField "tls_exporter_sha256" fun s c => { c with tlsExporter := s },
    stringField "request_context_sha256" fun s c => { c with requestContext := s },
    stringField "attestation_binder_sha256" fun s c => { c with attestationBind := s },
    stringField "nonce" fun s c => { c with nonce := s }]

/-- The identity values of a grant. -/
def valueClaims : StructType Claims :=
  [stringField "service" fun s c => { c with values.service := s },
    stringField "tenant" fun s c => { c with values.tenant := s },
    stringField "deployment" fun s c => { c with values.deployment := s },
    stringField "environment" fun s c => { c with values.environment := s },
    stringField "workload" fun s c => { c with values.workload := s },
    stringField "agent" fun s c => { c with values.agent := s },
    stringField "agent_public_key" fun s c => { c with values.agentPublicKey := s },
    stringField "computation_id" fun s c => { c with values.computationID := s },
    stringField "task_id" fun s c => { c with values.taskID := s },
    stringField "thread_id" fun s c => { c with values.threadID := s },
    stringField "delegation_id" fun s c => { c with values.delegationID := s },
    stringField "intent_ref" fun s c => { c with values.intentRef := s },
    stringField "capability_ref" fun s c => { c with values.capabilityRef := s },
    stringField "ontology_id" fun s c => { c with values.ontologyID := s },
    stringField "scope" fun s c => { c with scope := s },
    stringsField "scopes" (fun c => c.values.scopes) fun ss c => { c with values.scopes := ss },
    stringField "resource" fun s c => { c with resource := s },
    stringsField "resources" (fun c => c.values.resources)
      fun ss c => { c with values.resources := ss },
    stringsField "authorization_details" (fun c => c.values.authorizationDetails)
      fun ss c => { c with values.authorizationDetails := ss }]

/-- `bindingJWTClaims` of `pkg/clients`, for grants and statements alike. -/
def bindingJWTClaims : StructType Claims :=
  registeredClaims lib ++ profileClaims ++ keyClaims ++ bindingClaims ++ valueClaims

/-- `identityGrantClaims` of `pkg/agtp`. -/
def identityGrantClaims : StructType Claims :=
  registeredClaims lib ++ profileClaims ++ keyClaims ++ valueClaims

/-- `sessionBindingClaims` of `pkg/agtp`. -/
def sessionBindingClaims : StructType Claims :=
  registeredClaims lib ++ profileClaims ++ bindingClaims

/-- `sessionEnvelopeClaims` of `pkg/agtp`. -/
def sessionEnvelopeClaims : StructType Claims :=
  registeredClaims lib ++ profileClaims
    ++ [stringField "identity_grant_jwt" fun s c => { c with identityGrantJWT := s }]
    ++ bindingClaims

/-- `json.Unmarshal` of a payload into a claim struct. -/
def unmarshalClaims (fields : StructType Claims) (text : Bytes) : Option Claims :=
  (Json.parse text).bind fun v => storeStruct fields v {}

end Structs

end SecureBinding.JWT
