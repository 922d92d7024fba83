import SecureBinding.Go.Strings
import SecureBinding.Go.Time
import Mathlib.Data.Finset.Card

/-!
# IdentityPolicy.Policy

The model of `pkg/atls/identitypolicy/policy.go`: the verifier-local policy, the
observed identity values with their session binding, and the validators that
compare the two.

A validator that returns `error` in the source returns the list of
`ValidationError`s it collected, the empty list being `nil`: `ValidationErrors`
and a single `*ValidationError` are flattened into one list by
`appendValidationErrors`, which is `++` here. The checks of one value return the
sentinel error they fail with, if any.
-/

namespace SecureBinding.IdentityPolicy

open Go

/-! ### Errors -/

inductive Sentinel
  | missingExpected
  | missingObserved
  | mismatch
  | invalidMode
  | unsafeValue
  | valueTooLong
  | tooManyValues
  | missingBinding
  | expiredAssertion
  | futureAssertion
  | unauthorizedBindingKey
  | replayDetected
  | missingSetNXStore
  | replayStoreFailed
  deriving Repr, DecidableEq

inductive Layer
  | policy
  | l3
  | l4
  | l5
  | l6
  | binding
  | identityGrant
  | sessionBinding
  deriving Repr, DecidableEq

inductive Field
  | all
  | mode
  | service
  | tenant
  | deployment
  | environment
  | workload
  | agent
  | agentPublicKey
  | computationID
  | taskID
  | threadID
  | delegationID
  | intentRef
  | capabilityRef
  | ontologyID
  | scopes
  | resources
  | authorizationDetails
  | leafPublicKeyHash
  | tlsExporterHash
  | requestContextHash
  | attestationBinderHash
  | nonce
  | expiresAt
  | issuedAt
  | issuer
  | issuerKey
  | audience
  | grantHash
  | signerKey
  | confirmationKey
  | endpointKey
  deriving Repr, DecidableEq

/-- A `*ValidationError` as the validators build it: the exact layer and field
that failed, and why. -/
structure ValidationError where
  layer : Layer
  field : Field
  err : Sentinel
  deriving Repr, DecidableEq

/-- `errs = append(errs, validationError(layer, field, err))`, when there is an
error. -/
def report (layer : Layer) (field : Field) : Option Sentinel → List ValidationError
  | none => []
  | some e => [⟨layer, field, e⟩]

/-- Any non-nil `error` the package returns. -/
inductive Error
  | sentinel (e : Sentinel)
  | validation (layer : Layer) (field : Field) (err : Error)
  | validations (errs : List ValidationError)
  deriving Repr, DecidableEq

/-- `errors.Is` with a sentinel error, which unwraps the validation errors. -/
def Error.is (target : Sentinel) : Error → Bool
  | sentinel e => e == target
  | validation _ _ err => err.is target
  | validations errs => errs.any fun e => e.err == target

/-! ### Data model -/

/-- `Requirements`: which layers must be enforced. -/
structure Requirements where
  l3 : Bool := false
  l4 : Bool := false
  l5 : Bool := false
  l6 : Bool := false

def Requirements.enabled (r : Requirements) : Bool := r.l3 || r.l4 || r.l5 || r.l6

/-- `Values`: local expected values or observed peer values. -/
structure Values where
  service : GoString := []
  tenant : GoString := []
  deployment : GoString := []
  environment : GoString := []
  workload : GoString := []
  agent : GoString := []
  agentPublicKey : GoString := []
  computationID : GoString := []
  taskID : GoString := []
  threadID : GoString := []
  delegationID : GoString := []
  intentRef : GoString := []
  capabilityRef : GoString := []
  ontologyID : GoString := []
  scopes : List GoString := []
  resources : List GoString := []
  authorizationDetails : List GoString := []
  deriving Repr, DecidableEq

/-- `Binding`: ties an observed identity assertion to the accepted TLS session. -/
structure Binding where
  leafPublicKeySHA256 : GoString := []
  tlsExporterSHA256 : GoString := []
  requestContextSHA256 : GoString := []
  attestationBinderSHA256 : GoString := []
  nonce : GoString := []
  issuedAt : Time := 0
  expiresAt : Time := 0
  deriving Repr, DecidableEq

/-- `Assertion`: observed identity values plus their session binding. -/
structure Assertion where
  issuer : GoString := []
  values : Values := {}
  binding : Binding := {}
  deriving Repr, DecidableEq

def modeDefault : GoString := []

def modeDisabled : GoString := lit "disabled"

def modeRequired : GoString := lit "required"

def setModeDefault : GoString := []

def setModeContainsAll : GoString := lit "contains_all"

def setModeExact : GoString := lit "exact"

def maxValueLength : Nat := 1024

def maxSetValues : Nat := 128

/-- `Policy`. The two modes are open strings in the source, and stay so here. -/
structure Policy where
  mode : GoString := modeDefault
  setMode : GoString := setModeDefault
  require : Requirements := {}
  expected : Values := {}

namespace Policy

/-- `Policy.Enabled`. A mode the package does not know counts as disabled. -/
def enabled (p : Policy) : Bool :=
  if p.mode = modeDisabled then false
  else if p.mode = modeRequired then true
  else if p.mode = modeDefault then p.require.enabled
  else false

def validateMode (p : Policy) : Option Sentinel :=
  if p.mode ≠ modeDefault ∧ p.mode ≠ modeDisabled ∧ p.mode ≠ modeRequired then
    some .invalidMode
  else if p.setMode ≠ setModeDefault ∧ p.setMode ≠ setModeContainsAll
      ∧ p.setMode ≠ setModeExact then
    some .invalidMode
  else none

/-- `Policy.setMode`: the default is exact matching. -/
def effectiveSetMode (p : Policy) : GoString :=
  if p.setMode = setModeDefault then setModeExact else p.setMode

end Policy

/-! ### Checks of one value -/

/-- Does the text contain a control rune, `<` or `>`? -/
def hasUnsafeRune : GoString → Bool
  | [] => false
  | a :: s => startsWithControl (a :: s) || a == 0x3c || a == 0x3e || hasUnsafeRune s

def isUnsafe (value : GoString) : Bool := !validString value || hasUnsafeRune value

def validateValue (value : GoString) : Option Sentinel :=
  if value.length > maxValueLength then some .valueTooLong
  else if isUnsafe value then some .unsafeValue
  else none

/-- `validateReferenceValue`: a printable ASCII value with a namespace separator
that is neither its first nor its last byte. -/
def validateReferenceValue (value : GoString) : Option Sentinel :=
  match validateValue value with
  | some e => some e
  | none =>
    if value.any (fun r => r < 0x21 || r > 0x7e) then some .unsafeValue
    else if !value.contains 0x3a || value.head? == some 0x3a || value.getLast? == some 0x3a then
      some .unsafeValue
    else none

/-- `validateFieldValue`: the reference fields have a stricter grammar. -/
def validateFieldValue : Field → GoString → Option Sentinel
  | .intentRef | .capabilityRef | .ontologyID => validateReferenceValue
  | _ => validateValue

/-- The check that a binding field makes of each of its two values. -/
def validateBindingValue (value : GoString) : Option Sentinel :=
  if isUnsafe value then some .unsafeValue else none

/-! ### Checks of one field -/

/-- One round of the loops of `validateExactLayer`, `validateL6` and
`validateBinding`: a blank expected value is skipped, otherwise both values must
pass `check` and be equal. `missing` is the error for a blank observed value. -/
def checkField (layer : Layer) (missing : Sentinel) (check : GoString → Option Sentinel)
    (name : Field) (want got : GoString) : List ValidationError :=
  if isBlank want then []
  else match check want with
    | some e => [⟨layer, name, e⟩]
    | none =>
      if isBlank got then [⟨layer, name, missing⟩]
      else match check got with
        | some e => [⟨layer, name, e⟩]
        | none => if got ≠ want then [⟨layer, name, .mismatch⟩] else []

/-- The source's `field`: a field name with its accessor. -/
structure FieldSpec where
  name : Field
  get : Values → GoString

def fieldsL3 : List FieldSpec :=
  [⟨.service, Values.service⟩, ⟨.tenant, Values.tenant⟩, ⟨.deployment, Values.deployment⟩,
    ⟨.environment, Values.environment⟩]

def fieldsL4 : List FieldSpec :=
  [⟨.workload, Values.workload⟩, ⟨.agent, Values.agent⟩, ⟨.agentPublicKey, Values.agentPublicKey⟩]

def fieldsL5 : List FieldSpec :=
  [⟨.computationID, Values.computationID⟩, ⟨.taskID, Values.taskID⟩,
    ⟨.threadID, Values.threadID⟩, ⟨.delegationID, Values.delegationID⟩,
    ⟨.intentRef, Values.intentRef⟩]

def fieldsL6 : List FieldSpec :=
  [⟨.capabilityRef, Values.capabilityRef⟩, ⟨.ontologyID, Values.ontologyID⟩]

/-- Is some field of the list expected, that is, not blank? -/
def hasExpected (expected : Values) (fields : List FieldSpec) : Bool :=
  fields.any fun f => !isBlank (f.get expected)

def validateExactLayer (layer : Layer) (expected observed : Values)
    (fields : List FieldSpec) : List ValidationError :=
  if !hasExpected expected fields then [⟨layer, .all, .missingExpected⟩]
  else fields.flatMap fun f =>
    checkField layer .missingObserved (validateFieldValue f.name) f.name
      (f.get expected) (f.get observed)

/-! ### Set-valued fields -/

/-- The loop over the values of a set: blank values are an error in an expected
set (`emptyErr = missingExpected`) and skipped in an observed one. -/
def collectSet (emptyErr : Sentinel) : List GoString → Except Sentinel (Finset GoString)
  | [] => .ok ∅
  | value :: values =>
    if isBlank value then
      if emptyErr = .missingExpected then .error emptyErr else collectSet emptyErr values
    else match validateValue value with
      | some e => .error e
      | none => (collectSet emptyErr values).map (insert value)

def validatedSet (values : List GoString) (emptyErr : Sentinel) :
    Except Sentinel (Finset GoString) :=
  if values.length > maxSetValues then .error .tooManyValues
  else match collectSet emptyErr values with
    | .error e => .error e
    | .ok set => if set.card = 0 then .error emptyErr else .ok set

def requireExactSet (expected observed : List GoString) : Option Sentinel :=
  match validatedSet expected .missingExpected with
  | .error e => some e
  | .ok expectedSet =>
    match validatedSet observed .missingObserved with
    | .error e => some e
    | .ok observedSet =>
      if expectedSet.card ≠ observedSet.card then some .mismatch
      else if ∃ value ∈ expectedSet, value ∉ observedSet then some .mismatch
      else none

/-- The loop of `requireContainsAll` over the expected values. -/
def checkExpectedValues : List GoString → Option Sentinel
  | [] => none
  | value :: values =>
    if isBlank value then some .missingExpected
    else match validateValue value with
      | some e => some e
      | none => checkExpectedValues values

def requireContainsAll (expected observed : List GoString) : Option Sentinel :=
  if expected.length > maxSetValues ∨ observed.length > maxSetValues then some .tooManyValues
  else match checkExpectedValues expected with
    | some e => some e
    | none =>
      match collectSet .missingObserved observed with
      | .error e => some e
      | .ok seen =>
        if seen.card = 0 then some .missingObserved
        else if ∃ value ∈ expected, value ∉ seen then some .mismatch
        else none

def validateSet (layer : Layer) (field : Field) (expected observed : List GoString)
    (setMode : GoString) : List ValidationError :=
  report layer field <|
    if setMode = setModeDefault ∨ setMode = setModeExact then requireExactSet expected observed
    else if setMode = setModeContainsAll then requireContainsAll expected observed
    else some .invalidMode

/-- A set-valued field name with its accessor. -/
structure SetSpec where
  name : Field
  get : Values → List GoString

def setsL6 : List SetSpec :=
  [⟨.scopes, Values.scopes⟩, ⟨.resources, Values.resources⟩,
    ⟨.authorizationDetails, Values.authorizationDetails⟩]

def validateL6 (expected observed : Values) (setMode : GoString) : List ValidationError :=
  if !(setsL6.any (fun s => !(s.get expected).isEmpty) || hasExpected expected fieldsL6) then
    [⟨.l6, .all, .missingExpected⟩]
  else
    (setsL6.flatMap fun s =>
      if (s.get expected).isEmpty then []
      else validateSet .l6 s.name (s.get expected) (s.get observed) setMode)
    ++ fieldsL6.flatMap fun f =>
      checkField .l6 .missingObserved validateReferenceValue f.name
        (f.get expected) (f.get observed)

/-! ### Whole policies and assertions -/

/-- `Validate`: the errors of the mode and of every required layer. -/
def validate (policy : Policy) (observed : Values) : List ValidationError :=
  report .policy .mode policy.validateMode
  ++ (if policy.mode = modeRequired ∧ !policy.require.enabled then
      [⟨.policy, .all, .missingExpected⟩] else [])
  ++ (if policy.require.l3 then validateExactLayer .l3 policy.expected observed fieldsL3 else [])
  ++ (if policy.require.l4 then validateExactLayer .l4 policy.expected observed fieldsL4 else [])
  ++ (if policy.require.l5 then validateExactLayer .l5 policy.expected observed fieldsL5 else [])
  ++ (if policy.require.l6 then
      validateL6 policy.expected observed policy.effectiveSetMode else [])

/-- A string field of a session binding with its accessor. -/
structure BindingSpec where
  name : Field
  get : Binding → GoString

/-- The string fields `validateBinding` compares. -/
def bindingFields : List BindingSpec :=
  [⟨.leafPublicKeyHash, Binding.leafPublicKeySHA256⟩, ⟨.tlsExporterHash, Binding.tlsExporterSHA256⟩,
    ⟨.requestContextHash, Binding.requestContextSHA256⟩,
    ⟨.attestationBinderHash, Binding.attestationBinderSHA256⟩,
    ⟨.nonce, Binding.nonce⟩]

/-- The two time checks shared by assertions, grants and statements. A zero `now`
switches them off, except that an expiry must always be given; `missing` is the
error for one that is not. -/
def lifetimeErrors (layer : Layer) (missing : Sentinel) (issuedAt expiresAt now : Time) :
    List ValidationError :=
  (if expiresAt.isZero then [⟨layer, .expiresAt, missing⟩]
    else if !now.isZero && now.after expiresAt then [⟨layer, .expiresAt, .expiredAssertion⟩]
    else [])
  ++ (if !issuedAt.isZero && !now.isZero && issuedAt.after now then
      [⟨layer, .issuedAt, .futureAssertion⟩] else [])

def validateBinding (observed expected : Binding) (now : Time) : List ValidationError :=
  (bindingFields.flatMap fun f =>
    checkField .binding .missingBinding validateBindingValue f.name
      (f.get expected) (f.get observed))
  ++ (if bindingFields.any (fun f => !isBlank (f.get expected)) then []
      else [⟨.binding, .all, .missingExpected⟩])
  ++ lifetimeErrors .binding .missingBinding observed.issuedAt observed.expiresAt now

def validateAssertion (policy : Policy) (assertion : Assertion) (expectedBinding : Binding)
    (now : Time) : List ValidationError :=
  validateBinding assertion.binding expectedBinding now ++ validate policy assertion.values

end SecureBinding.IdentityPolicy
