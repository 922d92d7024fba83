import SecureBinding.JWT.Duplicates
import SecureBinding.IdentityPolicy.SessionBinding

/-!
# Token.Keys

What the token verifiers of `pkg/clients` and `pkg/agtp` share: their errors and
their tables of verification keys.

The packages have the same sets of sentinel errors under the same names, with texts
of their own; `pkg/agtp` has some more. A key is found by the key id of a token's
header. All tables are keyed by the trimmed id and are looked up by the trimmed id;
the packages differ in the spelling of the id they pass on to a caller's own
`KeyFunc`.
-/

namespace SecureBinding.Token

open Go

/-! ### Errors -/

/-- The sentinel errors of the two packages, `ErrMissingKeyFunc` and so on. -/
inductive Err
  | missingKeyFunc
  | missingLocalKey
  | missingValidMethods
  | missingExpectedIssuer
  | missingExpectedAudience
  | missingConfirmationKey
  | missingKeyID
  | unknownKeyID
  | disabledKeyID
  | duplicateKeyID
  | ambiguousKeySource
  | missingJWTID
  | revokedJWTID
  | missingSubject
  | missingIdentityGrant
  | missingGrantHash
  | missingBindingField
  | missingIdentityPolicy
  | missingReplayCache
  | invalidTokenType
  | unsupportedVersion
  | unsafeSigningMethod
  | duplicateJWTMember
  | missingCOSEAlgorithms
  | unsafeCOSEAlgorithm
  | unprotectedKeyID
  | missingCWTID
  | revokedCWTID
  | invalidIssuer
  | invalidAudience
  | missingExpiration
  | missingIssuedAt
  | expiredToken
  | futureToken
  deriving Repr, DecidableEq

/-- Any error of a verifier. -/
inductive VerifyError
  | sentinel (e : Err)
  /-- The duplicate scanner found the token malformed. -/
  | scan (e : JWT.ScanError)
  /-- The token library's error, wrapped. -/
  | library (text : String)
  /-- The error of a caller's own key function. -/
  | keyFunc (text : String)
  /-- An error of the identity policy. -/
  | policy (e : IdentityPolicy.Error)
  deriving Repr, DecidableEq

/-- The error of the duplicate scanner as the verifiers return it. -/
def ofScan : JWT.ScanError → VerifyError
  | .duplicateMember => .sentinel .duplicateJWTMember
  | e => .scan e

/-- `if !cond { return err }`. -/
def require (cond : Bool) (err : Err) : Except VerifyError Unit :=
  if cond then .ok () else .error (.sentinel err)

theorem require_ok_iff {cond : Bool} {err : Err} {u : Unit} :
    require cond err = .ok u ↔ cond = true := by
  unfold require
  split <;> simp_all

/-! ### Sets of strings -/

/-- `set` of `pkg/clients`, `stringSet` of `pkg/agtp`: the trimmed values that are not
empty. -/
def stringSet (values : List GoString) : List GoString :=
  (values.map trimSpace).filter fun value => value ≠ []

/-- `listed` of `pkg/clients`, `isListed` of `pkg/agtp`. -/
def isListed (value : GoString) (values : List GoString) : Bool :=
  (stringSet values).contains (trimSpace value)

/-- `withSpaceSeparatedValues` of `pkg/clients`, `appendScopeValues` of `pkg/agtp`. -/
def appendScopeValues (values : List GoString) (spaceSeparated : GoString) : List GoString :=
  if isBlank spaceSeparated then values else values ++ fields spaceSeparated

/-! ### Keys -/

/-- `LocalKey`, `CWTLocalKey`; a nil key is `none`. -/
structure LocalKey (Key : Type) where
  keyID : GoString
  key : Option Key
  disabled : Bool := false

/-- `KeyFunc`, `CWTKeyFunc`. -/
abbrev KeyFunc (Key : Type) := GoString → Except VerifyError Key

/-- Where a verifier's options take its keys from. -/
structure KeySource (Key : Type) where
  keyFunc : Option (KeyFunc Key) := none
  localKeys : List (LocalKey Key) := []
  disabledKeyIDs : List GoString := []

/-- The maps a verifier builds from its local keys. -/
structure KeyTable (Key : Type) where
  keys : List (GoString × Key) := []
  disabled : List GoString := []

section Keys

variable {Key : Type}

def addLocalKeys : List (LocalKey Key) → KeyTable Key → Except VerifyError (KeyTable Key)
  | [], table => .ok table
  | localKey :: localKeys, table =>
    let keyID := trimSpace localKey.keyID
    if keyID = [] then .error (.sentinel .missingKeyID)
    else if (table.keys.lookup keyID).isSome then .error (.sentinel .duplicateKeyID)
    else match localKey.key with
      | none => .error (.sentinel .missingLocalKey)
      | some key =>
        addLocalKeys localKeys
          { keys := (keyID, key) :: table.keys
            disabled := if localKey.disabled then keyID :: table.disabled else table.disabled }

def KeyTable.lookup (table : KeyTable Key) (keyID : GoString) : Except VerifyError Key :=
  if table.disabled.contains (trimSpace keyID) then .error (.sentinel .disabledKeyID)
  else match table.keys.lookup (trimSpace keyID) with
    | none => .error (.sentinel .unknownKeyID)
    | some key => .ok key

def KeySource.table (source : KeySource Key) : Except VerifyError (KeyTable Key) :=
  addLocalKeys source.localKeys { disabled := stringSet source.disabledKeyIDs }

/-- The key function of a source. `spell` is how the id is passed to a caller's own
key function. -/
def KeySource.resolve (source : KeySource Key) (spell : GoString → GoString) :
    Except VerifyError (KeyFunc Key) :=
  match source.keyFunc with
  | some keyFunc =>
    .ok fun keyID =>
      if (stringSet source.disabledKeyIDs).contains (trimSpace keyID) then
        .error (.sentinel .disabledKeyID)
      else keyFunc (spell keyID)
  | none => source.table.map KeyTable.lookup

end Keys

end SecureBinding.Token
