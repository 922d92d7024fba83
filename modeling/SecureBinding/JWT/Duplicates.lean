import SecureBinding.Go.Encoding
import SecureBinding.Go.Json.Decoder

/-!
# JWT.Duplicates

The duplicate-member scanner that `pkg/clients/identity_jwt.go` and
`pkg/agtp/jwt.go` run over the header and the payload of a token before they hand it
to the JWT library.

The two packages have the same recursive token walk. They differ in the error texts,
and in what happens when the walk starts at a closing delimiter: `pkg/clients` reads
one more token, `pkg/agtp` stops.
-/

namespace SecureBinding.JWT

open Go Go.Json

inductive ScanError
  | token (err : TokenError)
  | nonStringKey
  | duplicateMember
  | trailingData
  /-- The bound on the recursion of the model. -/
  | outOfFuel
  deriving Repr, DecidableEq

/-- `_, err = dec.Token(); return err`, at the end of an array or object. -/
def skipToken (d : Decoder) : Except ScanError Decoder :=
  match d.token with
  | .error e => .error (.token e)
  | .ok (_, d) => .ok d

section Scanner

variable (stray : Decoder → Except ScanError Decoder)

mutual

/-- The walk over one value. `stray` is what is done after a closing delimiter in
its place; the first argument bounds the recursion. -/
def scanValue : Nat → Decoder → Except ScanError Decoder
  | 0, _ => .error .outOfFuel
  | n + 1, d =>
    match d.token with
    | .error e => .error (.token e)
    | .ok (.openObject, d) => (scanMembers n [] d).bind skipToken
    | .ok (.openArray, d) => (scanItems n d).bind skipToken
    | .ok (.closeObject, d) => stray d
    | .ok (.closeArray, d) => stray d
    | .ok (_, d) => .ok d

def scanMembers : Nat → List GoString → Decoder → Except ScanError Decoder
  | 0, _, _ => .error .outOfFuel
  | n + 1, seen, d =>
    if d.more then
      match d.token with
      | .error e => .error (.token e)
      | .ok (.str name, d) =>
        if seen.contains name then .error .duplicateMember
        else (scanValue n d).bind (scanMembers n (name :: seen))
      | .ok _ => .error .nonStringKey
    else .ok d

def scanItems : Nat → Decoder → Except ScanError Decoder
  | 0, _ => .error .outOfFuel
  | n + 1, d => if d.more then (scanValue n d).bind (scanItems n) else .ok d

end

/-- `rejectDuplicateJSONMembers`: one value and nothing after it. -/
def scanText (text : Bytes) : Except ScanError Unit :=
  match scanValue stray (2 * (lex text).length + 1) (newDecoder text) with
  | .error e => .error e
  | .ok d =>
    match d.token with
    | .error .eof => .ok ()
    | .error e => .error (.token e)
    | .ok _ => .error .trailingData

/-- The loop over the first two parts of a token. A part that is not base64 ends it
without an error. -/
def scanParts : List GoString → Except ScanError Unit
  | [] => .ok ()
  | part :: parts =>
    match base64RawURLDecode part with
    | none => .ok ()
    | some text =>
      match scanText stray text with
      | .error e => .error e
      | .ok _ => scanParts parts

def scanToken (tokenString : GoString) : Except ScanError Unit :=
  match split 0x2e tokenString with
  | [header, payload, _] => scanParts stray [header, payload]
  | _ => .ok ()

end Scanner

/-- `rejectDuplicateJWTMembers` of `pkg/clients`, with `rejectDuplicateJSONMembers` and
`rejectDuplicateJSONObjectMembers`. -/
def rejectDuplicateJWTMembers (tokenString : GoString) : Except ScanError Unit :=
  scanToken skipToken tokenString

/-- `rejectDuplicateJWTJSONMembers` of `pkg/agtp`, with `rejectDuplicateJSONMembers` and
`rejectDuplicateJSONValue`. -/
def rejectDuplicateJWTJSONMembers (tokenString : GoString) : Except ScanError Unit :=
  scanToken .ok tokenString

end SecureBinding.JWT
