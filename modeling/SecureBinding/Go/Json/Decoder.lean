import SecureBinding.Go.Json.Parse

/-!
# Go.Json.Decoder

The token stream of a `json.Decoder`: the methods `Token` and `More` with the state
machine behind them. Commas and colons are checked against the state and skipped;
every other lexeme is a token.
-/

namespace SecureBinding.Go.Json

/-- `tokenState`: what the decoder expects next. -/
inductive TokenState
  | topValue
  | arrayStart
  | arrayValue
  | arrayComma
  | objectStart
  | objectKey
  | objectColon
  | objectValue
  | objectComma
  deriving Repr, DecidableEq

/-- A decoder: the rest of its input, its state, and the states of the arrays and
objects it is in. -/
structure Decoder where
  input : List Lexeme
  state : TokenState := .topValue
  stack : List TokenState := []

/-- A token; the four delimiters are tokens of their own. -/
inductive Token
  | openObject
  | closeObject
  | openArray
  | closeArray
  | str (value : GoString)
  | num (raw : Bytes)
  | bool (value : Bool)
  | null

/-- Why there is no token: the end of the input, or a mistake in it. -/
inductive TokenError
  | eof
  | syntaxError
  deriving Repr, DecidableEq

namespace TokenState

/-- `tokenValueAllowed`. -/
def valueAllowed : TokenState → Bool
  | topValue | arrayStart | arrayValue | objectValue => true
  | _ => false

/-- `tokenValueEnd`: the state after a value. -/
def valueEnd : TokenState → TokenState
  | arrayStart | arrayValue => arrayComma
  | objectValue => objectComma
  | state => state

end TokenState

def newDecoder (text : Bytes) : Decoder := ⟨lex text, .topValue, []⟩

/-- A token that is a value by itself. -/
def scalarToken (state : TokenState) (stack : List TokenState) (token : Token)
    (rest : List Lexeme) : Except TokenError (Token × Decoder) :=
  if state.valueAllowed then .ok (token, ⟨rest, state.valueEnd, stack⟩) else .error .syntaxError

/-- A token that opens an array or object. -/
def openToken (state : TokenState) (stack : List TokenState) (token : Token)
    (inner : TokenState) (rest : List Lexeme) : Except TokenError (Token × Decoder) :=
  if state.valueAllowed then .ok (token, ⟨rest, inner, state :: stack⟩) else .error .syntaxError

/-- A token that closes an array or object, in one of two states. -/
def closeToken (state : TokenState) (stack : List TokenState) (token : Token)
    (first after : TokenState) (rest : List Lexeme) : Except TokenError (Token × Decoder) :=
  if state = first ∨ state = after then
    match stack with
    | [] => .error .syntaxError
    | outer :: stack => .ok (token, ⟨rest, outer.valueEnd, stack⟩)
  else .error .syntaxError

/-- The loop of `Token`, on the rest of the input. -/
def tokenFrom (state : TokenState) (stack : List TokenState) :
    List Lexeme → Except TokenError (Token × Decoder)
  | [] => .error .eof
  | .lbrack :: rest => openToken state stack .openArray .arrayStart rest
  | .rbrack :: rest => closeToken state stack .closeArray .arrayStart .arrayComma rest
  | .lbrace :: rest => openToken state stack .openObject .objectStart rest
  | .rbrace :: rest => closeToken state stack .closeObject .objectStart .objectComma rest
  | .colon :: rest =>
    if state = .objectColon then tokenFrom .objectValue stack rest else .error .syntaxError
  | .comma :: rest =>
    if state = .arrayComma then tokenFrom .arrayValue stack rest
    else if state = .objectComma then tokenFrom .objectKey stack rest
    else .error .syntaxError
  | .str s :: rest =>
    if state = .objectStart ∨ state = .objectKey then .ok (.str s, ⟨rest, .objectColon, stack⟩)
    else scalarToken state stack (.str s) rest
  | .num raw :: rest => scalarToken state stack (.num raw) rest
  | .bool b :: rest => scalarToken state stack (.bool b) rest
  | .null :: rest => scalarToken state stack .null rest
  | .bad :: _ => .error .syntaxError

namespace Decoder

/-- `dec.Token()`. -/
def token (d : Decoder) : Except TokenError (Token × Decoder) :=
  tokenFrom d.state d.stack d.input

/-- `dec.More()`. -/
def more (d : Decoder) : Bool :=
  match d.input with
  | [] => false
  | l :: _ => l != .rbrack && l != .rbrace

/-! ### The next token, by the next lexeme -/

section Token

variable {state : TokenState} {stack : List TokenState} {rest : List Lexeme}

@[simp] theorem token_lbrack : token ⟨.lbrack :: rest, state, stack⟩ =
    openToken state stack .openArray .arrayStart rest := rfl

@[simp] theorem token_rbrack : token ⟨.rbrack :: rest, state, stack⟩ =
    closeToken state stack .closeArray .arrayStart .arrayComma rest := rfl

@[simp] theorem token_lbrace : token ⟨.lbrace :: rest, state, stack⟩ =
    openToken state stack .openObject .objectStart rest := rfl

@[simp] theorem token_rbrace : token ⟨.rbrace :: rest, state, stack⟩ =
    closeToken state stack .closeObject .objectStart .objectComma rest := rfl

@[simp] theorem token_colon : token ⟨.colon :: rest, state, stack⟩ =
    if state = .objectColon then token ⟨rest, .objectValue, stack⟩ else .error .syntaxError := rfl

@[simp] theorem token_comma : token ⟨.comma :: rest, state, stack⟩ =
    if state = .arrayComma then token ⟨rest, .arrayValue, stack⟩
    else if state = .objectComma then token ⟨rest, .objectKey, stack⟩
    else .error .syntaxError := rfl

@[simp] theorem token_str {s : GoString} : token ⟨.str s :: rest, state, stack⟩ =
    if state = .objectStart ∨ state = .objectKey then .ok (.str s, ⟨rest, .objectColon, stack⟩)
    else scalarToken state stack (.str s) rest := rfl

@[simp] theorem token_num {raw : GoString} : token ⟨.num raw :: rest, state, stack⟩ =
    scalarToken state stack (.num raw) rest := rfl

@[simp] theorem token_bool {b : Bool} : token ⟨.bool b :: rest, state, stack⟩ =
    scalarToken state stack (.bool b) rest := rfl

@[simp] theorem token_null : token ⟨.null :: rest, state, stack⟩ =
    scalarToken state stack .null rest := rfl

end Token

end Decoder

end SecureBinding.Go.Json
