import SecureBinding.Go.Strings

/-!
# Go.Json.Lexer

The lexical level of `encoding/json`, shared by `Unmarshal` and the token stream of
a `Decoder`.

A text is a list of lexemes. Where it goes wrong lexically the list ends with
`bad`, so that a reader of the stream sees everything before the mistake, as a
`Decoder` does. String lexemes carry the unquoted value; numbers stay as they are
written.
-/

namespace SecureBinding.Go.Json

inductive Lexeme
  | lbrace
  | rbrace
  | lbrack
  | rbrack
  | colon
  | comma
  | str (value : GoString)
  | num (raw : Bytes)
  | bool (value : Bool)
  | null
  | bad
  deriving Repr, DecidableEq

/-! ### Strings -/

def hexValue (a : UInt8) : Option Nat :=
  if 0x30 ≤ a ∧ a ≤ 0x39 then some (a.toNat - 0x30)
  else if 0x41 ≤ a ∧ a ≤ 0x46 then some (a.toNat - 0x41 + 10)
  else if 0x61 ≤ a ∧ a ≤ 0x66 then some (a.toNat - 0x61 + 10)
  else none

/-- The code unit of four hexadecimal digits. -/
def codeUnit (a b c d : UInt8) : Option Nat := do
  let a ← hexValue a
  let b ← hexValue b
  let c ← hexValue c
  let d ← hexValue d
  return ((a * 16 + b) * 16 + c) * 16 + d

/-- What the escape `\e` other than `\u` stands for. -/
def simpleEscape (e : UInt8) : Option UInt8 :=
  if e = 0x22 ∨ e = 0x5c ∨ e = 0x2f then some e
  else if e = 0x62 then some 0x08
  else if e = 0x66 then some 0x0c
  else if e = 0x6e then some 0x0a
  else if e = 0x72 then some 0x0d
  else if e = 0x74 then some 0x09
  else none

/-- The text up to the closing quote, and what follows it. -/
def scanString : Bytes → Option (Bytes × Bytes)
  | [] => none
  | a :: s =>
    if a = 0x22 then some ([], s)
    else if a = 0x5c then
      match s with
      | e :: b :: c :: d :: f :: s' =>
        if e = 0x75 then
          if (codeUnit b c d f).isSome then
            (scanString s').map fun (raw, rest) => (a :: e :: b :: c :: d :: f :: raw, rest)
          else none
        else if (simpleEscape e).isSome then
          (scanString (b :: c :: d :: f :: s')).map fun (raw, rest) => (a :: e :: raw, rest)
        else none
      | e :: s' =>
        if (simpleEscape e).isSome then
          (scanString s').map fun (raw, rest) => (a :: e :: raw, rest)
        else none
      | [] => none
    else if a < 0x20 then none
    else (scanString s).map fun (raw, rest) => (a :: raw, rest)

/-- The UTF-8 encoding of a code point below U+110000. -/
def encodeRune (r : Nat) : Bytes :=
  if r < 0x80 then [UInt8.ofNat r]
  else if r < 0x800 then [UInt8.ofNat (0xc0 + r / 64), UInt8.ofNat (0x80 + r % 64)]
  else if r < 0x10000 then
    [UInt8.ofNat (0xe0 + r / 4096), UInt8.ofNat (0x80 + r / 64 % 64), UInt8.ofNat (0x80 + r % 64)]
  else
    [UInt8.ofNat (0xf0 + r / 262144), UInt8.ofNat (0x80 + r / 4096 % 64),
      UInt8.ofNat (0x80 + r / 64 % 64), UInt8.ofNat (0x80 + r % 64)]

/-- U+FFFD, which replaces what is not valid Unicode. -/
def replacement : Bytes := [0xef, 0xbf, 0xbd]

/-- The code unit of an escape `\uXXXX` at the front. -/
def leadingUnit : Bytes → Option Nat
  | 0x5c :: 0x75 :: a :: b :: c :: d :: _ => codeUnit a b c d
  | _ => none

/-- The value of the escape `\uXXXX` with code unit `u`, `s` being what follows it,
and the number of bytes of `s` that belong to it: a surrogate pair is one rune, a
surrogate on its own is replaced. -/
def unquoteUnit (u : Nat) (s : Bytes) : Bytes × Nat :=
  if u < 0xd800 ∨ 0xe000 ≤ u then (encodeRune u, 0)
  else match leadingUnit s with
    | some v =>
      if u < 0xdc00 ∧ 0xdc00 ≤ v ∧ v < 0xe000 then
        (encodeRune (0x10000 + (u - 0xd800) * 1024 + (v - 0xdc00)), 6)
      else (replacement, 0)
    | none => (replacement, 0)

/-- `unquoteBytes` on the text between the quotes, of at most `n` characters. -/
def unquoteN : Nat → Bytes → GoString
  | 0, _ => []
  | _ + 1, [] => []
  | n + 1, a :: s =>
    if a = 0x5c then
      match leadingUnit (a :: s) with
      | some u => (unquoteUnit u (s.drop 5)).1 ++ unquoteN n (s.drop (5 + (unquoteUnit u (s.drop 5)).2))
      | none => ((s.head?.bind simpleEscape).toList) ++ unquoteN n (s.drop 1)
    else if runeLen (a :: s) = 0 then replacement ++ unquoteN n s
    else (a :: s).take (runeLen (a :: s)) ++ unquoteN n ((a :: s).drop (runeLen (a :: s)))

/-- `unquoteBytes`. -/
def unquote (raw : Bytes) : GoString := unquoteN raw.length raw

/-! ### Numbers -/

def isDigit (a : UInt8) : Bool := 0x30 ≤ a && a ≤ 0x39

/-- At least one digit. -/
def scanDigits (s : Bytes) : Option (Bytes × Bytes) :=
  if (s.takeWhile isDigit).isEmpty then none else some (s.takeWhile isDigit, s.dropWhile isDigit)

/-- The integer part: `0`, or digits that do not start with `0`. -/
def scanInteger : Bytes → Option (Bytes × Bytes)
  | 0x30 :: s => some ([0x30], s)
  | s => scanDigits s

def scanFraction : Bytes → Option (Bytes × Bytes)
  | 0x2e :: s => (scanDigits s).map fun (ds, rest) => (0x2e :: ds, rest)
  | s => some ([], s)

/-- The digits of an exponent with their optional sign. -/
def scanSigned : Bytes → Option (Bytes × Bytes)
  | 0x2b :: s => (scanDigits s).map fun (ds, rest) => (0x2b :: ds, rest)
  | 0x2d :: s => (scanDigits s).map fun (ds, rest) => (0x2d :: ds, rest)
  | s => scanDigits s

def scanExponent : Bytes → Option (Bytes × Bytes)
  | 0x65 :: s => (scanSigned s).map fun (ds, rest) => (0x65 :: ds, rest)
  | 0x45 :: s => (scanSigned s).map fun (ds, rest) => (0x45 :: ds, rest)
  | s => some ([], s)

/-- The longest number at the front, and what follows it. -/
def scanNumber (s : Bytes) : Option (Bytes × Bytes) := do
  let sign := s.takeWhile (· == 0x2d) |>.take 1
  let (int, s) ← scanInteger (s.drop sign.length)
  let (frac, s) ← scanFraction s
  let (exp, s) ← scanExponent s
  return (sign ++ int ++ frac ++ exp, s)

/-! ### Texts -/

/-- JSON white space. -/
def isSpace (a : UInt8) : Bool := a == 0x20 || a == 0x09 || a == 0x0d || a == 0x0a

/-- The lexeme that starts with the byte `a`, which is not white space, and what
follows it. -/
def lexOne (a : UInt8) (s : Bytes) : Lexeme × Bytes :=
  if a = 0x7b then (.lbrace, s)
  else if a = 0x7d then (.rbrace, s)
  else if a = 0x5b then (.lbrack, s)
  else if a = 0x5d then (.rbrack, s)
  else if a = 0x3a then (.colon, s)
  else if a = 0x2c then (.comma, s)
  else if a = 0x22 then
    match scanString s with
    | some (raw, rest) => (.str (unquote raw), rest)
    | none => (.bad, s)
  else if (a :: s).take 4 = lit "true" then (.bool true, s.drop 3)
  else if (a :: s).take 5 = lit "false" then (.bool false, s.drop 4)
  else if (a :: s).take 4 = lit "null" then (.null, s.drop 3)
  else match scanNumber (a :: s) with
    | some (raw, rest) => (.num raw, rest)
    | none => (.bad, s)

/-- The lexemes of a text of fewer than `n` bytes. -/
def lexN : Nat → Bytes → List Lexeme
  | 0, _ => []
  | n + 1, s =>
    match s.dropWhile isSpace with
    | [] => []
    | a :: rest =>
      if (lexOne a rest).1 = .bad then [.bad]
      else (lexOne a rest).1 :: lexN n (lexOne a rest).2

def lex (s : Bytes) : List Lexeme := lexN (s.length + 1) s

example : lex (lit "[\"a\\u0073\\ud83d\\ude00\", -1.5e+3 ,truex") =
    [.lbrack, .str [0x61, 0x73, 0xf0, 0x9f, 0x98, 0x80], .comma, .num (lit "-1.5e+3"), .comma,
      .bool true, .bad] := by decide +kernel

end SecureBinding.Go.Json
