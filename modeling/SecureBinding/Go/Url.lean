import SecureBinding.Go.Net

/-!
# Go.Url

`url.Parse`, as far as the scheme, the host, the opaque part and the path go. The query,
the fragment and the user are looked at only for what makes `Parse` fail.
-/

namespace SecureBinding.Go.Url

open Go.Net
open Lib (cut cutLast cutList)

/-! ### Bytes -/

def isLetter (a : UInt8) : Bool := 0x61 ≤ asciiLower a && asciiLower a ≤ 0x7a

/-- A byte of a scheme behind the first one. -/
def isSchemeByte (a : UInt8) : Bool := isLetter a || isDigit a || (lit "+-.").contains a

/-- `shouldEscape` in a host. -/
def shouldEscapeHost (a : UInt8) : Bool :=
  !(isLetter a || isDigit a || (0x22 :: lit "!$&'()*+,;=:[]<>-_.~").contains a)

/-- The part of a URL that a text belongs to. -/
inductive Encoding
  | path
  | host
  | zone
  | userPassword
  | fragment

/-- May `%` be followed by these digits? -/
def escapeAllowed (mode : Encoding) (high low : UInt8) : Bool :=
  let percentSign := high == 0x32 && low == 0x35
  let v := UInt8.ofNat (16 * hexDigitValue high + hexDigitValue low)
  match mode with
  | .host => hexDigitValue high ≥ 8 || percentSign
  | .zone => percentSign || v == 0x20 || !shouldEscapeHost v
  | _ => true

/-- May this byte stand for itself? -/
def plainAllowed (mode : Encoding) (a : UInt8) : Bool :=
  match mode with
  | .host | .zone => a ≥ 0x80 || !shouldEscapeHost a
  | _ => true

def unescape (mode : Encoding) : GoString → Option GoString
  | [] => some []
  | [a] => if a = percent || !plainAllowed mode a then none else some [a]
  | [a, b] =>
    if a = percent || b = percent || !plainAllowed mode a || !plainAllowed mode b then none
    else some [a, b]
  | a :: high :: low :: rest =>
    if a = percent then
      if isHexDigit high && isHexDigit low && escapeAllowed mode high low then
        (unescape mode rest).map fun s =>
          UInt8.ofNat (16 * hexDigitValue high + hexDigitValue low) :: s
      else none
    else if plainAllowed mode a then (unescape mode (high :: low :: rest)).map fun s => a :: s
    else none

/-! ### Authority -/

def validOptionalPort : GoString → Bool
  | [] => true
  | a :: port => a == colon && port.all isDigit

/-- The name between brackets, with the zone that `%25` sets off. -/
def unescapeLiteral (name : GoString) : Option GoString :=
  match cutList (lit "%25") name with
  | none => unescape .host name
  | some (addr, zone) => do
    let addr ← unescape .host addr
    let zone ← unescape .zone (lit "%25" ++ zone)
    return addr ++ zone

/-- `parseHost`. A host has brackets around an IPv6 address, and no colon but the one before
the port otherwise. -/
def parseHost (host : GoString) : Option GoString :=
  match cutLast openBracket host with
  | none =>
    let colonPort := match cut colon host with
      | (_, none) => []
      | (_, some port) => colon :: port
    if validOptionalPort colonPort then unescape .host host else none
  | some ([], literal) => do
    let (name, colonPort) ← cutLast closeBracket literal
    if !validOptionalPort colonPort then none
    let port ← unescape .host colonPort
    let name ← unescapeLiteral name
    match parseAddr name with
    | some (.v6 _ _) => return openBracket :: (name ++ closeBracket :: port)
    | _ => none
  | some (_ :: _, _) => none

def validUserinfo (s : GoString) : Bool :=
  s.all fun a => isLetter a || isDigit a || (lit "-._:~!$&'()*+,;=%@").contains a

/-- `parseAuthority`: the host. -/
def parseAuthority (authority : GoString) : Option GoString :=
  match cutLast 0x40 authority with
  | none => parseHost authority
  | some (userinfo, host) => do
    let host ← parseHost host
    if !validUserinfo userinfo then none
    let _ ← unescape .userPassword userinfo
    return host

/-! ### Parse -/

structure URL where
  scheme : GoString := []
  opaquePart : GoString := []
  host : GoString := []
  path : GoString := []
  deriving Repr, DecidableEq

def URL.hostname (u : URL) : GoString :=
  let host := match cutLast colon u.host with
    | some (host, port) => if port.all isDigit then host else u.host
    | none => u.host
  if host.head? = some openBracket ∧ host.getLast? = some closeBracket then
    host.tail.dropLast
  else host

/-- `getScheme`: the scheme, and what comes after its colon. -/
def getScheme (rawURL : GoString) : Option (GoString × GoString) :=
  match rawURL with
  | [] => some ([], [])
  | a :: _ =>
    if a = colon then none
    else if !isLetter a then some ([], rawURL)
    else
      match rawURL.dropWhile isSchemeByte with
      | [] => some ([], rawURL)
      | c :: rest =>
        if c = colon then some (rawURL.takeWhile isSchemeByte, rest) else some ([], rawURL)

/-- `setPath`, on a URL that has its scheme and its host. -/
def setPath (scheme host path : GoString) : Option URL :=
  (unescape .path path).map fun path => { scheme, host, path }

/-- `parse` behind the scheme and without the query. -/
def parseRest (scheme rest : GoString) : Option URL :=
  if rest.head? ≠ some slash then
    if scheme ≠ [] then some { scheme, opaquePart := rest }
    -- The first segment of a relative path must not look like a scheme.
    else if colon ∈ (cut slash rest).1 then none
    else setPath scheme [] rest
  else if (lit "//").isPrefixOf rest ∧ (scheme ≠ [] ∨ ¬(lit "///").isPrefixOf rest) then
    match cut slash (rest.drop 2) with
    | (authority, path) => do
      let host ← parseAuthority authority
      setPath scheme host (path.elim [] fun path => slash :: path)
  else setPath scheme [] rest

/-- `parse`: a URL without its fragment. -/
def parseURL (rawURL : GoString) : Option URL :=
  if rawURL.any fun a => a < 0x20 || a == 0x7f then none
  else if rawURL = lit "*" then some { path := rawURL }
  else do
    let (scheme, rest) ← getScheme rawURL
    parseRest (scheme.map asciiLower) (cut 0x3f rest).1

def parse (rawURL : GoString) : Option URL := do
  let url ← parseURL (cut 0x23 rawURL).1
  let _ ← unescape .fragment ((cut 0x23 rawURL).2.getD [])
  return url

example : parse (lit "dns://localhost:53/evil.example:443")
    = some { scheme := lit "dns", host := lit "localhost:53", path := lit "/evil.example:443" } := by
  decide

example : (parse (lit "unix://u:p@[::1%25lo]:7/a%2fb")).map URL.host = some (lit "[::1%lo]:7") := by
  decide

example : parse (lit "localhost:7001")
    = some { scheme := lit "localhost", opaquePart := lit "7001" } := by
  decide

end SecureBinding.Go.Url
