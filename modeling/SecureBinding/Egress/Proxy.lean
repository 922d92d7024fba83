import SecureBinding.Runtime.Netguard

/-!
# Egress.Proxy

The egress proxy (`pkg/egress/proxy.go`): its policy, and what it dials.

* An entry of the allowlist is a network, a host with a port, or a host (`Entry`); the policy
  permits what one of them covers (`allowed_iff`).
* The policy decides on the host and the port that `destinationParts` reads from the target of a
  request (`Reads`). What is dialled is read from the same text again, by `net.Dial` or by
  `net/http`, and the two readings differ for some forms of targets (`Misread`).

A host is compared in the form that the policy gives it: in lower case, without brackets.
-/

namespace SecureBinding.Egress

open Go Go.Net Netguard
open Lib (cutLast cutLast_eq_some_iff cutLast_append_cons)

/-- What is used of Go's libraries: `strings.ToLower` outside ASCII, and `netip.Prefix`. -/
structure Library (P : Type) where
  unicodeLower : GoString → GoString
  lower_lower : ∀ s, toLower unicodeLower (toLower unicodeLower s) = toLower unicodeLower s
  lower_trim : ∀ s, toLower unicodeLower (trimCutset brackets s) =
    trimCutset brackets (toLower unicodeLower s)
  parsePrefix : GoString → Option P
  /-- `netip.PrefixFrom(addr, addr.BitLen())`. -/
  prefixFrom : Addr → P
  contains : P → Addr → Bool

variable {P : Type} (lib : Library P)

/-- `strings.Trim(strings.ToLower(host), "[]")`. -/
def normalize (host : GoString) : GoString := trimCutset brackets (toLower lib.unicodeLower host)

/-! ### The policy -/

/-- What an entry of the allowlist lists. -/
inductive Entry (P : Type)
  | net (p : P)
  | hostPort (host port : GoString)
  | host (name : GoString)

/-- What `add` takes an entry for. An address is a network of its own. -/
def readEntry (entry : GoString) : Option (Entry P) :=
  let entry := trimSpace (toLower lib.unicodeLower entry)
  if entry = [] then none
  else
    match lib.parsePrefix entry with
    | some p => some (.net p)
    | none =>
      match parseAddr (trimCutset brackets entry) with
      | some addr => some (.net (lib.prefixFrom addr))
      | none =>
        match splitHostPort entry with
        | .ok (host, port) => some (.hostPort (normalize lib host) port)
        | .error _ => some (.host (trimCutset brackets entry))

structure DestinationPolicy (P : Type) where
  allowLoopback : Bool
  hosts : List GoString := []
  /-- The joined strings of the source, by their parts. -/
  hostPorts : List (GoString × GoString) := []
  prefixes : List P := []

def DestinationPolicy.add (p : DestinationPolicy P) (entry : GoString) : DestinationPolicy P :=
  match readEntry lib entry with
  | none => p
  | some (.net pre) => { p with prefixes := p.prefixes ++ [pre] }
  | some (.hostPort host port) => { p with hostPorts := (host, port) :: p.hostPorts }
  | some (.host name) => { p with hosts := name :: p.hosts }

def newDestinationPolicy (entries : List GoString) : DestinationPolicy P :=
  entries.foldl (DestinationPolicy.add lib) { allowLoopback := true }

def DestinationPolicy.allowed (p : DestinationPolicy P) (host port : GoString) : Bool :=
  let host := normalize lib host
  if host = lit "localhost" ∧ p.allowLoopback = true then true
  else if (host, port) ∈ p.hostPorts then true
  else if host ∈ p.hosts then true
  else
    match parseAddr host with
    | none => false
    | some addr =>
      if isLoopback addr.as16 = true ∧ p.allowLoopback = true then true
      else p.prefixes.any fun pre => lib.contains pre addr

/-! ### Requests -/

/-- A request, by what its destination is read from. -/
structure Request where
  method : GoString
  protoMajor : Nat := 1
  scheme : GoString := []
  urlHost : GoString := []
  host : GoString

def defaultPort (scheme : GoString) : GoString :=
  if toLower lib.unicodeLower scheme = lit "https" then lit "443" else lit "80"

/-- The end of `destinationParts`. -/
def checkedParts (scheme host port : GoString) : Option (GoString × GoString) :=
  let host := normalize lib host
  if host = [] then none else some (host, if port = [] then defaultPort lib scheme else port)

def destinationParts (target scheme : GoString) : Option (GoString × GoString) :=
  if target = [] then none
  else
    match splitHostPort target with
    | .ok (host, port) => checkedParts lib scheme host port
    | .error reason =>
      -- The text of the error holds the target.
      if contains (lit "address " ++ target ++ lit ": " ++ lit reason)
          (lit "missing port in address") then
        checkedParts lib scheme (trimCutset brackets target) (defaultPort lib scheme)
      else none

def allowDestination (p : DestinationPolicy P) (target scheme : GoString) : Bool :=
  match destinationParts lib target scheme with
  | none => false
  | some (host, port) => p.allowed lib host port

/-- `net.Dial`: the host and the port that are connected to. -/
def dial (address : GoString) : Option (GoString × GoString) :=
  match splitHostPort address with
  | .ok (host, port) => some (host, if port = [] then lit "0" else port)
  | .error _ => none

/-- `URL.Port`, of the host of a URL. -/
def urlPort (host : GoString) : GoString :=
  match cutLast colon host with
  | some (_, port) => if port.all isDigit then port else []
  | none => []

/-- What `net/http` dials: the transport knows two schemes, and their ports. -/
def roundTrip (scheme host : GoString) : Option (GoString × GoString) :=
  let port := fun default => if urlPort host = [] then default else urlPort host
  if scheme = lit "http" then some (Url.URL.hostname { host }, port (lit "80"))
  else if scheme = lit "https" then some (Url.URL.hostname { host }, port (lit "443"))
  else none

/-- The scheme and the host of `outboundURL`. -/
def outboundURL (r : Request) : GoString × GoString :=
  (if r.scheme = [] then lit "http" else r.scheme, if r.urlHost = [] then r.host else r.urlHost)

/-- The connection that `handleConnect` opens. -/
def handleConnect (p : DestinationPolicy P) (r : Request) : Option (GoString × GoString) :=
  if allowDestination lib p r.host (lit "https") then dial r.host else none

/-- The connection that `handleHTTP` opens. -/
def handleHTTP (p : DestinationPolicy P) (r : Request) : Option (GoString × GoString) :=
  if allowDestination lib p (outboundURL r).2 (outboundURL r).1 then
    roundTrip (outboundURL r).1 (outboundURL r).2
  else none

/-- The connection that `handleHTTP2` opens; only what is forwarded differs. -/
def handleHTTP2 (p : DestinationPolicy P) (r : Request) : Option (GoString × GoString) :=
  handleHTTP lib p r

def handle (p : DestinationPolicy P) (r : Request) : Option (GoString × GoString) :=
  if r.method = lit "CONNECT" then handleConnect lib p r
  else if r.protoMajor = 2 then handleHTTP2 lib p r
  else handleHTTP lib p r

/-! ### What the allowlist says -/

/-- The entry covers a host, which has its normal form, and a port. -/
def Entry.Covers (host port : GoString) : Entry P → Prop
  | net p => ∃ addr, parseAddr host = some addr ∧ lib.contains p addr = true
  | hostPort h p => h = host ∧ p = port
  | .host h => h = host

/-- The allowlist permits a host, which has its normal form, and a port. -/
def Permits (entries : List GoString) (host port : GoString) : Prop :=
  host = lit "localhost" ∨ (∃ addr, parseAddr host = some addr ∧ isLoopback addr.as16 = true) ∨
    ∃ entry ∈ entries, ∃ e, readEntry lib entry = some e ∧ e.Covers lib host port

/-- What the policy lists covers the host and the port. -/
def Listed (p : DestinationPolicy P) (host port : GoString) : Prop :=
  (host, port) ∈ p.hostPorts ∨ host ∈ p.hosts ∨
    ∃ addr, parseAddr host = some addr ∧ ∃ pre ∈ p.prefixes, lib.contains pre addr = true

variable {lib} {entries : List GoString} {host port : GoString}

theorem listed_add {p : DestinationPolicy P} {entry : GoString} :
    Listed lib (p.add lib entry) host port ↔
      Listed lib p host port ∨ ∃ e, readEntry lib entry = some e ∧ e.Covers lib host port := by
  unfold DestinationPolicy.add
  cases h : readEntry lib entry with
  | none => simp
  | some e => cases e <;> simp [Listed, Entry.Covers] <;> grind

theorem listed_newDestinationPolicy : Listed lib (newDestinationPolicy lib entries) host port ↔
    ∃ entry ∈ entries, ∃ e, readEntry lib entry = some e ∧ e.Covers lib host port := by
  have hfold : ∀ p : DestinationPolicy P,
      Listed lib (entries.foldl (DestinationPolicy.add lib) p) host port ↔ Listed lib p host port ∨
        ∃ entry ∈ entries, ∃ e, readEntry lib entry = some e ∧ e.Covers lib host port := by
    induction entries with
    | nil => simp
    | cons entry entries ih =>
      intro p
      rw [List.foldl_cons, ih, listed_add, List.exists_mem_cons_iff, or_assoc]
  rw [newDestinationPolicy, hfold]
  simp [Listed]

theorem allowLoopback_newDestinationPolicy :
    (newDestinationPolicy lib entries).allowLoopback = true := by
  have hfold : ∀ p : DestinationPolicy P,
      (entries.foldl (DestinationPolicy.add lib) p).allowLoopback = p.allowLoopback := by
    induction entries with
    | nil => intro p; rfl
    | cons entry entries ih =>
      intro p
      rw [List.foldl_cons, ih]
      unfold DestinationPolicy.add
      split <;> rfl
  exact hfold _

/-- The policy permits what the allowlist says. -/
theorem allowed_iff : (newDestinationPolicy lib entries).allowed lib host port = true ↔
    Permits lib entries (normalize lib host) port := by
  rw [Permits, ← listed_newDestinationPolicy, Listed]
  unfold DestinationPolicy.allowed
  simp only [allowLoopback_newDestinationPolicy]
  cases parseAddr (normalize lib host) with
  | none => split <;> simp_all
  | some addr => by_cases hloc : isLoopback addr.as16 = true <;> split <;> simp_all

/-! ### Two readings of a target -/

variable (lib) in
/-- What `destinationParts` reads, before it gives the host its normal form. -/
inductive Reads (scheme target : GoString) : GoString → GoString → Prop
  | split {host port : GoString} (h : HostPort target host port) :
      Reads scheme target host (if port = [] then defaultPort lib scheme else port)
  | whole {reason : String} (h : splitHostPort target = .error reason)
      (htext : contains (lit "address " ++ target ++ lit ": " ++ lit reason)
        (lit "missing port in address") = true) :
      Reads scheme target (trimCutset brackets target) (defaultPort lib scheme)

theorem normalize_trimCutset (s : GoString) :
    normalize lib (trimCutset brackets s) = normalize lib s := by
  rw [normalize, lib.lower_trim, trimCutset_trimCutset, normalize]

theorem normalize_normalize (s : GoString) : normalize lib (normalize lib s) = normalize lib s := by
  conv_lhs => rw [normalize, normalize, lib.lower_trim, trimCutset_trimCutset, lib.lower_lower]
  rfl

theorem defaultPort_ne_nil (scheme : GoString) : defaultPort lib scheme ≠ [] := by
  unfold defaultPort
  split <;> decide

theorem allowDestination_iff {target scheme : GoString} :
    allowDestination lib (newDestinationPolicy lib entries) target scheme = true ↔
      ∃ host port, Reads lib scheme target host port ∧ normalize lib host ≠ [] ∧
        Permits lib entries (normalize lib host) port := by
  -- The parts of a destination are what it reads as, the host in its normal form.
  have hpts : ∀ {h p}, destinationParts lib target scheme = some (h, p) ↔
      ∃ host, Reads lib scheme target host p ∧ normalize lib host = h ∧ h ≠ [] := by
    intro h p
    have hchd : ∀ {host port}, checkedParts lib scheme host port = some (h, p) ↔
        normalize lib host = h ∧ h ≠ [] ∧
          p = if port = [] then defaultPort lib scheme else port := by
      intro host port
      unfold checkedParts
      split <;> grind
    have hdef := @defaultPort_ne_nil P lib scheme
    constructor
    · intro hdest
      unfold destinationParts at hdest
      split at hdest
      · cases hdest
      · split at hdest
        · rename_i host port hspl
          obtain ⟨hh, hne, rfl⟩ := hchd.mp hdest
          exact ⟨host, .split (splitHostPort_ok_iff.mp hspl), hh, hne⟩
        · rename_i reason hspl
          split at hdest
          · rename_i htext
            obtain ⟨hh, hne, rfl⟩ := hchd.mp hdest
            rw [if_neg hdef]
            exact ⟨_, .whole hspl htext, hh, hne⟩
          · cases hdest
    · rintro ⟨host, hrds, hh, hne⟩
      -- An empty target reads as an empty host, which is refused.
      have htgt : target ≠ [] := by
        rintro rfl
        cases hrds with
        | split hspl => cases splitHostPort_ok_iff.mpr hspl
        | whole _ _ => exact hne (hh ▸ rfl)
      rw [destinationParts, if_neg htgt]
      cases hrds with
      | split hspl =>
        rw [splitHostPort_ok_iff.mpr hspl]
        exact hchd.mpr ⟨hh, hne, rfl⟩
      | whole hspl htext =>
        rw [hspl]
        dsimp only
        rw [if_pos htext]
        exact hchd.mpr ⟨hh, hne, by rw [if_neg hdef]⟩
  constructor
  · intro h
    unfold allowDestination at h
    split at h
    · cases h
    · rename_i host port hdest
      obtain ⟨host', hrds, rfl, hne⟩ := hpts.mp hdest
      rw [allowed_iff, normalize_normalize] at h
      exact ⟨host', port, hrds, hne, h⟩
  · intro h
    obtain ⟨host, port, hrds, hne, hper⟩ := h
    rw [allowDestination, hpts.mpr ⟨host, hrds, rfl, hne⟩]
    rwa [allowed_iff, normalize_normalize]

theorem dial_eq_some_iff {address host port : GoString} :
    dial address = some (host, port) ↔
      ∃ p, HostPort address host p ∧ port = if p = [] then lit "0" else p := by
  unfold dial
  cases h : splitHostPort address with
  | error reason =>
    simp only [reduceCtorEq, false_iff, not_exists, not_and]
    intro p hp
    rw [splitHostPort_ok_iff.mpr hp] at h
    cases h
  | ok parts =>
    obtain ⟨h', p'⟩ := parts
    simp only [Option.some.injEq, Prod.mk.injEq]
    constructor
    · rintro ⟨rfl, rfl⟩
      exact ⟨p', splitHostPort_ok_iff.mp h, rfl⟩
    · rintro ⟨p, hp, rfl⟩
      rw [splitHostPort_ok_iff.mpr hp] at h
      cases h
      exact ⟨rfl, rfl⟩

/-- What `net/url` takes off the host of a URL that has no port. -/
def stripBrackets (x : GoString) : GoString :=
  if x.head? = some openBracket ∧ x.getLast? = some closeBracket then x.tail.dropLast else x

theorem colon_notMem_of_digits {p : GoString} (h : p.all isDigit = true) : colon ∉ p :=
  fun hmem => absurd (List.all_eq_true.mp h _ hmem) (by decide)

/-- The port of a URL is what follows the last colon, if it is a number. -/
theorem url_of_number {x p : GoString} (hp : p.all isDigit = true) :
    Url.URL.hostname { host := x ++ colon :: p } = stripBrackets x ∧
      urlPort (x ++ colon :: p) = p := by
  have hcut := @cutLast_append_cons _ _ colon x p (colon_notMem_of_digits hp)
  simp [Url.URL.hostname, urlPort, stripBrackets, hcut, hp]

theorem url_of_no_number {target : GoString}
    (h : ∀ x p, target = x ++ colon :: p → colon ∉ p → p.all isDigit = false) :
    Url.URL.hostname { host := target } = stripBrackets target ∧ urlPort target = [] := by
  unfold Url.URL.hostname urlPort stripBrackets
  cases hcut : cutLast colon target with
  | none => exact ⟨rfl, rfl⟩
  | some parts =>
    obtain ⟨heq, hcol⟩ := cutLast_eq_some_iff.mp hcut
    simp [h _ _ heq hcol]

theorem append_colon_inj {a b p q : GoString} (hp : colon ∉ p) (hq : colon ∉ q)
    (h : a ++ colon :: p = b ++ colon :: q) : a = b ∧ p = q := by
  have hcut := (cutLast_append_cons hp).symm.trans ((congrArg (cutLast colon) h).trans
    (cutLast_append_cons hq))
  simpa using hcut

theorem exists_append_of_hostPort {target : GoString} (h : HostPort target host port) :
    ∃ x, target = x ++ colon :: port ∧ stripBrackets x = host := by
  cases h with
  | plain hhost _ =>
    refine ⟨host, rfl, if_neg fun hends => ?_⟩
    exact hhost.2.1 (List.mem_of_mem_head? hends.1)
  | bracketed hhost _ =>
    refine ⟨openBracket :: (host ++ [closeBracket]), by simp, ?_⟩
    have hlast : (openBracket :: (host ++ [closeBracket])).getLast? = some closeBracket :=
      @List.getLast?_concat _ (openBracket :: host) closeBracket
    rw [stripBrackets, if_pos ⟨rfl, hlast⟩]
    simp

theorem ne_nil_of_not_digits {p : GoString} (h : p.all isDigit = false) : p ≠ [] := by
  rintro rfl
  cases h

theorem url_of_service {target : GoString} (h : HostPort target host port)
    (hport : port.all isDigit = false) :
    Url.URL.hostname { host := target } = stripBrackets target ∧ urlPort target = [] := by
  refine url_of_no_number fun x p htgt hcol => ?_
  obtain ⟨y, rfl, -⟩ := exists_append_of_hostPort h
  rwa [← (append_colon_inj h.plain_port.1 hcol htgt).2]

theorem normalize_stripBrackets (x : GoString) :
    normalize lib (stripBrackets x) = normalize lib x := by
  unfold stripBrackets
  split
  · rename_i hends
    obtain ⟨s, rfl⟩ : ∃ s, x = openBracket :: (s ++ [closeBracket]) := by
      obtain ⟨ys, rfl⟩ := List.getLast?_eq_some_iff.mp hends.2
      rcases ys with _ | ⟨a, s⟩
      · exact absurd hends.1 (by decide)
      · exact ⟨s, by rw [← Option.some.inj hends.1]; rfl⟩
    have htrim : trimCutset brackets (openBracket :: (s ++ [closeBracket])) =
        trimCutset brackets s := by
      unfold trimCutset
      rw [List.dropWhile_cons_of_pos (by decide), List.dropWhile_append]
      cases hs : s.dropWhile brackets.contains with
      | nil => rfl
      | cons a t => simp [brackets]
    rw [← normalize_trimCutset (openBracket :: _), htrim, normalize_trimCutset]
    simp
  · rfl

/-! ### Where the readings differ -/

variable (lib) in
/-- The host and the port that a request is checked for, and those that are dialled, where the two
readings differ. -/
inductive Misread (r : Request) : GoString → GoString → GoString → GoString → Prop
  /-- An empty port is that of the scheme to the policy, and 0 to `net.Dial`. -/
  | noPort {host : GoString} (hmethod : r.method = lit "CONNECT") (h : HostPort r.host host []) :
      Misread r host (lit "443") host (lit "0")
  /-- A port that is no number is part of the host to `net/url`. -/
  | service {host port : GoString} (hmethod : r.method ≠ lit "CONNECT")
      (hscheme : (outboundURL r).1 = lit "http" ∨ (outboundURL r).1 = lit "https")
      (h : HostPort (outboundURL r).2 host port) (hport : port.all isDigit = false) :
      Misread r host port (stripBrackets (outboundURL r).2) (defaultPort lib (outboundURL r).1)
  /-- A number that `SplitHostPort` does not take for a port, though it finds nothing wrong with
  the rest, is the port to `net/url`. -/
  | unseen {x p : GoString} {reason : String} (hmethod : r.method ≠ lit "CONNECT")
      (hscheme : (outboundURL r).1 = lit "http" ∨ (outboundURL r).1 = lit "https")
      (htarget : (outboundURL r).2 = x ++ colon :: p) (hp : p.all isDigit = true)
      (h : splitHostPort (outboundURL r).2 = .error reason)
      (htext : contains (lit "address " ++ (outboundURL r).2 ++ lit ": " ++ lit reason)
        (lit "missing port in address") = true) :
      Misread r (trimCutset brackets (outboundURL r).2) (defaultPort lib (outboundURL r).1)
        (stripBrackets x) (if p = [] then defaultPort lib (outboundURL r).1 else p)

/-- Every connection is to a destination that the allowlist permits. -/
def Mediated (lib : Library P) (entries : List GoString) (r : Request) : Prop :=
  ∀ host port, handle lib (newDestinationPolicy lib entries) r = some (host, port) →
    Permits lib entries (normalize lib host) port

theorem roundTrip_eq_some_iff {scheme target : GoString} :
    roundTrip scheme target = some (host, port) ↔ (scheme = lit "http" ∨ scheme = lit "https") ∧
      Url.URL.hostname { host := target } = host ∧
      (if urlPort target = [] then defaultPort lib scheme else urlPort target) = port := by
  have hhttp : defaultPort lib (lit "http") = lit "80" := rfl
  have hhttps : defaultPort lib (lit "https") = lit "443" := rfl
  unfold roundTrip
  by_cases h : scheme = lit "http"
  · simp [h, hhttp]
  · by_cases h' : scheme = lit "https"
    · simp [h', hhttps, show lit "https" ≠ lit "http" by decide]
    · simp [h, h']

/-- The connection for a URL is dialled if the policy permits what it reads. -/
theorem handleHTTP_eq_some_iff {r : Request} :
    handleHTTP lib (newDestinationPolicy lib entries) r = some (host, port) ↔
      (∃ h p, Reads lib (outboundURL r).1 (outboundURL r).2 h p ∧ normalize lib h ≠ [] ∧
        Permits lib entries (normalize lib h) p) ∧
      roundTrip (outboundURL r).1 (outboundURL r).2 = some (host, port) := by
  rw [handleHTTP, ← allowDestination_iff]
  split <;> simp_all

theorem handle_eq_handleHTTP {p : DestinationPolicy P} {r : Request}
    (h : r.method ≠ lit "CONNECT") : handle lib p r = handleHTTP lib p r := by
  rw [handle, if_neg h]
  split <;> rfl

theorem allowDestination_iff_entry {target scheme : GoString} :
    allowDestination lib (newDestinationPolicy lib entries) target scheme = true ↔
      allowDestination lib (newDestinationPolicy lib []) target scheme = true ∨ ∃ entry ∈ entries,
        allowDestination lib (newDestinationPolicy lib [entry]) target scheme = true := by
  unfold allowDestination
  cases destinationParts lib target scheme with
  | none => simp
  | some parts =>
    simp only [allowed_iff, Permits, List.not_mem_nil, List.mem_singleton]
    grind

/-- The entries do not interact, whatever their order: a connection is opened exactly if it is
without an allowlist, or with a single one of the entries. -/
theorem handle_iff_entry (r : Request) (dst : GoString × GoString) :
    handle lib (newDestinationPolicy lib entries) r = some dst ↔
      handle lib (newDestinationPolicy lib []) r = some dst ∨
        ∃ entry ∈ entries, handle lib (newDestinationPolicy lib [entry]) r = some dst := by
  by_cases hmet : r.method = lit "CONNECT"
  · simp only [handle, if_pos hmet, handleConnect, Option.ite_none_right_eq_some]
    rw [allowDestination_iff_entry]
    grind
  · simp only [handle_eq_handleHTTP hmet, handleHTTP, Option.ite_none_right_eq_some]
    rw [allowDestination_iff_entry]
    grind

/-- `CONNECT` dials a destination that the policy permits, unless the port is empty. -/
theorem mediated_connect_iff {r : Request}
    (hmet : r.method = lit "CONNECT") : Mediated lib entries r ↔
      ∀ host, HostPort r.host host [] → normalize lib host ≠ [] →
        Permits lib entries (normalize lib host) (lit "443") →
          Permits lib entries (normalize lib host) (lit "0") := by
  have hhandle : handle lib (newDestinationPolicy lib entries) r =
      handleConnect lib (newDestinationPolicy lib entries) r := if_pos hmet
  unfold Mediated
  rw [hhandle]
  constructor
  · -- Without a port 443 is checked and port 0 is dialled.
    intro h host hhost hne hper
    apply h
    have hrds : Reads lib (lit "https") r.host host (lit "443") := .split hhost
    have hall := allowDestination_iff.mpr ⟨host, _, hrds, hne, hper⟩
    rw [handleConnect, if_pos hall]
    exact dial_eq_some_iff.mpr ⟨[], hhost, rfl⟩
  · intro h host port hdial
    rw [handleConnect] at hdial
    split at hdial
    · rename_i hall
      obtain ⟨host', port', hrds, hne, hper⟩ := allowDestination_iff.mp hall
      obtain ⟨p, hhost, rfl⟩ := dial_eq_some_iff.mp hdial
      have hspl := splitHostPort_ok_iff.mpr hhost
      cases hrds with
      -- What is dialled can be split, so the policy has split it as well.
      | whole herr _ =>
        rw [hspl] at herr
        cases herr
      | split hhost' =>
        have heq := hspl.symm.trans (splitHostPort_ok_iff.mpr hhost')
        cases heq
        by_cases hp : p = []
        · subst hp
          exact h host hhost hne hper
        · rwa [if_neg hp] at hper ⊢
    · cases hdial

/-- Every connection is to a destination that the allowlist permits exactly if, for the requests
whose target is read in two ways, the allowlist permits what is dialled along with what is
checked. -/
theorem mediated_iff (entries : List GoString) (r : Request) :
    Mediated lib entries r ↔ ∀ host port host' port', Misread lib r host port host' port' →
      normalize lib host ≠ [] → Permits lib entries (normalize lib host) port →
        Permits lib entries (normalize lib host') port' := by
  by_cases hmet : r.method = lit "CONNECT"
  · rw [mediated_connect_iff hmet]
    constructor
    · rintro h host port host' port' (⟨-, hhost⟩ | ⟨hnot, -⟩ | ⟨hnot, -⟩)
      · exact h host hhost
      · exact absurd hmet hnot
      · exact absurd hmet hnot
    · intro h host hhost
      exact h host _ host _ (.noPort hmet hhost)
  · unfold Mediated
    rw [handle_eq_handleHTTP hmet]
    constructor
    · intro h host port host' port' hmis hne hper
      apply h
      rw [handleHTTP_eq_some_iff, @roundTrip_eq_some_iff P lib]
      cases hmis with
      | noPort hcon => exact absurd hcon hmet
      | service _ hsch hhost hport =>
        obtain ⟨hname, hnone⟩ := url_of_service hhost hport
        refine ⟨⟨host, port, ?_, hne, hper⟩, hsch, hname, if_pos hnone⟩
        have hrds := @Reads.split P lib (outboundURL r).1 _ _ _ hhost
        rwa [if_neg (ne_nil_of_not_digits hport)] at hrds
      | unseen _ hsch htgt hp herr htext =>
        obtain ⟨hname, hnum⟩ := htgt ▸ url_of_number hp
        exact ⟨⟨_, _, .whole herr htext, hne, hper⟩, hsch, hname, by rw [hnum]⟩
    · intro h host port hhandle
      rw [handleHTTP_eq_some_iff, @roundTrip_eq_some_iff P lib] at hhandle
      obtain ⟨⟨host', port', hrds, hne, hper⟩, hsch, rfl, rfl⟩ := hhandle
      cases hrds with
      | @split _ p hhost =>
        cases hp : p.all isDigit with
        | false =>
          obtain ⟨hname, hnone⟩ := url_of_service hhost hp
          rw [if_neg (ne_nil_of_not_digits hp)] at hper
          rw [hname, if_pos hnone]
          exact h _ _ _ _ (.service hmet hsch hhost hp) hne hper
        -- A port in digits is read alike by the policy and by the URL.
        | true =>
          obtain ⟨x, htgt, hx⟩ := exists_append_of_hostPort hhost
          obtain ⟨hname, hnum⟩ := @url_of_number x p hp
          rw [htgt, hname, hnum, hx]
          exact hper
      | whole herr htext =>
        by_cases hnum : ∃ x p, (outboundURL r).2 = x ++ colon :: p ∧ p.all isDigit = true
        · obtain ⟨x, p, htgt, hp⟩ := hnum
          have hdialled := h _ _ _ _ (.unseen hmet hsch htgt hp herr htext) hne hper
          obtain ⟨hname, hport⟩ := @url_of_number x p hp
          rwa [htgt, hname, hport]
        · -- No number behind any colon: the URL has no port, and its name is all of the target.
          have hall : ∀ x p, (outboundURL r).2 = x ++ colon :: p → colon ∉ p →
              p.all isDigit = false := by
            intro x p htgt _
            rw [Bool.eq_false_iff]
            exact fun hp => hnum ⟨x, p, htgt, hp⟩
          obtain ⟨hname, hnone⟩ := url_of_no_number hall
          rw [hname, if_pos hnone, normalize_stripBrackets]
          rwa [normalize_trimCutset] at hper

theorem asciiLower_spec (a : UInt8) : asciiLower (asciiLower a) = asciiLower a ∧
    brackets.contains (asciiLower a) = brackets.contains a := by
  obtain ⟨⟨a⟩⟩ := a
  revert a
  decide +kernel

/-- ASCII, and no networks. -/
def sampleLibrary : Library Unit where
  unicodeLower s := s.map asciiLower
  lower_lower s := by
    simp only [toLower, ite_self, List.map_map]
    exact List.map_congr_left fun a _ => (asciiLower_spec a).1
  lower_trim s := by
    have hcomp : brackets.contains ∘ asciiLower = brackets.contains :=
      funext fun a => (asciiLower_spec a).2
    simp [toLower, trimCutset, List.dropWhile_map, hcomp, ← List.map_reverse]
  parsePrefix _ := none
  prefixFrom _ := ()
  contains _ _ := false

/-- With `example.com:443` listed, `CONNECT example.com:` opens a connection to port 0. -/
theorem empty_port_is_dialled :
    handle sampleLibrary (newDestinationPolicy sampleLibrary [lit "example.com:443"])
        { method := lit "CONNECT", host := lit "example.com:" } =
      some (lit "example.com", lit "0") ∧
    ¬Permits sampleLibrary [lit "example.com:443"]
      (normalize sampleLibrary (lit "example.com")) (lit "0") := by
  rw [← allowed_iff]
  decide

end SecureBinding.Egress
