import SecureBinding.Go.Strings
import SecureBinding.Lib.Cut

/-!
# Go.Net

The parts of `net` and `net/netip` the program uses: `SplitHostPort` and the textual forms
of IP addresses.
-/

namespace SecureBinding.Go.Net

open Lib (cut cutLast cut_eq_some_iff cutLast_eq_some_iff cutLast_append_cons
  cut_append_cons)

/-! ### Bytes of addresses -/

/-- The byte `:`. -/
def colon : UInt8 := 0x3a

/-- The byte `[`. -/
def openBracket : UInt8 := 0x5b

/-- The byte `]`. -/
def closeBracket : UInt8 := 0x5d

/-- The byte `/`. -/
def slash : UInt8 := 0x2f

/-- The byte `.`. -/
def dot : UInt8 := 0x2e

/-- The byte `%`. -/
def percent : UInt8 := 0x25

def isDigit (a : UInt8) : Bool := 0x30 ≤ a && a ≤ 0x39

def isHexDigit (a : UInt8) : Bool :=
  isDigit a || (0x61 ≤ a && a ≤ 0x66) || (0x41 ≤ a && a ≤ 0x46)

def hexDigitValue (a : UInt8) : Nat :=
  if isDigit a then a.toNat - 0x30 else (asciiLower a).toNat - 0x61 + 10

/-! ### SplitHostPort -/

/-- The last checks of `SplitHostPort`: no bracket is left in `opened` and `closed`. -/
def checkBrackets (opened closed : GoString) (res : GoString × GoString) :
    Except String (GoString × GoString) :=
  if openBracket ∈ opened then .error "unexpected '[' in address"
  else if closeBracket ∈ closed then .error "unexpected ']' in address"
  else .ok res

/-- `SplitHostPort` on what follows the `[` at the front. -/
def splitBracketed (rest : GoString) : Except String (GoString × GoString) :=
  match cut closeBracket rest with
  | (_, none) => .error "missing ']' in address"
  | (_, some []) => .error "missing port in address"
  | (host, some (c :: port)) =>
    if c ≠ colon then .error "missing port in address"
    else if colon ∈ port then .error "too many colons in address"
    else checkBrackets rest (c :: port) (host, port)

/-- `net.SplitHostPort`: the host and the port. -/
def splitHostPort (hostport : GoString) : Except String (GoString × GoString) :=
  match cutLast colon hostport with
  | none => .error "missing port in address"
  | some (host, port) =>
    if hostport.head? = some openBracket then splitBracketed hostport.tail
    else if colon ∈ host then .error "too many colons in address"
    else checkBrackets hostport hostport (host, port)

/-- A text without brackets. -/
def NoBrackets (s : GoString) : Prop := openBracket ∉ s ∧ closeBracket ∉ s

variable {s host port : GoString}

theorem NoBrackets.of_subset {t : GoString} (h : NoBrackets t) (hs : s ⊆ t) : NoBrackets s :=
  ⟨fun hmem => h.1 (hs hmem), fun hmem => h.2 (hs hmem)⟩

/-- The two forms of an address with a port. -/
inductive HostPort : GoString → GoString → GoString → Prop
  | plain {host port : GoString} (hhost : colon ∉ host ∧ NoBrackets host)
      (hport : colon ∉ port ∧ NoBrackets port) : HostPort (host ++ colon :: port) host port
  | bracketed {host port : GoString} (hhost : NoBrackets host)
      (hport : colon ∉ port ∧ NoBrackets port) :
      HostPort (openBracket :: (host ++ closeBracket :: colon :: port)) host port

theorem HostPort.plain_port (h : HostPort s host port) : colon ∉ port ∧ NoBrackets port := by
  cases h with
  | plain _ hport | bracketed _ hport => exact hport

theorem checkBrackets_ok_iff {opened closed : GoString} {res res' : GoString × GoString} :
    checkBrackets opened closed res = .ok res' ↔
      openBracket ∉ opened ∧ closeBracket ∉ closed ∧ res = res' := by
  unfold checkBrackets
  split
  · simp_all
  · split <;> simp_all

theorem splitBracketed_ok_iff {rest : GoString} : splitBracketed rest = .ok (host, port) ↔
      rest = host ++ closeBracket :: colon :: port ∧ NoBrackets host ∧
        colon ∉ port ∧ NoBrackets port := by
  constructor
  · intro h
    unfold splitBracketed at h
    split at h
    · cases h
    · cases h
    · rename_i host' c port' hcut
      obtain ⟨hrest, hcls⟩ := cut_eq_some_iff.mp hcut
      split at h
      · cases h
      · rename_i hcol
        split at h
        · cases h
        · rename_i hport
          obtain ⟨hopen, hclo, heq⟩ := checkBrackets_ok_iff.mp h
          cases heq
          obtain rfl : c = colon := not_not.mp hcol
          rw [hrest] at hopen
          simp only [List.mem_append, List.mem_cons, not_or] at hopen hclo
          exact ⟨hrest, ⟨hopen.1, hcls⟩, hport, hopen.2.2.2, hclo.2⟩
  · intro h
    obtain ⟨rfl, ⟨hopen, hcls⟩, hport, hopen', hcls'⟩ := h
    rw [splitBracketed, cut_append_cons hcls]
    have hcol : ¬(colon ≠ colon) := not_not.mpr rfl
    simp only [if_neg hcol, if_neg hport]
    rw [checkBrackets_ok_iff]
    refine ⟨?_, ?_, rfl⟩
    · simp only [List.mem_append, List.mem_cons, not_or]
      exact ⟨hopen, by decide, by decide, hopen'⟩
    · simp only [List.mem_cons, not_or]
      exact ⟨by decide, hcls'⟩

/-- `SplitHostPort` accepts the two forms, and nothing else. -/
theorem splitHostPort_ok_iff {hostport : GoString} :
    splitHostPort hostport = .ok (host, port) ↔ HostPort hostport host port := by
  constructor
  · intro h
    unfold splitHostPort at h
    split at h
    · cases h
    · rename_i before after hcut
      obtain ⟨hspl, haft⟩ := cutLast_eq_some_iff.mp hcut
      split at h
      · rename_i hhead
        obtain ⟨rest, hcons⟩ : ∃ rest, hostport = openBracket :: rest :=
          ⟨hostport.tail, (List.cons_head?_tail hhead).symm⟩
        rw [hcons, List.tail_cons] at h
        obtain ⟨hrest, hhost, hport⟩ := splitBracketed_ok_iff.mp h
        rw [hcons, hrest]
        exact .bracketed hhost hport
      · split at h
        · cases h
        · rename_i hcol
          obtain ⟨hopen, hcls, heq⟩ := checkBrackets_ok_iff.mp h
          cases heq
          have hall : NoBrackets (host ++ colon :: port) := by
            rw [← hspl]
            exact ⟨hopen, hcls⟩
          rw [hspl]
          exact .plain ⟨hcol, hall.of_subset (List.subset_append_left _ _)⟩
            ⟨haft, hall.of_subset (List.subset_append_of_subset_right _
              (List.subset_cons_self _ _))⟩
  · intro h
    cases h with
    | plain hhost hport =>
      rw [splitHostPort, cutLast_append_cons hport.1]
      -- A plain host has no brackets, so the text does not start with one.
      have hhead : ¬((host ++ colon :: port).head? = some openBracket) := by
        intro hhead
        have hmem := List.mem_of_mem_head? hhead
        simp only [List.mem_append, List.mem_cons] at hmem
        obtain hmem | hmem | hmem := hmem
        · exact hhost.2.1 hmem
        · exact absurd hmem (by decide)
        · exact hport.2.1 hmem
      simp only [if_neg hhead, if_neg hhost.1]
      rw [checkBrackets_ok_iff]
      simp only [List.mem_append, List.mem_cons, not_or]
      exact ⟨⟨hhost.2.1, by decide, hport.2.1⟩, ⟨hhost.2.2, by decide, hport.2.2⟩, trivial⟩
    | bracketed hhost hport =>
      -- The last colon is the one behind the closing bracket.
      have hcut : cutLast colon (openBracket :: (host ++ closeBracket :: colon :: port))
          = some (openBracket :: (host ++ [closeBracket]), port) := by
        rw [cutLast_eq_some_iff]
        exact ⟨by simp, hport.1⟩
      rw [splitHostPort, hcut]
      exact splitBracketed_ok_iff.mpr ⟨rfl, hhost, hport⟩

/-! ### IP addresses -/

/-- `parseIPv4Fields` on what is left of the text: `fields` are complete, and the next one
has `digLen` digits with the value `val` so far. -/
def parseIPv4From : Bytes → Nat → Nat → GoString → Option Bytes
  | fields, val, _, [] => if fields.length < 3 then none else some (fields ++ [UInt8.ofNat val])
  | fields, val, digLen, a :: s =>
    if isDigit a then
      if digLen = 1 ∧ val = 0 then none
      else if val * 10 + (a.toNat - 0x30) > 255 then none
      else parseIPv4From fields (val * 10 + (a.toNat - 0x30)) (digLen + 1) s
    else if a = dot then
      if digLen = 0 ∨ s = [] then none
      else if fields.length = 3 then none
      else parseIPv4From (fields ++ [UInt8.ofNat val]) 0 0 s
    else none

def parseIPv4Fields (s : GoString) : Option Bytes := parseIPv4From [] 0 0 s

/-- The loop of `parseIPv6`, with `n` groups still to come: the bytes read, the position of
the ellipsis among them, and what is left of the text. -/
def parseIPv6From : Nat → Bytes → Option Nat → GoString → Option (Bytes × Option Nat × GoString)
  | 0, ip, ellipsis, s => some (ip, ellipsis, s)
  | n + 1, ip, ellipsis, s =>
    let digits := s.takeWhile isHexDigit
    let acc := digits.foldl (fun acc a => 16 * acc + hexDigitValue a) 0
    let ip' := ip ++ [UInt8.ofNat (acc / 256), UInt8.ofNat acc]
    if digits = [] ∨ digits.length > 4 then none
    else
      match s.dropWhile isHexDigit with
      | [] => some (ip', ellipsis, [])
      | c :: rest =>
        if c = dot then
          if ellipsis = none ∧ ip.length ≠ 12 ∨ ip.length + 4 > 16 then none
          else (parseIPv4Fields s).map fun fields => (ip ++ fields, ellipsis, [])
        else if c ≠ colon then none
        else
          match rest with
          | [] => none
          | d :: rest' =>
            if d ≠ colon then parseIPv6From n ip' ellipsis rest
            else if ellipsis ≠ none then none
            else if rest' = [] then some (ip', some ip'.length, [])
            else parseIPv6From n ip' (some ip'.length) rest'

/-- The end of `parseIPv6`: the ellipsis is filled with zeros. -/
def expandEllipsis (ip : Bytes) : Option Nat → Option Bytes
  | none => if ip.length < 16 then none else some ip
  | some at' =>
    if ip.length < 16 then
      some (ip.take at' ++ List.replicate (16 - ip.length) 0 ++ ip.drop at')
    else none

/-- `parseIPv6` of a text without a zone. -/
def parseIPv6 (s : GoString) : Option Bytes :=
  let res :=
    if [colon, colon].isPrefixOf s then
      if s.length = 2 then some ([], some 0, []) else parseIPv6From 8 [] (some 0) (s.drop 2)
    else parseIPv6From 8 [] none s
  match res with
  | some (ip, ellipsis, []) => expandEllipsis ip ellipsis
  | _ => none

inductive Addr
  | v4 (fields : Bytes)
  | v6 (ip : Bytes) (zone : GoString)

def parseAddr (s : GoString) : Option Addr :=
  match s.find? fun a => a == dot || a == colon || a == percent with
  | none => none
  | some c =>
    if c = dot then (parseIPv4Fields s).map .v4
    else if c = colon then
      match cut percent s with
      | (_, some []) => none
      | (addr, zone) => (parseIPv6 addr).map fun ip => .v6 ip (zone.getD [])
    else none

/-- The front of an IPv4 address in the form of 16 bytes. -/
def v4InV6Prefix : Bytes := List.replicate 10 0 ++ [0xff, 0xff]

def Addr.as16 : Addr → Bytes
  | v4 fields => v4InV6Prefix ++ fields
  | v6 ip _ => ip

/-- `net.ParseIP`, as 16 bytes. -/
def parseIP (s : GoString) : Option Bytes :=
  match parseAddr s with
  | some (.v6 _ (_ :: _)) => none
  | some addr => some addr.as16
  | none => none

/-- `IP.IsLoopback`, of 16 bytes. -/
def isLoopback (ip : Bytes) : Bool :=
  if ip.take 12 = v4InV6Prefix then ip.drop 12 |>.head? |>.any (· == 127)
  else ip == List.replicate 15 0 ++ [1]

example : (parseIP (lit "127.8.0.1")).map isLoopback = some true := by decide
example : (parseIP (lit "::ffff:127.0.0.1")).map isLoopback = some true := by decide
example : (parseIP (lit "0:0::1")).map isLoopback = some true := by decide
example : (parseIP (lit "::1%lo")) = none := by decide

end SecureBinding.Go.Net
