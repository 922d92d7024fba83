import SecureBinding.Go.Url

/-!
# Runtime.Netguard

The model of `internal/runtime/netguard`: which hosts and targets plaintext is allowed for.
-/

namespace SecureBinding.Netguard

open Go Go.Net
open Lib (cut cutList)

/-! ### The guard -/

/-- The brackets that are trimmed off a host. -/
def brackets : GoString := [openBracket, closeBracket]

def isLoopbackHost (host : GoString) : Bool :=
  let host := trimSpace (trimCutset brackets host)
  if equalFold host (lit "localhost") then true
  else
    match parseIP host with
    | some ip => isLoopback ip
    | none => false

def plaintextBindAllowed (host : GoString) : Bool := isLoopbackHost host

def hostOnly (hostport : GoString) : GoString :=
  match splitHostPort hostport with
  | .ok (host, _) => host
  | .error _ => trimCutset brackets hostport

/-- `strings.Contains(target, "://")`. -/
def containsScheme (target : GoString) : Bool := (cutList (lit "://") target).isSome

/-- The host of `targetHost` if the target is not taken for a URL. -/
def hostBeforeSlash (target : GoString) : GoString := hostOnly (cut slash target).1

def targetHost (target : GoString) : GoString :=
  if containsScheme target then
    match Url.parse target with
    | none => []
    | some parsed =>
      if parsed.host ≠ [] then hostOnly parsed.host
      else if parsed.opaquePart ≠ [] then hostOnly parsed.opaquePart
      else hostBeforeSlash target
  else hostBeforeSlash target

/-- What `PlaintextTargetAllowed` takes for a socket. -/
def isSocket (target : GoString) : Bool :=
  (lit "unix://").isPrefixOf target || (lit "/").isPrefixOf target || (lit ".").isPrefixOf target

def plaintextTargetAllowed (target : GoString) : Bool :=
  let target := trimSpace target
  if target = [] then false
  else if isSocket target then true
  else isLoopbackHost (targetHost target)

/-! ### Hosts without brackets -/

variable {s host : GoString}

theorem notMem_brackets (h : NoBrackets s) : ∀ a ∈ s, a ∉ brackets := by
  intro a ha hmem
  simp only [brackets, List.mem_cons, List.not_mem_nil, or_false] at hmem
  obtain rfl | rfl := hmem
  · exact h.1 ha
  · exact h.2 ha

theorem trimCutset_brackets (h : NoBrackets s) : trimCutset brackets s = s := by
  have htrim := @trimCutset_append brackets [] s [] (by simp) (notMem_brackets h) (by simp)
  simpa using htrim

/-- The empty target is no exception: it is not a socket, and its host is empty. -/
theorem plaintextTargetAllowed_iff {target : GoString} :
    plaintextTargetAllowed target = true ↔ isSocket (trimSpace target) = true ∨
        isLoopbackHost (targetHost (trimSpace target)) = true := by
  unfold plaintextTargetAllowed
  dsimp only
  split
  · rename_i hnil
    rw [hnil]
    decide
  · split <;> simp [*]

/-! ### What hostOnly returns -/

theorem hostOnly_of_hostPort {hostport port : GoString} (h : HostPort hostport host port) :
    hostOnly hostport = host := by
  rw [hostOnly, splitHostPort_ok_iff.mpr h]

theorem hostOnly_of_not_hostPort {hostport : GoString}
    (h : ∀ host port, ¬HostPort hostport host port) :
    hostOnly hostport = trimCutset brackets hostport := by
  unfold hostOnly
  split
  · rename_i host port hok
    exact absurd (splitHostPort_ok_iff.mp hok) (h host port)
  · rfl

end SecureBinding.Netguard
