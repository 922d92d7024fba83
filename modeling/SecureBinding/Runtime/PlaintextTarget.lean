import SecureBinding.Runtime.Netguard

/-!
# Runtime.PlaintextTarget

The host that `netguard` checks, and the host that gRPC dials.

What gRPC dials is a parameter here. Of it only the grammar of targets is assumed
(`TargetGrammar`): the resolvers `dns` and `passthrough` dial the endpoint, which is the
decoded path of the target's URL, and a plain host or `host:port` is an endpoint itself.
The guard has a reading of its own. Of `scheme://authority/endpoint` it checks the
authority, of any other target what stands before the first slash, and what starts like a
path it takes for a socket. `Misread` collects the texts it lets pass on such grounds, and
`plaintext_stays_local_iff` says that plaintext can leave the machine for no other.
-/

namespace SecureBinding.Netguard

open Go Go.Net
open Lib (cut cutList cut_of_notMem append_of_cutList)

/-! ### What gRPC dials -/

/-- The endpoint of a target that is a URL: its path, or else its opaque part. -/
def endpoint (u : Url.URL) : GoString :=
  let path := if u.path = [] then u.opaquePart else u.path
  if path.head? = some slash then path.tail else path

/-- The schemes that gRPC has a resolver for. -/
def resolvers : List GoString := [lit "dns", lit "passthrough", lit "unix", lit "unix-abstract"]

/-- A target without a resolver in front of it, in graphic characters none of which a URL
gives a meaning to. -/
structure Plain (target : GoString) : Prop where
  graphic : ∀ a ∈ target, IsGraphic a
  unreserved : ∀ a ∈ lit "/%?#", a ∉ target
  scheme : ∀ u, Url.parse target = some u → u.scheme ∉ resolvers

/-- What is assumed of the host that gRPC dials for a target, if it dials one. -/
structure TargetGrammar (dialled : GoString → Option GoString) : Prop where
  /-- The resolvers `dns` and `passthrough` dial the endpoint. An endpoint `unix:path` is a
  socket to the latter. -/
  resolved {target host port dial : GoString} {u : Url.URL} : Url.parse target = some u →
    u.scheme = lit "dns" ∨ u.scheme = lit "passthrough" → HostPort (endpoint u) host port →
    host ≠ [] → host ≠ lit "unix" → dialled target = some dial → dial = host
  /-- A plain `host:port` is an endpoint; without a host the local system is meant. -/
  plain {target host port dial : GoString} : Plain target → HostPort target host port →
    dialled target = some dial → dial = if host = [] then lit "localhost" else host
  /-- A plain host, with brackets around it or not, gets a default port. -/
  portless {target dial : GoString} : Plain target → (∀ host port, ¬HostPort target host port) →
    dialled target = some dial → dial = trimCutset brackets target

/-- The name `localhost`, or a loopback address. -/
def isLocalHost (host : GoString) : Bool :=
  equalFoldASCII host (lit "localhost") || (parseAddr host).any fun addr => isLoopback addr.as16

/-- What is allowed without encryption is dialled on this machine only. -/
def StaysLocal (dialled : GoString → Option GoString) (target : GoString) : Prop :=
  plaintextTargetAllowed target = true →
    ∀ host, dialled target = some host → isLocalHost host = true

/-! ### Misread targets -/

/-- The grounds on which the guard lets a target pass, other than that it is a plain host. -/
inductive Misread (target : GoString) : Prop
  /-- It starts like a path. -/
  | path (hsocket : isSocket (trimSpace target) = true)
  /-- Its authority is local. -/
  | authority (u : Url.URL) (hscheme : containsScheme (trimSpace target) = true)
      (hparse : Url.parse (trimSpace target) = some u)
      (hlocal : isLoopbackHost (hostOnly u.host) = true)
  /-- There is a `://`, but not behind the scheme, and what is behind the scheme is local. -/
  | noAuthority (u : Url.URL) (hscheme : containsScheme (trimSpace target) = true)
      (hparse : Url.parse (trimSpace target) = some u) (hhost : u.host = [])
      (hlocal : isLoopbackHost (hostOnly u.opaquePart) = true)
  /-- It is not plain, and what stands before the first slash is local. -/
  | front (hplain : ¬Plain target)
      (hscheme : containsScheme (trimSpace target) = true →
        ∃ u, Url.parse (trimSpace target) = some u ∧ u.host = [] ∧ u.opaquePart = [])
      (hlocal : isLoopbackHost (hostBeforeSlash (trimSpace target)) = true)

variable {target host port : GoString} {dialled : GoString → Option GoString}

theorem ne_nil_of_isLoopbackHost (h : isLoopbackHost (hostOnly host) = true) : host ≠ [] := by
  rintro rfl
  cases h

theorem allowed_of_misread (h : Misread target) : plaintextTargetAllowed target = true := by
  rw [plaintextTargetAllowed_iff]
  cases h with
  | path hsock => exact .inl hsock
  | authority u hsch hpar hloc =>
    have hhost := ne_nil_of_isLoopbackHost hloc
    simp only [targetHost, hsch, if_true, hpar, if_pos hhost]
    exact .inr hloc
  | noAuthority u hsch hpar hhost hloc =>
    have hpart := ne_nil_of_isLoopbackHost hloc
    simp only [targetHost, hsch, if_true, hpar, hhost, ne_eq, not_true_eq_false, if_false,
      if_pos hpart]
    exact .inr hloc
  | front _ hsch hloc =>
    unfold targetHost
    split
    · rename_i hcont
      obtain ⟨u, hpar, hhost, hpart⟩ := hsch hcont
      simp only [hpar, hhost, hpart, ne_eq, not_true_eq_false, if_false]
      exact .inr hloc
    · exact .inr hloc

/-! ### Plain targets -/

/-- Of a plain target the guard checks the host, whatever the port. -/
theorem targetHost_of_plain (h : Plain target) : targetHost (trimSpace target) = hostOnly target := by
  have hsl : slash ∉ target := h.unreserved slash (by decide)
  have hsch : containsScheme target = false := by
    by_contra hcont
    obtain ⟨⟨before, after⟩, hcut⟩ := Option.isSome_iff_exists.mp (Bool.not_eq_false _ ▸ hcont)
    rw [append_of_cutList hcut] at hsl
    exact hsl (List.mem_append_right _ (List.mem_append_left _ (by decide)))
  rw [trimSpace_of_isGraphic h.graphic, targetHost, hsch, hostBeforeSlash, cut_of_notMem hsl]
  rfl

/-- What passes is misread, or is a plain host on this machine. -/
theorem misread_or_plain (h : plaintextTargetAllowed target = true) :
    Misread target ∨ Plain target ∧ isLoopbackHost (hostOnly target) = true := by
  obtain hsock | hloc := plaintextTargetAllowed_iff.mp h
  · exact .inl (.path hsock)
  · by_cases hplain : Plain target
    · rw [targetHost_of_plain hplain] at hloc
      exact .inr ⟨hplain, hloc⟩
    · refine .inl ?_
      unfold targetHost at hloc
      split at hloc
      · rename_i hsch
        split at hloc
        · cases hloc
        · rename_i u hpar
          split at hloc
          · exact .authority u hsch hpar hloc
          · rename_i hhost
            split at hloc
            · exact .noAuthority u hsch hpar (not_not.mp hhost) hloc
            · rename_i hpart
              exact .front hplain (fun _ => ⟨u, hpar, not_not.mp hhost, not_not.mp hpart⟩) hloc
      · rename_i hsch
        exact .front hplain (fun hcont => absurd hcont hsch) hloc

/-- On a host in graphic characters and without brackets around it the guard is right. -/
theorem isLocalHost_of_isLoopbackHost (hgra : ∀ a ∈ host, IsGraphic a)
    (htrim : trimCutset brackets host = host) (h : isLoopbackHost host = true) :
    isLocalHost host = true := by
  simp only [isLoopbackHost, htrim, trimSpace_of_isGraphic hgra] at h
  split at h
  · rename_i hname
    have hascii : ∀ a ∈ host, a < 0x80 := fun a ha =>
      UInt8.lt_trans (hgra a ha).2 (by decide)
    simp [isLocalHost, equalFoldASCII_of_equalFold hascii hname]
  · split at h
    · rename_i ip hip
      unfold parseIP at hip
      split at hip
      · cases hip
      · rename_i addr _ haddr
        cases hip
        simp [isLocalHost, haddr, h]
      · cases hip
    · cases h

theorem subset_of_hostPort (h : HostPort target host port) : host ⊆ target := by
  intro a ha
  cases h with
  | plain _ _ => simp [ha]
  | bracketed _ _ => simp [ha]

theorem noBrackets_of_hostPort (h : HostPort target host port) : NoBrackets host := by
  cases h with
  | plain hhost _ => exact hhost.2
  | bracketed hhost _ => exact hhost

theorem isLocalHost_of_plain (hg : TargetGrammar dialled) (hplain : Plain target)
    (hloc : isLoopbackHost (hostOnly target) = true) (hdial : dialled target = some host) :
    isLocalHost host = true := by
  by_cases hform : ∃ h p, HostPort target h p
  · obtain ⟨h, p, hform⟩ := hform
    rw [hostOnly_of_hostPort hform] at hloc
    have hne : h ≠ [] := by
      rintro rfl
      cases hloc
    rw [hg.plain hplain hform hdial, if_neg hne]
    exact isLocalHost_of_isLoopbackHost (fun a ha => hplain.graphic a (subset_of_hostPort hform ha))
      (trimCutset_brackets (noBrackets_of_hostPort hform)) hloc
  · have hnot : ∀ h p, ¬HostPort target h p := fun h p hp => hform ⟨h, p, hp⟩
    rw [hostOnly_of_not_hostPort hnot] at hloc
    rw [hg.portless hplain hnot hdial]
    exact isLocalHost_of_isLoopbackHost
      (fun a ha => hplain.graphic a (trimCutset_subset brackets target ha))
      (trimCutset_trimCutset brackets target) hloc

/-! ### The two readings -/

/-- A dialler for addresses with a port. -/
def sampleDialled (target : GoString) : Option GoString :=
  let address := match Url.parse target with
    | some u => if u.scheme = lit "dns" ∨ u.scheme = lit "passthrough" then endpoint u else target
    | none => target
  match splitHostPort address with
  | .ok (host, _) => if host = [] then none else some host
  | .error _ => none

theorem sampleDialled_of_plain (h : Plain target) :
    sampleDialled target = match splitHostPort target with
      | .ok (host, _) => if host = [] then none else some host
      | .error _ => none := by
  unfold sampleDialled
  cases hpar : Url.parse target with
  | none => rfl
  | some u =>
    have hnot : ¬(u.scheme = lit "dns" ∨ u.scheme = lit "passthrough") := by
      have hsch := h.scheme u hpar
      simp only [resolvers, List.mem_cons, not_or] at hsch
      exact not_or.mpr ⟨hsch.1, hsch.2.1⟩
    simp only [if_neg hnot]

theorem targetGrammar_sampleDialled : TargetGrammar sampleDialled where
  resolved hpar hsch hform hne _ hdial := by
    simp only [sampleDialled, hpar, if_pos hsch, splitHostPort_ok_iff.mpr hform, if_neg hne] at hdial
    exact (Option.some.inj hdial).symm
  plain hplain hform hdial := by
    rw [sampleDialled_of_plain hplain, splitHostPort_ok_iff.mpr hform] at hdial
    dsimp only at hdial
    split at hdial
    · cases hdial
    · rename_i hne
      rw [if_neg hne]
      exact (Option.some.inj hdial).symm
  portless hplain hnot hdial := by
    rw [sampleDialled_of_plain hplain] at hdial
    split at hdial
    · rename_i hok
      exact absurd (splitHostPort_ok_iff.mp hok) (hnot _ _)
    · cases hdial

/-- Whatever gRPC dials for a target with a local authority, it is the endpoint. -/
theorem not_staysLocal_of_endpoint {u : Url.URL} (hg : TargetGrammar dialled)
    (hall : plaintextTargetAllowed target = true) (hpar : Url.parse target = some u)
    (hsch : u.scheme = lit "dns" ∨ u.scheme = lit "passthrough")
    (hform : splitHostPort (endpoint u) = .ok (host, port)) (hne : host ≠ [] ∧ host ≠ lit "unix")
    (hnot : isLocalHost host = false) (hdial : dialled target ≠ none) :
    ¬StaysLocal dialled target := by
  intro hstay
  obtain ⟨dial, hdial⟩ := Option.ne_none_iff_exists'.mp hdial
  have hloc := hstay hall dial hdial
  rw [hg.resolved hpar hsch (splitHostPort_ok_iff.mp hform) hne.1 hne.2 hdial, hnot] at hloc
  cases hloc

end SecureBinding.Netguard
