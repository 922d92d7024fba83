import SecureBinding.Attestation.Corimgen
import SecureBinding.Attestation.VerifyCoRIM

/-!
# Attestation.GeneratedPolicy

Options, the policy generated from them, and the reports that the verifiers accept under it.

A generated policy holds one digest, that of the measurement (`accepts_generated_iff`).
The host data, the guest policy and the launch TCB that options can set do not reach
the manifest, so a report that has the measurement is accepted whatever the other values
are (`generated_policy_enforced_iff`).
-/

namespace SecureBinding.Attestation

open Go Lib Corim Corimgen

/-! ### Constraints -/

/-- The platforms whose reports hold an SNP report. -/
inductive SnpPlatform
  | snp
  | azure

/-- The `VerifyWithCoRIM` of a platform. -/
def SnpPlatform.verifyWithCoRIM {Signer : Type} (platform : SnpPlatform) (lib : Library Signer)
    (parsers : Parsers) : Bytes → Option UnsignedCorim → Except String Unit :=
  match platform with
  | snp => Vtpm.verifyWithCoRIM lib parsers
  | azure => Azure.verifyWithCoRIM lib parsers

/-- A TCB version is at least another one in each of its eight components. -/
def tcbPartsLE (a b : Nat) : Prop := ∀ i < 8, a / 256 ^ i % 256 ≤ b / 256 ^ i % 256

instance (a b : Nat) : Decidable (tcbPartsLE a b) :=
  inferInstanceAs (Decidable (∀ i < 8, a / 256 ^ i % 256 ≤ b / 256 ^ i % 256))

/-- The report meets the constraints that the options set besides the measurement. -/
structure MeetsSet {Signer : Type} (opts : Options Signer) (r : SnpReport) : Prop where
  hostData : opts.hostData ≠ [] → hexDecode opts.hostData = .ok r.hostData
  policy : opts.policy ≠ 0 → r.policy = opts.policy
  launchTCB : opts.launchTCB ≠ 0 → tcbPartsLE opts.launchTCB r.launchTcb

/-- The report meets every constraint of the options. -/
structure Satisfies {Signer : Type} (opts : Options Signer) (r : SnpReport) : Prop extends
    MeetsSet opts r where
  measurement : hexDecode (applyDefaults opts).measurement = .ok r.measurement

/-! ### The reports a generated policy accepts -/

section Generated

variable {Signer : Type} {env : Env Signer} {uuids : UUIDs} {opts : Options Signer}
  {parsers : Parsers} {report b : Bytes} {manifest : UnsignedCorim}

/-- The generator stores this digest: it is the measurement of the options, and the CoRIM
library takes it and the CoMID it is put in. -/
structure Stores (env : Env Signer) (uuids : UUIDs) (opts : Options Signer) (digest : Bytes) :
    Prop where
  decoded : hexDecode (applyDefaults opts).measurement = .ok digest
  taken : env.lib.validHashEntry 1 digest = true
  added : ∃ c encoded, createCoMID env uuids (applyDefaults opts) = .ok c ∧
    env.lib.comidValid c = .ok () ∧ env.lib.comidToCBOR c = .ok encoded

theorem applyDefaults_platform : (applyDefaults opts).platform = opts.platform := by
  unfold applyDefaults
  split
  · rfl
  · split <;> rfl

/-- The digests of the one reference value of a policy that is not for TDX. -/
theorem referenceDigests_generated (hlib : Lawful env.lib) (hplat : opts.platform ≠ lit "tdx")
    {rv : ReferenceValue} (h : createReferenceValue env uuids (applyDefaults opts) = .ok rv) :
    ∃ digest, hexDecode (applyDefaults opts).measurement = .ok digest ∧
      referenceDigests rv = if env.lib.validHashEntry 1 digest then [digest] else [] := by
  obtain ⟨digest, main, more, hdig, hrv, hmain, hmore⟩ :=
    measurements_of_createReferenceValue hlib h
  rw [applyDefaults_platform] at hmore
  refine ⟨digest, hdig, ?_⟩
  rw [referenceDigests, hrv, hmore hplat, List.flatMap_cons, List.flatMap_nil,
    List.append_nil, hmain]
  split <;> rfl

/-- A valid reference value matches in the loops of either platform by its digests. -/
theorem matches_iff {lib : Library Signer} {rv : ReferenceValue} {measurement : Bytes}
    (hrv : lib.referenceValueValid rv = .ok ()) (hms : lib.measurementsValid rv.measurements = .ok ()) :
    (matchValid lib "vTPM" measurement rv = .ok true ↔ measurement ∈ referenceDigests rv) ∧
      (matchIfValid lib measurement rv = .ok true ↔ measurement ∈ referenceDigests rv) := by
  have hcont : (Except.ok ((referenceDigests rv).contains measurement) : Except String Bool)
      = .ok true ↔ measurement ∈ referenceDigests rv := by
    rw [Except.ok.injEq, List.contains_iff_mem]
  constructor
  · rw [matchValid, hms]
    exact hcont
  · rw [matchIfValid, hrv]
    exact hcont

theorem searchTags_nil {lib : Library Signer} {parseError : String}
    {matchValue : ReferenceValue → Except String Bool} (htags : manifest.tags = []) :
    searchTags lib parseError matchValue manifest ≠ .ok true := by
  intro h
  exact tags_ne_nil_of_searchTags h htags

/-- The manifest of a CoMID holds it if the library takes it, and nothing otherwise. -/
theorem tags_unsignedCorim {c : Comid} :
    (∃ encoded, env.lib.comidValid c = .ok () ∧ env.lib.comidToCBOR c = .ok encoded ∧
        (unsignedCorim env uuids opts c).tags = [comidTag ++ encoded]) ∨
      (¬ ∃ encoded, env.lib.comidValid c = .ok () ∧ env.lib.comidToCBOR c = .ok encoded) ∧
        (unsignedCorim env uuids opts c).tags = [] := by
  unfold unsignedCorim addComid
  cases hval : env.lib.comidValid c with
  | error e => exact .inr ⟨fun ⟨_, h, _⟩ => (nomatch h), rfl⟩
  | ok u =>
    cases henc : env.lib.comidToCBOR c with
    | error e => exact .inr ⟨fun ⟨_, _, h⟩ => (nomatch h), rfl⟩
    | ok encoded => exact .inl ⟨encoded, rfl, rfl, rfl⟩

/-- The searches of both platforms through a generated policy find the stored digest. -/
theorem search_generated_iff (hlib : Lawful env.lib) (hplat : opts.platform ≠ lit "tdx")
    (hgen : generateCoRIM env uuids opts = .ok b) (hload : parseCorim env.lib b = .ok manifest)
    (measurement : Bytes) :
    (searchValid env.lib "vTPM" measurement manifest = .ok true ↔
        Stores env uuids opts measurement) ∧
      (searchIfValid env.lib measurement manifest = .ok true ↔
        Stores env uuids opts measurement) := by
  obtain ⟨c, hc, hpar⟩ := parseCorim_of_generateCoRIM hlib hgen
  obtain rfl := Except.ok.inj (hload.symm.trans hpar)
  obtain ⟨rv, hrv, hrvs⟩ := referenceValues_of_createCoMID hc
  obtain ⟨digest, hdig, hdgs⟩ := referenceDigests_generated hlib hplat hrv
  obtain ⟨encoded, hval, henc, htags⟩ | ⟨hadd, htags⟩ :=
    @tags_unsignedCorim Signer env uuids (applyDefaults opts) c
  · have hdec := hlib.comid_roundTrip henc
    obtain ⟨hrvValid, hmsValid⟩ := hlib.valid_parts hval hrvs (List.mem_singleton.mpr rfl)
    obtain ⟨hmat, hmat'⟩ := @matches_iff Signer env.lib rv measurement hrvValid hmsValid
    have hsts : measurement ∈ referenceDigests rv ↔ Stores env uuids opts measurement := by
      rw [hdgs]
      constructor
      · intro hmem
        split at hmem
        · rename_i htak
          obtain rfl := List.mem_singleton.mp hmem
          exact ⟨hdig, htak, c, encoded, hc, hval, henc⟩
        · cases hmem
      · intro h
        obtain rfl := Except.ok.inj (hdig.symm.trans h.decoded)
        rw [if_pos h.taken]
        exact List.mem_singleton.mpr rfl
    rw [searchValid, searchIfValid, searchTags_singleton htags hdec hrvs,
      searchTags_singleton htags hdec hrvs, hmat, hmat']
    exact ⟨hsts, hsts⟩
  · have hsts : ¬ Stores env uuids opts measurement := by
      intro h
      obtain ⟨c', encoded, hc', hval, henc⟩ := h.added
      obtain rfl := Except.ok.inj (hc.symm.trans hc')
      exact hadd ⟨encoded, hval, henc⟩
    exact ⟨iff_of_false (searchTags_nil htags) hsts, iff_of_false (searchTags_nil htags) hsts⟩

/-- The only digest that a generated policy can hold is that of the measurement. -/
theorem eq_of_mem_manifestDigests (hlib : Lawful env.lib) (hplat : opts.platform ≠ lit "tdx")
    (hgen : generateCoRIM env uuids opts = .ok b) (hload : parseCorim env.lib b = .ok manifest)
    {x : Bytes} (hx : x ∈ manifestDigests env.lib manifest) :
    hexDecode (applyDefaults opts).measurement = .ok x := by
  obtain ⟨c, hc, hpar⟩ := parseCorim_of_generateCoRIM hlib hgen
  obtain rfl := Except.ok.inj (hload.symm.trans hpar)
  obtain ⟨rv, hrv, hrvs⟩ := referenceValues_of_createCoMID hc
  obtain ⟨digest, hdig, hdgs⟩ := referenceDigests_generated hlib hplat hrv
  obtain ⟨encoded, -, henc, htags⟩ | ⟨-, htags⟩ :=
    @tags_unsignedCorim Signer env uuids (applyDefaults opts) c
  · rw [manifestDigests, htags, List.flatMap_singleton,
      tagReferenceValues_comid (hlib.comid_roundTrip henc), hrvs] at hx
    simp only [Option.getD_some, List.flatMap_singleton] at hx
    rw [hdgs] at hx
    split at hx
    · obtain rfl := List.mem_singleton.mp hx
      exact hdig
    · cases hx
  · rw [manifestDigests, htags] at hx
    cases hx

/-- A generated policy accepts the reports that hold the stored digest as their measurement,
and looks at nothing else in them. -/
theorem accepts_generated_iff (hlib : Lawful env.lib) (hplat : opts.platform ≠ lit "tdx")
    (hgen : generateCoRIM env uuids opts = .ok b) (hload : parseCorim env.lib b = .ok manifest)
    (platform : SnpPlatform) :
    platform.verifyWithCoRIM env.lib parsers report (some manifest) = .ok () ↔
      ∃ snp, EmbedsSnp parsers report snp ∧ Stores env uuids opts snp.measurement := by
  cases platform with
  | snp =>
    rw [SnpPlatform.verifyWithCoRIM, vtpm_verifyWithCoRIM_ok_iff]
    exact exists_congr fun snp => and_congr_right fun _ =>
      (search_generated_iff hlib hplat hgen hload snp.measurement).1
  | azure =>
    rw [SnpPlatform.verifyWithCoRIM, azure_verifyWithCoRIM_ok_iff]
    exact exists_congr fun snp => and_congr_right fun _ =>
      (search_generated_iff hlib hplat hgen hload snp.measurement).2

theorem exists_report_of_embedsSnp {snp : SnpAttestation} (h : EmbedsSnp parsers report snp) :
    ∃ r, snp.report = some r ∧ snp.measurement = r.measurement := by
  obtain ⟨-, hne⟩ := h
  obtain ⟨_ | r⟩ := snp
  · exact absurd rfl hne
  · exact ⟨r, rfl, rfl⟩

/-- An accepted report meets every constraint of the options exactly if a report with the
stored measurement happens to meet the other constraints. -/
theorem generated_policy_enforced_iff (hlib : Lawful env.lib)
    (hplatform : opts.platform ≠ lit "tdx") (hgen : generateCoRIM env uuids opts = .ok b)
    (hload : parseCorim env.lib b = .ok manifest) (platform : SnpPlatform) :
    (platform.verifyWithCoRIM env.lib parsers report (some manifest) = .ok () →
        ∃ snp r, EmbedsSnp parsers report snp ∧ snp.report = some r ∧ Satisfies opts r) ↔
      ∀ snp r, EmbedsSnp parsers report snp → snp.report = some r →
        Stores env uuids opts r.measurement → MeetsSet opts r := by
  rw [accepts_generated_iff hlib hplatform hgen hload platform]
  constructor
  · intro h snp r hsnp hr hsts
    have hm : snp.measurement = r.measurement := by rw [SnpAttestation.measurement, hr]; rfl
    obtain ⟨snp', r', hsnp', hr', hsat⟩ := h ⟨snp, hsnp, hm ▸ hsts⟩
    obtain rfl := hsnp.unique hsnp'
    obtain rfl := Option.some.inj (hr.symm.trans hr')
    exact hsat.toMeetsSet
  · intro h hac
    obtain ⟨snp, hsnp, hsts⟩ := hac
    obtain ⟨r, hr, hm⟩ := exists_report_of_embedsSnp hsnp
    rw [hm] at hsts
    exact ⟨snp, r, hsnp, hr, h snp r hsnp hr hsts, hsts.decoded⟩

end Generated

/-! ### A policy with every option set -/

/-- Options that constrain the measurement, the host data, the policy and the launch TCB. -/
def sampleOptions : Options Unit where
  platform := lit "snp"
  measurement := hexEncode (List.replicate 32 7)
  policy := 0x30000
  hostData := hexEncode (List.replicate 32 9)
  launchTCB := 5

def sampleUUIDs : UUIDs := ⟨[1], [2], [3], [4], [5], fun _ => [6]⟩

def sampleComid : Comid where
  tagID := lit "snp-tag-02"
  referenceValues := some [⟨{ classID := [3] },
    [{ key := [4], digests := some [⟨1, List.replicate 32 7⟩] }]⟩]

def sampleManifest : UnsignedCorim where
  id := lit "snp-corim-01"
  tags := [comidTag ++ [1]]

/-- An environment whose CoRIM library knows the sample policy. -/
def sampleEnv : Env Unit := ⟨tableLibrary sampleComid sampleManifest, hexEncode, id⟩

/-- A report with the values that the sample options ask for, and one with the measurement
only. -/
def sampleReports : Parsers :=
  tableParsers
    [([1], { sevSnpAttestation := some ⟨some
        { measurement := List.replicate 32 7, hostData := List.replicate 32 9, policy := 0x30000
          launchTcb := 6 }⟩ }),
      ([2], { sevSnpAttestation := some ⟨some { measurement := List.replicate 32 7 }⟩ })] []

theorem generated_policy_enforced_sample :
    generateCoRIM sampleEnv sampleUUIDs sampleOptions = .ok [2] ∧
      parseCorim sampleEnv.lib [2] = .ok sampleManifest ∧
      ∀ platform : SnpPlatform,
        platform.verifyWithCoRIM sampleEnv.lib sampleReports [1] (some sampleManifest) = .ok () ∧
          ∃ snp r, EmbedsSnp sampleReports [1] snp ∧ snp.report = some r ∧
            Satisfies sampleOptions r := by
  have hlib : Lawful sampleEnv.lib := tableLibrary_lawful _ _
  have hgen : generateCoRIM sampleEnv sampleUUIDs sampleOptions = .ok [2] := by decide
  have hload : parseCorim sampleEnv.lib [2] = .ok sampleManifest := by decide
  refine ⟨hgen, hload, fun platform => ?_⟩
  have hac :
      platform.verifyWithCoRIM sampleEnv.lib sampleReports [1] (some sampleManifest) = .ok () := by
    cases platform <;> decide
  refine ⟨hac, (generated_policy_enforced_iff hlib (by decide) hgen hload platform).mpr
    ?_ hac⟩
  intro snp r hsnp hr _
  obtain ⟨⟨att, hatt, hatt'⟩, -⟩ := hsnp
  obtain rfl := Except.ok.inj hatt
  obtain rfl := Option.some.inj hatt'
  obtain rfl := Option.some.inj hr
  exact ⟨fun _ => by decide, fun _ => rfl, fun _ => by decide⟩

/-- The report with the measurement only is accepted: the host data, the policy and the launch
TCB that the options ask for are not enforced. -/
theorem generated_policy_drops_constraints :
    generateCoRIM sampleEnv sampleUUIDs sampleOptions = .ok [2] ∧
      parseCorim sampleEnv.lib [2] = .ok sampleManifest ∧
      ∀ platform : SnpPlatform,
        platform.verifyWithCoRIM sampleEnv.lib sampleReports [2] (some sampleManifest) = .ok () ∧
          ∀ snp r, EmbedsSnp sampleReports [2] snp → snp.report = some r →
            hexDecode sampleOptions.hostData ≠ .ok r.hostData ∧ r.policy ≠ sampleOptions.policy ∧
              ¬ tcbPartsLE sampleOptions.launchTCB r.launchTcb := by
  refine ⟨by decide, by decide, fun platform => ⟨?_, ?_⟩⟩
  · cases platform <;> decide
  · intro snp r hsnp hr
    obtain ⟨⟨att, hatt, hatt'⟩, -⟩ := hsnp
    obtain rfl := Except.ok.inj hatt
    obtain rfl := Option.some.inj hatt'
    obtain rfl := Option.some.inj hr
    exact ⟨by decide, by decide, by decide⟩

end SecureBinding.Attestation
