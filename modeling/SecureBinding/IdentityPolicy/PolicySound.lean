import SecureBinding.IdentityPolicy.Policy
import SecureBinding.Lib.Except

/-!
# IdentityPolicy.PolicySound

What the validators of `SecureBinding.IdentityPolicy.Policy` accept.

The abstract side states the policy in its own terms, and names what the validators find in
their tables: what a well-formed value is (`WellFormed`, `WellFormedReference`), the fields
and the sets of every layer, the modes, and that observed values *satisfy* a policy when every
required layer matches (`Satisfies`). `requirements` lists the same conditions with the pair of
a layer and a field that each is reported under. The theorems `…_eq_nil_iff` say that a
validator reports no error exactly then, so later proofs read acceptance off these structures
and never unfold the loops.
-/

namespace SecureBinding.IdentityPolicy

open Go

theorem ite_nil_eq_nil_iff {α : Type} {p : Prop} [Decidable p] {l : List α} :
    (if p then l else []) = [] ↔ (p → l = []) := by
  split <;> simp_all

@[simp] theorem report_eq_nil_iff {layer : Layer} {field : Field} {err : Option Sentinel} :
    report layer field err = [] ↔ err = none := by
  cases err <;> simp [report]

theorem ite_some_eq_none_iff {α : Type} {p : Prop} [Decidable p] {a : α} {x : Option α} :
    (if p then some a else x) = none ↔ ¬p ∧ x = none := by
  split <;> simp_all

/-! ### One field -/

/-- An expected (not blank) value is well formed and is what was observed. -/
def FieldMatches (check : GoString → Option Sentinel) (want got : GoString) : Prop :=
  isBlank want = false → check want = none ∧ got = want

theorem checkField_eq_nil_iff {layer : Layer} {missing : Sentinel}
    {check : GoString → Option Sentinel} {name : Field} {want got : GoString} :
    checkField layer missing check name want got = [] ↔ FieldMatches check want got := by
  unfold checkField FieldMatches
  by_cases hw : isBlank want = true
  · simp [hw]
  · have hw' : isBlank want = false := by simpa using hw
    cases hc : check want with
    | some e => simp [hw']
    | none =>
      simp only [hw', Bool.false_eq_true, if_false, true_and, forall_const]
      constructor
      · intro h
        split at h
        · simp at h
        · split at h
          · simp at h
          · by_contra hne
            simp [hne] at h
      · rintro rfl
        simp [hw', hc]

/-! ### Well-formed values -/

/-- At most 1024 bytes of UTF-8 without control characters and angle brackets. -/
structure WellFormed (value : GoString) : Prop where
  length : value.length ≤ 1024
  utf8 : validString value = true
  /-- Neither U+0000 to U+001F nor U+007F, -/
  noControl : ∀ a ∈ value, 0x20 ≤ a ∧ a ≠ 0x7f
  /-- nor U+0080 to U+009F, which are two bytes. -/
  noControl2 : ∀ b, [0xc2, b] <:+: value → 0xa0 ≤ b
  noAngle : 0x3c ∉ value ∧ 0x3e ∉ value

/-- A well-formed value of graphic ASCII with a colon, but none at an end. -/
structure WellFormedReference (value : GoString) : Prop extends WellFormed value where
  graphic : ∀ a ∈ value, 0x21 ≤ a ∧ a ≤ 0x7e
  namespaced : 0x3a ∈ value
  first : value.head? ≠ some 0x3a
  last : value.getLast? ≠ some 0x3a

theorem startsWithControl_eq_false_iff {a : UInt8} {s : GoString} :
    startsWithControl (a :: s) = false ↔
      (0x20 ≤ a ∧ a ≠ 0x7f) ∧ ∀ b, [0xc2, b] <+: a :: s → 0xa0 ≤ b := by
  cases s with
  | nil => simp [startsWithControl, List.cons_prefix_cons]
  | cons b s =>
    simp only [startsWithControl, Bool.or_eq_false_iff, Bool.and_eq_false_imp, beq_iff_eq,
      decide_eq_false_iff_not, beq_eq_false_iff_ne, List.cons_prefix_cons, List.nil_prefix,
      and_true, UInt8.not_lt]
    constructor
    · intro ⟨hone, htwo⟩
      exact ⟨hone, fun _ ⟨ha, hb⟩ => hb ▸ htwo ha.symm⟩
    · intro ⟨hone, htwo⟩
      exact ⟨hone, fun ha => htwo b ⟨ha.symm, rfl⟩⟩

/-- Runes that are not allowed are found wherever they start. -/
theorem hasUnsafeRune_eq_false_iff {value : GoString} : hasUnsafeRune value = false ↔
      (∀ a ∈ value, 0x20 ≤ a ∧ a ≠ 0x7f) ∧ (∀ b, [0xc2, b] <:+: value → 0xa0 ≤ b) ∧
        0x3c ∉ value ∧ 0x3e ∉ value := by
  induction value with
  | nil => simp [hasUnsafeRune]
  | cons a s ih =>
    -- A pair of bytes stands in front, or further on.
    have hinfix : (∀ b, [0xc2, b] <:+: a :: s → 0xa0 ≤ b) ↔
        (∀ b, [0xc2, b] <+: a :: s → 0xa0 ≤ b) ∧ ∀ b, [0xc2, b] <:+: s → 0xa0 ≤ b := by
      simp only [List.infix_cons_iff, or_imp, forall_and]
    rw [List.forall_mem_cons, hinfix]
    simp only [hasUnsafeRune, Bool.or_eq_false_iff, startsWithControl_eq_false_iff, ih,
      beq_eq_false_iff_ne, List.mem_cons, not_or, @eq_comm _ _ a]
    tauto

theorem isUnsafe_eq_false_iff {value : GoString} : isUnsafe value = false ↔
      validString value = true ∧ hasUnsafeRune value = false := by
  simp [isUnsafe]

theorem validateValue_eq_none_iff {value : GoString} :
    validateValue value = none ↔ WellFormed value := by
  simp only [validateValue, ite_some_eq_none_iff, Bool.not_eq_true, isUnsafe_eq_false_iff,
    hasUnsafeRune_eq_false_iff, and_true, gt_iff_lt, not_lt]
  constructor
  · intro ⟨hlen, hutf, hcontrol, hcontrol2, hangle⟩
    exact ⟨hlen, hutf, hcontrol, hcontrol2, hangle⟩
  · intro h
    exact ⟨h.length, h.utf8, h.noControl, h.noControl2, h.noAngle⟩

theorem validateReferenceValue_eq_none_iff {value : GoString} :
    validateReferenceValue value = none ↔ WellFormedReference value := by
  unfold validateReferenceValue
  cases hval : validateValue value with
  | some e =>
    simp only [reduceCtorEq, false_iff]
    intro h
    rw [validateValue_eq_none_iff.mpr h.toWellFormed] at hval
    cases hval
  | none =>
    have hwell := validateValue_eq_none_iff.mp hval
    simp only [ite_some_eq_none_iff, and_true]
    constructor
    · intro ⟨hgra, hcol⟩
      simp only [List.any_eq_true, Bool.or_eq_true, decide_eq_true_eq, not_exists, not_and,
        not_or, gt_iff_lt, UInt8.not_lt] at hgra
      simp only [Bool.or_eq_true, Bool.not_eq_true', List.contains_eq_mem,
        decide_eq_false_iff_not, beq_iff_eq, not_or, not_not] at hcol
      exact ⟨hwell, hgra, hcol.1.1, hcol.1.2, hcol.2⟩
    · intro h
      refine ⟨?_, by simp [h.namespaced, h.first, h.last]⟩
      simpa [UInt8.not_lt] using h.graphic

/-- An expected (not blank) value is well formed, and is what was observed. -/
def Matched (wellFormed : GoString → Prop) (want got : GoString) : Prop :=
  isBlank want = false → wellFormed want ∧ got = want

theorem fieldMatches_validateValue {want got : GoString} :
    FieldMatches validateValue want got = Matched WellFormed want got := by
  simp only [FieldMatches, Matched, validateValue_eq_none_iff]

theorem fieldMatches_validateReferenceValue {want got : GoString} :
    FieldMatches validateReferenceValue want got = Matched WellFormedReference want got := by
  simp only [FieldMatches, Matched, validateReferenceValue_eq_none_iff]

/-! ### Reports -/

/-- What is asked of a pair of a layer and a field. -/
abbrev Requirement := (Layer × Field) × Prop

theorem report_cases {layer : Layer} {field : Field} {err : Option Sentinel} :
    report layer field err = [] ∨ ∃ e, report layer field err = [⟨layer, field, e⟩] := by
  cases err <;> simp [report]

/-- The errors are those of the requirements that fail, one for each. -/
inductive Reports : List Requirement → List ValidationError → Prop
  | nil : Reports [] []
  | pass {x p rs errs} (h : p) (hrest : Reports rs errs) : Reports ((x, p) :: rs) errs
  | fail {x p rs e errs} (he : (e.layer, e.field) = x) (h : ¬p) (hrest : Reports rs errs) :
    Reports ((x, p) :: rs) (e :: errs)

namespace Reports

variable {layer : Layer} {name : Field} {rs rs' : List Requirement}
  {errs errs' : List ValidationError} {p : Prop}

theorem append (h : Reports rs errs) (h' : Reports rs' errs') :
    Reports (rs ++ rs') (errs ++ errs') := by
  induction h with
  | nil => exact h'
  | pass h _ ih => exact .pass h ih
  | fail he h _ ih => exact .fail he h ih

theorem eq_nil_iff (h : Reports rs errs) : errs = [] ↔ ∀ r ∈ rs, r.2 := by
  induction h with
  | nil => simp
  | pass h _ ih => simp [h, ih]
  | fail _ h _ _ => simp [h]

/-- A check that can only complain of one pair. -/
theorem single {l : List ValidationError} (hnil : l = [] ↔ p)
    (h : l = [] ∨ ∃ e, l = [⟨layer, name, e⟩]) : Reports [((layer, name), p)] l := by
  obtain rfl | ⟨e, rfl⟩ := h
  · exact .pass (hnil.mp rfl) .nil
  · exact .fail rfl (fun hp => nomatch hnil.mpr hp) .nil

theorem flatMap {α : Type} {as : List α} {r : α → Requirement} {g : α → List ValidationError}
    (h : ∀ a, Reports [r a] (g a)) : Reports (as.map r) (as.flatMap g) := by
  induction as with
  | nil => exact .nil
  | cons a as ih => exact (h a).append ih

theorem ite {c : Prop} [Decidable c] (h : Reports rs errs) :
    Reports (if c then rs else []) (if c then errs else []) := by
  split
  · exact h
  · exact .nil

theorem checkField {missing : Sentinel} {check : GoString → Option Sentinel}
    {want got : GoString} : Reports [((layer, name), FieldMatches check want got)]
      (checkField layer missing check name want got) := by
  refine single checkField_eq_nil_iff ?_
  unfold IdentityPolicy.checkField
  repeat' split
  all_goals simp

/-- A layer of which nothing is expected has no other errors. -/
theorem headed {c : Bool} (hc : c = true ↔ p) (hnone : c = false → errs = [])
    (h : Reports rs errs) : Reports (((layer, .all), p) :: rs)
      (if !c then [⟨layer, .all, .missingExpected⟩] else errs) := by
  cases c with
  | true => exact .pass (hc.mp rfl) h
  | false => exact .fail rfl (fun hp => nomatch hc.mpr hp) (hnone rfl ▸ h)

end Reports

/-! ### Layers of exact fields -/

theorem hasExpected_iff {expected : Values} {fields : List FieldSpec} :
    hasExpected expected fields = true ↔ ∃ f ∈ fields, isBlank (f.get expected) = false := by
  simp [hasExpected]

/-- What `validateExactLayer` asks of the fields it is given, the field `all` standing for the
layer. -/
def exactRequirements (layer : Layer) (expected observed : Values) (fields : List FieldSpec) :
    List Requirement :=
  ((layer, .all), ∃ f ∈ fields, isBlank (f.get expected) = false) :: fields.map fun f =>
    ((layer, f.name), FieldMatches (validateFieldValue f.name) (f.get expected) (f.get observed))

theorem checkFields_of_not_hasExpected {layer : Layer} {expected observed : Values}
    {fields : List FieldSpec} {check : Field → GoString → Option Sentinel}
    (h : hasExpected expected fields = false) :
    (fields.flatMap fun f => checkField layer .missingObserved (check f.name) f.name
      (f.get expected) (f.get observed)) = [] := by
  rw [List.flatMap_eq_nil_iff]
  intro f hf
  have hbl : isBlank (f.get expected) = true := by simpa using List.any_eq_false.mp h f hf
  simp [checkField, hbl]

theorem reports_validateExactLayer {layer : Layer} {expected observed : Values}
    {fields : List FieldSpec} : Reports (exactRequirements layer expected observed fields)
      (validateExactLayer layer expected observed fields) :=
  .headed hasExpected_iff checkFields_of_not_hasExpected (.flatMap fun _ => .checkField)

/-! ### Sets -/

/-- The values of a set-valued field that count. -/
def nonBlank (values : List GoString) : List GoString := values.filter fun v => !isBlank v

variable {values : List GoString} {set : Finset GoString} {now : Time}

theorem mem_nonBlank {v : GoString} : v ∈ nonBlank values ↔ v ∈ values ∧ isBlank v = false := by
  simp [nonBlank]

theorem nonBlank_eq_self (h : ∀ v ∈ values, isBlank v = false) : nonBlank values = values := by
  rw [nonBlank, List.filter_eq_self]
  intro v hv
  simp [h v hv]

/-- The loop that collects a set succeeds exactly on well-formed values, and then
collects those that are not blank. -/
theorem collectSet_ok_iff {emptyErr : Sentinel} : collectSet emptyErr values = .ok set ↔
      (emptyErr = .missingExpected → ∀ v ∈ values, isBlank v = false) ∧
      (∀ v ∈ values, isBlank v = false → WellFormed v) ∧
      set = (nonBlank values).toFinset := by
  induction values generalizing set with
  | nil => simp [collectSet, nonBlank, @eq_comm _ set]
  | cons value values ih =>
    rw [collectSet]
    cases hb : isBlank value with
    | true =>
      have hnb : nonBlank (value :: values) = nonBlank values := by simp [nonBlank, hb]
      by_cases he : emptyErr = .missingExpected
      · simp [hb, he]
      · simp [hb, he, hnb, ih]
    | false =>
      have hnb : nonBlank (value :: values) = value :: nonBlank values := by simp [nonBlank, hb]
      cases hv : validateValue value with
      | some e =>
        have hbad : ¬WellFormed value := by simp [← validateValue_eq_none_iff, hv]
        simp [hb, hbad]
      | none =>
        have hwell := validateValue_eq_none_iff.mp hv
        simp only [Bool.false_eq_true, if_false, Lib.map_ok_iff, ih, hnb, List.toFinset_cons,
          List.forall_mem_cons, hb, hwell, true_and, forall_const]
        constructor
        · rintro ⟨_, ⟨hbl, hwell, rfl⟩, rfl⟩
          exact ⟨hbl, hwell, rfl⟩
        · rintro ⟨hbl, hwell, rfl⟩
          exact ⟨_, ⟨hbl, hwell, rfl⟩, rfl⟩

/-- The expected and the observed set are the same non-empty set of well-formed
values, blank observed values not counting. -/
structure ExactSetMatches (expected observed : List GoString) : Prop where
  expectedBound : expected.length ≤ 128
  observedBound : observed.length ≤ 128
  nonempty : expected ≠ []
  notBlank : ∀ v ∈ expected, isBlank v = false
  wellFormed : ∀ v ∈ expected, WellFormed v
  same : (nonBlank observed).toFinset = expected.toFinset

/-- Every expected value is observed; expected and observed values are well
formed, and something is observed. -/
structure ContainsAllMatches (expected observed : List GoString) : Prop where
  expectedBound : expected.length ≤ 128
  observedBound : observed.length ≤ 128
  notBlank : ∀ v ∈ expected, isBlank v = false
  wellFormed : ∀ v ∈ expected, WellFormed v
  observedWellFormed : ∀ v ∈ observed, isBlank v = false → WellFormed v
  someObserved : nonBlank observed ≠ []
  contained : ∀ v ∈ expected, v ∈ observed

theorem validatedSet_ok_iff {emptyErr : Sentinel} : validatedSet values emptyErr = .ok set ↔
      values.length ≤ maxSetValues ∧ collectSet emptyErr values = .ok set ∧ set ≠ ∅ := by
  unfold validatedSet
  by_cases hl : values.length > maxSetValues
  · simp only [hl, if_true, reduceCtorEq, false_iff]
    omega
  · rw [if_neg hl]
    cases hc : collectSet emptyErr values with
    | error e => simp
    | ok s =>
      simp only [Finset.card_eq_zero, Except.ok.injEq]
      by_cases hs : s = ∅
      · simp only [hs, if_true, reduceCtorEq, false_iff]
        rintro ⟨-, rfl, h⟩
        exact h rfl
      · simp only [hs, if_false, Except.ok.injEq]
        constructor
        · rintro rfl; exact ⟨by omega, rfl, hs⟩
        · rintro ⟨-, h, -⟩; exact h

/-- Two finite sets of equal size one of which contains the other are equal, so
the size test and the inclusion loop decide equality. -/
theorem exactSet_check_iff {s t : Finset GoString} :
    (s.card = t.card ∧ ∀ v ∈ s, v ∈ t) ↔ t = s := by
  constructor
  · rintro ⟨hc, hsub⟩
    exact (Finset.eq_of_subset_of_card_le hsub hc.symm.le).symm
  · rintro rfl
    exact ⟨rfl, fun _ h => h⟩

/-- The expected set, in which a blank value is an error. -/
theorem validatedSet_expected_ok_iff : validatedSet values .missingExpected = .ok set ↔
      values.length ≤ maxSetValues ∧ values ≠ [] ∧ (∀ v ∈ values, isBlank v = false) ∧
        (∀ v ∈ values, WellFormed v) ∧ set = values.toFinset := by
  rw [validatedSet_ok_iff, collectSet_ok_iff]
  constructor
  · rintro ⟨hlen, ⟨hbl, hwell, rfl⟩, hne⟩
    have hbl := hbl rfl
    rw [nonBlank_eq_self hbl] at hne ⊢
    exact ⟨hlen, by simpa using hne, hbl, fun v hv => hwell v hv (hbl v hv), rfl⟩
  · rintro ⟨hlen, hne, hbl, hwell, rfl⟩
    rw [nonBlank_eq_self hbl]
    exact ⟨hlen, ⟨fun _ => hbl, fun v hv _ => hwell v hv, rfl⟩, by simpa using hne⟩

theorem requireExactSet_eq_none_iff {expected observed : List GoString} :
    requireExactSet expected observed = none ↔ ExactSetMatches expected observed := by
  unfold requireExactSet
  constructor
  · intro h
    split at h
    · cases h
    rename_i expectedSet hexp
    split at h
    · cases h
    rename_i observedSet hobs
    obtain ⟨hel, hne, hbl, hwell, rfl⟩ := validatedSet_expected_ok_iff.mp hexp
    obtain ⟨hol, hcollect, -⟩ := validatedSet_ok_iff.mp hobs
    obtain ⟨-, -, rfl⟩ := collectSet_ok_iff.mp hcollect
    rw [ite_some_eq_none_iff, ite_some_eq_none_iff] at h
    obtain ⟨hcard, hsub, -⟩ := h
    exact ⟨hel, hol, hne, hbl, hwell, exactSet_check_iff.mp ⟨not_not.mp hcard, by simpa using hsub⟩⟩
  · intro h
    have hexp := validatedSet_expected_ok_iff.mpr
      ⟨h.expectedBound, h.nonempty, h.notBlank, h.wellFormed, rfl⟩
    -- The observed values that count are the expected ones, so they are well formed too.
    have hobs : validatedSet observed .missingObserved = .ok expected.toFinset := by
      refine validatedSet_ok_iff.mpr ⟨h.observedBound, collectSet_ok_iff.mpr
        ⟨by simp, fun v hv hb => h.wellFormed v ?_, h.same.symm⟩, by simpa using h.nonempty⟩
      rw [← List.mem_toFinset, ← h.same, List.mem_toFinset]
      exact mem_nonBlank.mpr ⟨hv, hb⟩
    simp [hexp, hobs]

theorem checkExpectedValues_eq_none_iff : checkExpectedValues values = none ↔
      ∀ v ∈ values, isBlank v = false ∧ WellFormed v := by
  induction values with
  | nil => simp [checkExpectedValues]
  | cons value values ih =>
    rw [checkExpectedValues]
    cases hb : isBlank value with
    | true => simp [hb]
    | false => cases hv : validateValue value <;> simp [hb, hv, ih, ← validateValue_eq_none_iff]

theorem requireContainsAll_eq_none_iff {expected observed : List GoString} :
    requireContainsAll expected observed = none ↔ ContainsAllMatches expected observed := by
  unfold requireContainsAll
  constructor
  · intro h
    split at h
    · cases h
    rename_i hlen
    split at h
    · cases h
    rename_i hexp
    split at h
    · cases h
    rename_i seen hseen
    obtain ⟨-, hwell, rfl⟩ := collectSet_ok_iff.mp hseen
    rw [checkExpectedValues_eq_none_iff] at hexp
    rw [ite_some_eq_none_iff, ite_some_eq_none_iff] at h
    obtain ⟨hsome, hsub, -⟩ := h
    obtain ⟨hel, hol⟩ := not_or.mp hlen
    refine ⟨not_lt.mp hel, not_lt.mp hol, fun v hv => (hexp v hv).1, fun v hv => (hexp v hv).2, hwell,
      by simpa using hsome, fun v hv => ?_⟩
    by_contra hnot
    exact hsub ⟨v, hv, by simp [mem_nonBlank, hnot]⟩
  · intro h
    have hexp : checkExpectedValues expected = none :=
      checkExpectedValues_eq_none_iff.mpr fun v hv => ⟨h.notBlank v hv, h.wellFormed v hv⟩
    have hseen : collectSet .missingObserved observed = .ok (nonBlank observed).toFinset :=
      collectSet_ok_iff.mpr ⟨by simp, h.observedWellFormed, rfl⟩
    have hcard : (nonBlank observed).toFinset.card ≠ 0 := by simpa using h.someObserved
    have hall : ¬∃ v ∈ expected, v ∉ (nonBlank observed).toFinset := by
      rintro ⟨v, hv, hnot⟩
      exact hnot (by simp [mem_nonBlank, h.contained v hv, h.notBlank v hv])
    have hlen : ¬(expected.length > maxSetValues ∨ observed.length > maxSetValues) :=
      not_or.mpr ⟨h.expectedBound.not_gt, h.observedBound.not_gt⟩
    rw [if_neg hlen, hexp, hseen]
    simp only [if_neg hcard, if_neg hall]

/-- A set-valued field matches under a set mode, the default of which is `exact`. An unknown
mode matches nothing. -/
def SetMatches (setMode : GoString) (expected observed : List GoString) : Prop :=
  (setMode = [] ∨ setMode = lit "exact") ∧ ExactSetMatches expected observed ∨
    setMode = lit "contains_all" ∧ ContainsAllMatches expected observed

theorem setMatches_exact {expected observed : List GoString} :
    SetMatches setModeExact expected observed ↔ ExactSetMatches expected observed := by
  have hne : setModeExact ≠ lit "contains_all" := by decide
  rw [SetMatches, and_iff_right (.inr rfl), or_iff_left fun h => hne h.1]

theorem setMatches_containsAll {expected observed : List GoString} :
    SetMatches setModeContainsAll expected observed ↔ ContainsAllMatches expected observed := by
  have hne : ¬(setModeContainsAll = [] ∨ setModeContainsAll = lit "exact") := by decide
  rw [SetMatches, or_iff_right fun h => hne h.1]
  exact and_iff_right rfl

theorem setMatches_default {expected observed : List GoString} :
    SetMatches setModeDefault expected observed ↔ ExactSetMatches expected observed := by
  have hne : setModeDefault ≠ lit "contains_all" := by decide
  rw [SetMatches, and_iff_right (.inl rfl), or_iff_left fun h => hne h.1]

/-- The set mode that `Validate` passes on stands for the one of the policy. -/
theorem setMatches_effectiveSetMode {policy : Policy} {expected observed : List GoString} :
    SetMatches policy.effectiveSetMode expected observed =
      SetMatches policy.setMode expected observed := by
  unfold Policy.effectiveSetMode
  split
  · rename_i hdef
    rw [hdef, setMatches_exact, setMatches_default]
  · rfl

theorem validateSet_eq_nil_iff {layer : Layer} {field : Field} {expected observed : List GoString}
    {setMode : GoString} :
    validateSet layer field expected observed setMode = [] ↔
      SetMatches setMode expected observed := by
  unfold validateSet
  rw [report_eq_nil_iff]
  split
  · rename_i hexact
    obtain rfl | rfl := hexact
    · exact requireExactSet_eq_none_iff.trans setMatches_default.symm
    · exact requireExactSet_eq_none_iff.trans setMatches_exact.symm
  · split
    · rename_i hall
      rw [hall]
      exact requireContainsAll_eq_none_iff.trans setMatches_containsAll.symm
    · rename_i hexact hall
      simp only [reduceCtorEq, false_iff, SetMatches, not_or, not_and]
      exact ⟨fun h => absurd h hexact, fun h => absurd h hall⟩

section Bounded

variable {layer : Layer} {field : Field} {expected expected' observed observed' : List GoString}

theorem validateSet_exact_eq_nil_iff (he : expected.length ≤ maxSetValues)
    (ho : observed.length ≤ maxSetValues) :
    validateSet layer field expected observed setModeExact = [] ↔
      expected.toFinset = (nonBlank observed).toFinset ∧ expected.toFinset ≠ ∅ ∧
        ∀ v ∈ expected.toFinset, isBlank v = false ∧ validateValue v = none := by
  rw [validateSet_eq_nil_iff, setMatches_exact]
  simp only [List.mem_toFinset, ne_eq, List.toFinset_eq_empty_iff, validateValue_eq_none_iff]
  constructor
  · intro h
    exact ⟨h.same.symm, h.nonempty, fun v hv => ⟨h.notBlank v hv, h.wellFormed v hv⟩⟩
  · intro ⟨hsame, hne, hwell⟩
    exact ⟨he, ho, hne, fun v hv => (hwell v hv).1, fun v hv => (hwell v hv).2, hsame.symm⟩

theorem validateSet_containsAll_eq_nil_iff (he : expected.length ≤ maxSetValues)
    (ho : observed.length ≤ maxSetValues) :
    validateSet layer field expected observed setModeContainsAll = [] ↔
      expected.toFinset ⊆ (nonBlank observed).toFinset ∧ (nonBlank observed).toFinset ≠ ∅ ∧
        ∀ v ∈ (nonBlank observed).toFinset, validateValue v = none := by
  rw [validateSet_eq_nil_iff, setMatches_containsAll]
  simp only [Finset.subset_iff, List.mem_toFinset, mem_nonBlank, ne_eq, List.toFinset_eq_empty_iff,
    validateValue_eq_none_iff]
  constructor
  · intro h
    exact ⟨fun v hv => ⟨h.contained v hv, h.notBlank v hv⟩, h.someObserved,
      fun v hv => h.observedWellFormed v hv.1 hv.2⟩
  · intro ⟨hsub, hne, hwell⟩
    exact ⟨he, ho, fun v hv => (hsub hv).2, fun v hv => hwell v (hsub hv),
      fun v hv hb => hwell v ⟨hv, hb⟩, hne, fun v hv => (hsub hv).1⟩

/-- The verdict on a set-valued field depends on the two sets alone. Exact acceptance is
equality of well-formed sets and implies the other one, which can only gain by further
well-formed values observed and by fewer expected. -/
theorem validateSet_respects_sets (he : expected.length ≤ maxSetValues)
    (he' : expected'.length ≤ maxSetValues) (ho : observed.length ≤ maxSetValues)
    (ho' : observed'.length ≤ maxSetValues) :
    (∀ setMode, expected.toFinset = expected'.toFinset →
      (nonBlank observed).toFinset = (nonBlank observed').toFinset →
      (validateSet layer field expected observed setMode = [] ↔
        validateSet layer field expected' observed' setMode = [])) ∧
    (validateSet layer field expected observed setModeExact = [] →
      validateSet layer field expected observed setModeContainsAll = []) ∧
    (nonBlank observed ⊆ nonBlank observed' →
      (∀ v ∈ nonBlank observed', v ∈ observed ∨ validateValue v = none) →
      validateSet layer field expected observed setModeContainsAll = [] →
      validateSet layer field expected observed' setModeContainsAll = []) ∧
    (expected' ⊆ expected → expected' ≠ [] →
      validateSet layer field expected observed setModeContainsAll = [] →
      validateSet layer field expected' observed setModeContainsAll = []) ∧
    (validateSet layer field expected observed setModeExact = [] ↔
      expected.toFinset = (nonBlank observed).toFinset ∧ expected.toFinset ≠ ∅ ∧
        ∀ v ∈ expected.toFinset, isBlank v = false ∧ validateValue v = none) := by
  refine ⟨fun setMode hexp hobs => ?_, ?_, ?_, ?_, validateSet_exact_eq_nil_iff he ho⟩
  · by_cases hexact : setMode = setModeDefault ∨ setMode = setModeExact
    · have hmode : ∀ e o, validateSet layer field e o setMode = [] ↔
          validateSet layer field e o setModeExact = [] := by
        simp [validateSet, hexact]
      rw [hmode, hmode, validateSet_exact_eq_nil_iff he ho, validateSet_exact_eq_nil_iff he' ho',
        hexp, hobs]
    · by_cases hall : setMode = setModeContainsAll
      · rw [hall, validateSet_containsAll_eq_nil_iff he ho,
          validateSet_containsAll_eq_nil_iff he' ho', hexp, hobs]
      · simp [validateSet, hexact, hall]
  · rw [validateSet_exact_eq_nil_iff he ho, validateSet_containsAll_eq_nil_iff he ho]
    intro ⟨hsame, hne, hwell⟩
    rw [← hsame]
    exact ⟨subset_rfl, hne, fun v hv => (hwell v hv).2⟩
  · rw [validateSet_containsAll_eq_nil_iff he ho, validateSet_containsAll_eq_nil_iff he ho']
    simp only [Finset.subset_iff, List.mem_toFinset, ne_eq, List.toFinset_eq_empty_iff]
    intro hobs hadd ⟨hsub, hne, hwell⟩
    refine ⟨fun v hv => hobs (hsub hv), fun hnil => hne ?_, fun v hv => ?_⟩
    · exact List.subset_nil.mp (hnil ▸ hobs)
    · obtain hold | hnew := hadd v hv
      · exact hwell v (mem_nonBlank.mpr ⟨hold, (mem_nonBlank.mp hv).2⟩)
      · exact hnew
  · rw [validateSet_containsAll_eq_nil_iff he ho, validateSet_containsAll_eq_nil_iff he' ho]
    intro hexp _ ⟨hsub, hrest⟩
    exact ⟨fun v hv => hsub (List.mem_toFinset.mpr (hexp (List.mem_toFinset.mp hv))), hrest⟩

end Bounded

/-- One value expected and observed twice, and a second one observed. -/
theorem validateSet_respects_sets_sample :
    validateSet .l6 .scopes [lit "a"] [lit "a", lit "a"] setModeExact = [] ∧
      validateSet .l6 .scopes [lit "a"] [lit "b", lit "a"] setModeContainsAll = [] := by
  have hsets := @validateSet_respects_sets .l6 .scopes [lit "a"] [lit "a"] [lit "a", lit "a"]
    [lit "b", lit "a"] (by decide) (by decide) (by decide) (by decide)
  have hexact : validateSet .l6 .scopes [lit "a"] [lit "a", lit "a"] setModeExact = [] := by decide
  exact ⟨hexact, hsets.2.2.1 (by decide) (by decide) (hsets.2.1 hexact)⟩

/-! ### Whole policies -/

def ExpectsL3 (expected : Values) : Prop :=
  isBlank expected.service = false ∨ isBlank expected.tenant = false ∨
    isBlank expected.deployment = false ∨ isBlank expected.environment = false

/-- Layer L3 matches: the service and where it runs. -/
structure LayerL3Matches (expected observed : Values) : Prop where
  some : ExpectsL3 expected
  service : Matched WellFormed expected.service observed.service
  tenant : Matched WellFormed expected.tenant observed.tenant
  deployment : Matched WellFormed expected.deployment observed.deployment
  environment : Matched WellFormed expected.environment observed.environment

def ExpectsL4 (expected : Values) : Prop :=
  isBlank expected.workload = false ∨ isBlank expected.agent = false ∨
    isBlank expected.agentPublicKey = false

/-- Layer L4 matches: the workload and the agent. -/
structure LayerL4Matches (expected observed : Values) : Prop where
  some : ExpectsL4 expected
  workload : Matched WellFormed expected.workload observed.workload
  agent : Matched WellFormed expected.agent observed.agent
  agentPublicKey : Matched WellFormed expected.agentPublicKey observed.agentPublicKey

def ExpectsL5 (expected : Values) : Prop :=
  isBlank expected.computationID = false ∨ isBlank expected.taskID = false ∨
    isBlank expected.threadID = false ∨ isBlank expected.delegationID = false ∨
    isBlank expected.intentRef = false

/-- Layer L5 matches: the task. The intent is a reference. -/
structure LayerL5Matches (expected observed : Values) : Prop where
  some : ExpectsL5 expected
  computationID : Matched WellFormed expected.computationID observed.computationID
  taskID : Matched WellFormed expected.taskID observed.taskID
  threadID : Matched WellFormed expected.threadID observed.threadID
  delegationID : Matched WellFormed expected.delegationID observed.delegationID
  intentRef : Matched WellFormedReference expected.intentRef observed.intentRef

def ExpectsL6 (expected : Values) : Prop :=
  (expected.scopes ≠ [] ∨ expected.resources ≠ [] ∨ expected.authorizationDetails ≠ []) ∨
    isBlank expected.capabilityRef = false ∨ isBlank expected.ontologyID = false

/-- Layer L6 matches: what may be done. A set is expected if it is not empty. -/
structure LayerL6Matches (expected observed : Values) (setMode : GoString) : Prop where
  some : ExpectsL6 expected
  scopes : expected.scopes ≠ [] → SetMatches setMode expected.scopes observed.scopes
  resources : expected.resources ≠ [] → SetMatches setMode expected.resources observed.resources
  authorizationDetails : expected.authorizationDetails ≠ [] →
    SetMatches setMode expected.authorizationDetails observed.authorizationDetails
  capabilityRef : Matched WellFormedReference expected.capabilityRef observed.capabilityRef
  ontologyID : Matched WellFormedReference expected.ontologyID observed.ontologyID

/-- The modes are among those that there are. -/
def ModesKnown (policy : Policy) : Prop :=
  (policy.mode = [] ∨ policy.mode = lit "disabled" ∨ policy.mode = lit "required") ∧
    (policy.setMode = [] ∨ policy.setMode = lit "contains_all" ∨ policy.setMode = lit "exact")

/-- A required policy requires some layer. -/
def RequiresLayer (policy : Policy) : Prop :=
  policy.mode = lit "required" → policy.require.l3 = true ∨ policy.require.l4 = true ∨
    policy.require.l5 = true ∨ policy.require.l6 = true

/-- The observed values satisfy the policy: its modes are known, a required
policy requires some layer, and every required layer matches. -/
structure Satisfies (policy : Policy) (observed : Values) : Prop where
  mode : ModesKnown policy
  required : RequiresLayer policy
  l3 : policy.require.l3 = true → LayerL3Matches policy.expected observed
  l4 : policy.require.l4 = true → LayerL4Matches policy.expected observed
  l5 : policy.require.l5 = true → LayerL5Matches policy.expected observed
  l6 : policy.require.l6 = true → LayerL6Matches policy.expected observed policy.setMode

/-! ### What is reported -/

def requirementsL3 (expected observed : Values) : List Requirement :=
  [((.l3, .all), ExpectsL3 expected),
    ((.l3, .service), Matched WellFormed expected.service observed.service),
    ((.l3, .tenant), Matched WellFormed expected.tenant observed.tenant),
    ((.l3, .deployment), Matched WellFormed expected.deployment observed.deployment),
    ((.l3, .environment), Matched WellFormed expected.environment observed.environment)]

def requirementsL4 (expected observed : Values) : List Requirement :=
  [((.l4, .all), ExpectsL4 expected),
    ((.l4, .workload), Matched WellFormed expected.workload observed.workload),
    ((.l4, .agent), Matched WellFormed expected.agent observed.agent),
    ((.l4, .agentPublicKey), Matched WellFormed expected.agentPublicKey observed.agentPublicKey)]

def requirementsL5 (expected observed : Values) : List Requirement :=
  [((.l5, .all), ExpectsL5 expected),
    ((.l5, .computationID), Matched WellFormed expected.computationID observed.computationID),
    ((.l5, .taskID), Matched WellFormed expected.taskID observed.taskID),
    ((.l5, .threadID), Matched WellFormed expected.threadID observed.threadID),
    ((.l5, .delegationID), Matched WellFormed expected.delegationID observed.delegationID),
    ((.l5, .intentRef), Matched WellFormedReference expected.intentRef observed.intentRef)]

def requirementsL6 (expected observed : Values) (setMode : GoString) : List Requirement :=
  [((.l6, .all), ExpectsL6 expected),
    ((.l6, .scopes), expected.scopes ≠ [] → SetMatches setMode expected.scopes observed.scopes),
    ((.l6, .resources),
      expected.resources ≠ [] → SetMatches setMode expected.resources observed.resources),
    ((.l6, .authorizationDetails), expected.authorizationDetails ≠ [] →
      SetMatches setMode expected.authorizationDetails observed.authorizationDetails),
    ((.l6, .capabilityRef),
      Matched WellFormedReference expected.capabilityRef observed.capabilityRef),
    ((.l6, .ontologyID), Matched WellFormedReference expected.ontologyID observed.ontologyID)]

/-- What a policy asks of the observed values, with the pairs it is reported under. -/
def requirements (policy : Policy) (observed : Values) : List Requirement :=
  [((.policy, .mode), ModesKnown policy)] ++ [((.policy, .all), RequiresLayer policy)] ++
  (if policy.require.l3 then requirementsL3 policy.expected observed else []) ++
  (if policy.require.l4 then requirementsL4 policy.expected observed else []) ++
  (if policy.require.l5 then requirementsL5 policy.expected observed else []) ++
  if policy.require.l6 then requirementsL6 policy.expected observed policy.setMode else []

section Layers

variable {expected observed : Values} {setMode : GoString} {policy : Policy}

/-- The tables of the code have the fields of the layers, each under its own name. -/
theorem exactRequirements_fieldsL3 :
    exactRequirements .l3 expected observed fieldsL3 = requirementsL3 expected observed := by
  simp [exactRequirements, fieldsL3, requirementsL3, ExpectsL3, validateFieldValue,
    fieldMatches_validateValue]

theorem exactRequirements_fieldsL4 :
    exactRequirements .l4 expected observed fieldsL4 = requirementsL4 expected observed := by
  simp [exactRequirements, fieldsL4, requirementsL4, ExpectsL4, validateFieldValue,
    fieldMatches_validateValue]

theorem exactRequirements_fieldsL5 :
    exactRequirements .l5 expected observed fieldsL5 = requirementsL5 expected observed := by
  simp [exactRequirements, fieldsL5, requirementsL5, ExpectsL5, validateFieldValue,
    fieldMatches_validateValue, fieldMatches_validateReferenceValue]

/-- A layer of sets and references, from the tables it is given. -/
theorem reports_tablesL6 : Reports
    (((.l6, .all), (∃ s ∈ setsL6, s.get expected ≠ []) ∨
        ∃ f ∈ fieldsL6, isBlank (f.get expected) = false) ::
      ((setsL6.map fun s => ((.l6, s.name),
        s.get expected ≠ [] → SetMatches setMode (s.get expected) (s.get observed))) ++
      fieldsL6.map fun f =>
        ((.l6, f.name), FieldMatches validateReferenceValue (f.get expected) (f.get observed))))
    (validateL6 expected observed setMode) := by
  refine .headed ?_ ?_ ((Reports.flatMap fun s => .single ?_ ?_).append
    (.flatMap fun _ => .checkField))
  · rw [Bool.or_eq_true, hasExpected_iff]
    simp
  · intro h
    obtain ⟨hsets, hfields⟩ := Bool.or_eq_false_iff.mp h
    rw [@checkFields_of_not_hasExpected .l6 expected observed fieldsL6
        (fun _ => validateReferenceValue) hfields,
      List.append_nil, List.flatMap_eq_nil_iff]
    intro s hs
    exact if_pos (by simpa using List.any_eq_false.mp hsets s hs)
  · rw [ite_eq_left_iff, validateSet_eq_nil_iff, List.isEmpty_iff]
  · split
    · exact .inl rfl
    · unfold validateSet
      exact report_cases

theorem reports_validateL6 :
    Reports (requirementsL6 expected observed setMode) (validateL6 expected observed setMode) := by
  have h := @reports_tablesL6 expected observed setMode
  simpa [setsL6, fieldsL6, requirementsL6, ExpectsL6, fieldMatches_validateReferenceValue] using h

theorem requirementsL6_effectiveSetMode :
    requirementsL6 expected observed policy.effectiveSetMode =
      requirementsL6 expected observed policy.setMode := by
  simp only [requirementsL6, setMatches_effectiveSetMode]

theorem validateMode_eq_none_iff : policy.validateMode = none ↔ ModesKnown policy := by
  rw [Policy.validateMode, ite_some_eq_none_iff, ite_some_eq_none_iff]
  simp only [ne_eq, not_and_or, not_not, and_true]
  exact Iff.rfl

theorem reports_validate : Reports (requirements policy observed) (validate policy observed) := by
  refine .append (.append (.append (.append (.append ?_ ?_) ?_) ?_) ?_) ?_
  · exact .single (report_eq_nil_iff.trans validateMode_eq_none_iff) report_cases
  · -- A policy that is not required may leave all layers out.
    refine .single ?_ ?_
    · rw [ite_nil_eq_nil_iff]
      simp only [RequiresLayer, Requirements.enabled, modeRequired]
      cases policy.require.l3 <;> cases policy.require.l4 <;> cases policy.require.l5 <;>
        cases policy.require.l6 <;> simp
    · split <;> simp
  · exact .ite (exactRequirements_fieldsL3 ▸ reports_validateExactLayer)
  · exact .ite (exactRequirements_fieldsL4 ▸ reports_validateExactLayer)
  · exact .ite (exactRequirements_fieldsL5 ▸ reports_validateExactLayer)
  · exact .ite (requirementsL6_effectiveSetMode ▸ reports_validateL6)

theorem forall_mem_ite_iff {rs : List Requirement} {c : Bool} :
    (∀ r ∈ (if c then rs else []), r.2) ↔ (c = true → ∀ r ∈ rs, r.2) := by
  cases c <;> simp

theorem forall_requirementsL3_iff :
    (∀ r ∈ requirementsL3 expected observed, r.2) ↔ LayerL3Matches expected observed := by
  simp only [requirementsL3, List.forall_mem_cons, List.not_mem_nil, false_implies,
    implies_true, and_true]
  exact ⟨fun ⟨h1, h2, h3, h4, h5⟩ => ⟨h1, h2, h3, h4, h5⟩,
    fun ⟨h1, h2, h3, h4, h5⟩ => ⟨h1, h2, h3, h4, h5⟩⟩

theorem forall_requirementsL4_iff :
    (∀ r ∈ requirementsL4 expected observed, r.2) ↔ LayerL4Matches expected observed := by
  simp only [requirementsL4, List.forall_mem_cons, List.not_mem_nil, false_implies,
    implies_true, and_true]
  exact ⟨fun ⟨h1, h2, h3, h4⟩ => ⟨h1, h2, h3, h4⟩, fun ⟨h1, h2, h3, h4⟩ => ⟨h1, h2, h3, h4⟩⟩

theorem forall_requirementsL5_iff :
    (∀ r ∈ requirementsL5 expected observed, r.2) ↔ LayerL5Matches expected observed := by
  simp only [requirementsL5, List.forall_mem_cons, List.not_mem_nil, false_implies,
    implies_true, and_true]
  exact ⟨fun ⟨h1, h2, h3, h4, h5, h6⟩ => ⟨h1, h2, h3, h4, h5, h6⟩,
    fun ⟨h1, h2, h3, h4, h5, h6⟩ => ⟨h1, h2, h3, h4, h5, h6⟩⟩

theorem forall_requirementsL6_iff :
    (∀ r ∈ requirementsL6 expected observed setMode, r.2) ↔
      LayerL6Matches expected observed setMode := by
  simp only [requirementsL6, List.forall_mem_cons, List.not_mem_nil, false_implies,
    implies_true, and_true]
  exact ⟨fun ⟨h1, h2, h3, h4, h5, h6⟩ => ⟨h1, h2, h3, h4, h5, h6⟩,
    fun ⟨h1, h2, h3, h4, h5, h6⟩ => ⟨h1, h2, h3, h4, h5, h6⟩⟩

theorem forall_requirements_iff :
    (∀ r ∈ requirements policy observed, r.2) ↔ Satisfies policy observed := by
  simp only [requirements, List.forall_mem_append, List.forall_mem_singleton, forall_mem_ite_iff,
    forall_requirementsL3_iff, forall_requirementsL4_iff, forall_requirementsL5_iff,
    forall_requirementsL6_iff]
  constructor
  · rintro ⟨⟨⟨⟨⟨h1, h2⟩, h3⟩, h4⟩, h5⟩, h6⟩
    exact ⟨h1, h2, h3, h4, h5, h6⟩
  · intro h
    exact ⟨⟨⟨⟨⟨h.mode, h.required⟩, h.l3⟩, h.l4⟩, h.l5⟩, h.l6⟩

/-- `validate` accepts exactly the values that satisfy the policy. -/
theorem validate_eq_nil_iff : validate policy observed = [] ↔ Satisfies policy observed :=
  reports_validate.eq_nil_iff.trans forall_requirements_iff

end Layers

/-- `Validate` accepts exactly the values that satisfy the policy. Of the pairs that fail it
reports each once, and no other pair. -/
theorem policy_reported (policy : Policy) (observed : Values) :
    (validate policy observed = [] ↔ Satisfies policy observed) ∧
      Reports (requirements policy observed) (validate policy observed) ∧
      ((requirements policy observed).map Prod.fst).Nodup := by
  refine ⟨validate_eq_nil_iff, reports_validate, ?_⟩
  unfold requirements
  cases policy.require.l3 <;> cases policy.require.l4 <;> cases policy.require.l5 <;>
    cases policy.require.l6 <;>
    simp [requirementsL3, requirementsL4, requirementsL5, requirementsL6]

/-! ### Session bindings -/

/-- A lifetime that is set and, when a clock is given, contains `now`. -/
structure Live (issuedAt expiresAt now : Time) : Prop where
  expirySet : expiresAt ≠ 0
  notExpired : now ≠ 0 → now ≤ expiresAt
  notFuture : issuedAt ≠ 0 → now ≠ 0 → issuedAt ≤ now

theorem lifetimeErrors_eq_nil_iff {layer : Layer} {missing : Sentinel} {issuedAt expiresAt : Time} :
    lifetimeErrors layer missing issuedAt expiresAt now = [] ↔ Live issuedAt expiresAt now := by
  unfold lifetimeErrors
  rw [List.append_eq_nil_iff, ite_nil_eq_nil_iff]
  constructor
  · rintro ⟨hexp, hiss⟩
    have hne : expiresAt ≠ 0 := by
      rintro rfl
      simp at hexp
    refine ⟨hne, fun hnow => ?_, fun hi hnow => ?_⟩
    · by_contra hlt
      simp at hexp
      lia
    · by_contra hlt
      simp at hiss
      lia
  · intro h
    have hne := h.expirySet
    refine ⟨?_, ?_⟩
    · rw [if_neg (by simpa using hne), ite_nil_eq_nil_iff]
      intro hx
      simp only [Bool.and_eq_true, Bool.not_eq_true', Time.isZero_eq_false_iff,
        Time.after_iff] at hx
      have := h.notExpired hx.1
      lia
    · intro hx
      simp only [Bool.and_eq_true, Bool.not_eq_true', Time.isZero_eq_false_iff,
        Time.after_iff] at hx
      have := h.notFuture hx.1.1 hx.1.2
      lia

/-- The observed binding is the expected one wherever something is expected, and
is live. -/
structure BindingMatches (observed expected : Binding) (now : Time) : Prop where
  some : ∃ f ∈ bindingFields, isBlank (f.get expected) = false
  each : ∀ f ∈ bindingFields, FieldMatches validateBindingValue (f.get expected) (f.get observed)
  live : Live observed.issuedAt observed.expiresAt now

theorem validateBinding_eq_nil_iff {observed expected : Binding} :
    validateBinding observed expected now = [] ↔ BindingMatches observed expected now := by
  have hsome : (if bindingFields.any (fun f => !isBlank (f.get expected)) then []
        else [(⟨.binding, .all, .missingExpected⟩ : ValidationError)]) = [] ↔
      ∃ f ∈ bindingFields, isBlank (f.get expected) = false := by
    split <;> simp_all
  unfold validateBinding
  simp only [List.append_eq_nil_iff, List.flatMap_eq_nil_iff, checkField_eq_nil_iff,
    lifetimeErrors_eq_nil_iff, hsome]
  constructor
  · rintro ⟨⟨h1, h2⟩, h3⟩; exact ⟨h2, h1, h3⟩
  · intro h; exact ⟨⟨h.each, h.some⟩, h.live⟩

/-- An accepted assertion is bound to the expected session and satisfies the
policy, and nothing else is accepted. -/
theorem validateAssertion_eq_nil_iff {policy : Policy} {assertion : Assertion}
    {expectedBinding : Binding} :
    validateAssertion policy assertion expectedBinding now = [] ↔
      BindingMatches assertion.binding expectedBinding now ∧ Satisfies policy assertion.values := by
  rw [validateAssertion, List.append_eq_nil_iff, validateBinding_eq_nil_iff, validate_eq_nil_iff]

end SecureBinding.IdentityPolicy
