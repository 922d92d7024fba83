import SecureBinding.Go.Strings
import SecureBinding.Lib.Except

/-!
# Go.Encoding

`encoding/hex`, `base64.RawURLEncoding` and `base64.StdEncoding`.
-/

namespace SecureBinding.Go

/-! ### Hexadecimal -/

/-- A digit of `hex.EncodeToString`. -/
def hexDigit (n : Nat) : UInt8 := if n < 10 then UInt8.ofNat (48 + n) else UInt8.ofNat (87 + n)

/-- `hex.EncodeToString`. -/
def hexEncode (data : Bytes) : GoString :=
  data.flatMap fun b => [hexDigit (b.toNat / 16), hexDigit (b.toNat % 16)]

variable {n : Nat} {data : Bytes} {a : UInt8}

theorem hexDigit_injOn {m : Nat} (hm : m < 16) (hn : n < 16) (h : hexDigit m = hexDigit n) :
    m = n := by
  have key : ∀ m : Fin 16, ∀ n : Fin 16, hexDigit m = hexDigit n → m = n := by decide
  exact Fin.mk.inj (key ⟨m, hm⟩ ⟨n, hn⟩ h)

theorem hexEncode_injective : ∀ {a b : Bytes}, hexEncode a = hexEncode b → a = b := by
  intro a
  induction a with
  | nil =>
    intro b h
    cases b with
    | nil => rfl
    | cons y b => simp [hexEncode] at h
  | cons x a ih =>
    intro b h
    cases b with
    | nil => simp [hexEncode] at h
    | cons y b =>
      simp only [hexEncode, List.flatMap_cons, List.cons_append, List.cons.injEq] at h
      obtain ⟨hhigh, hlow, hrest⟩ := h
      have hx := x.toNat_lt
      have hy := y.toNat_lt
      have h1 := hexDigit_injOn (by omega) (by omega) hhigh
      have h2 := hexDigit_injOn (by omega) (by omega) hlow
      have hxy : x = y := UInt8.toNat_inj.mp (by omega)
      rw [hxy, ih hrest]

theorem exists_of_mem_hexEncode (h : a ∈ hexEncode data) : ∃ n : Fin 16, a = hexDigit n := by
  simp only [hexEncode, List.mem_flatMap, List.mem_cons, List.not_mem_nil, or_false] at h
  obtain ⟨b, -, rfl | rfl⟩ := h
  · exact ⟨⟨b.toNat / 16, by have := b.toNat_lt; omega⟩, rfl⟩
  · exact ⟨⟨b.toNat % 16, by omega⟩, rfl⟩

theorem isGraphic_of_mem_hexEncode (h : a ∈ hexEncode data) : IsGraphic a := by
  have key : ∀ n : Fin 16, IsGraphic (hexDigit n) := by
    unfold IsGraphic
    decide
  obtain ⟨n, rfl⟩ := exists_of_mem_hexEncode h
  exact key n

theorem length_hexEncode (data : Bytes) : (hexEncode data).length = 2 * data.length := by
  induction data with
  | nil => rfl
  | cons b data ih =>
    have hcons : hexEncode (b :: data)
        = hexDigit (b.toNat / 16) :: hexDigit (b.toNat % 16) :: hexEncode data := rfl
    rw [hcons, List.length_cons, List.length_cons, List.length_cons, ih]
    omega

/-- The errors of `hex.DecodeString`: `InvalidByteError` and `ErrLength`. -/
inductive HexError
  | invalidByte (a : UInt8)
  | length
  deriving Repr, DecidableEq

/-- The verb `%#U` of a byte: its code point, and the character if it can be printed. -/
def formatRune (a : UInt8) : String :=
  let hex := (hexEncode [a]).map fun d => (Char.ofNat d.toNat).toUpper
  let printable := 0x20 ≤ a ∧ a < 0x7f ∨ 0xa1 ≤ a ∧ a ≠ 0xad
  "U+00" ++ String.ofList hex
    ++ if printable then " '" ++ String.singleton (Char.ofNat a.toNat) ++ "'" else ""

def HexError.text : HexError → String
  | invalidByte a => "encoding/hex: invalid byte: " ++ formatRune a
  | length => "encoding/hex: odd length hex string"

def hexValue (a : UInt8) : Except HexError Nat :=
  if 0x30 ≤ a ∧ a ≤ 0x39 then .ok (a.toNat - 0x30)
  else if 0x61 ≤ a ∧ a ≤ 0x66 then .ok (a.toNat - 0x61 + 10)
  else if 0x41 ≤ a ∧ a ≤ 0x46 then .ok (a.toNat - 0x41 + 10)
  else .error (.invalidByte a)

/-- `hex.DecodeString`. The left-over digit of an odd length is looked at first. -/
def hexDecode : GoString → Except HexError Bytes
  | [] => .ok []
  | [a] => do
    let _ ← hexValue a
    .error .length
  | a :: b :: rest => do
    let high ← hexValue a
    let low ← hexValue b
    let data ← hexDecode rest
    return UInt8.ofNat (16 * high + low) :: data

theorem hexValue_hexDigit (h : n < 16) : hexValue (hexDigit n) = .ok n := by
  have key : ∀ n : Fin 16, hexValue (hexDigit n) = .ok n.val := by decide
  exact key ⟨n, h⟩

theorem hexDecode_hexEncode (data : Bytes) : hexDecode (hexEncode data) = .ok data := by
  induction data with
  | nil => rfl
  | cons b data ih =>
    have hb := b.toNat_lt
    have hcons : hexEncode (b :: data)
        = hexDigit (b.toNat / 16) :: hexDigit (b.toNat % 16) :: hexEncode data := rfl
    have hbyte : UInt8.ofNat (16 * (b.toNat / 16) + b.toNat % 16) = b := by
      rw [Nat.div_add_mod, UInt8.ofNat_toNat]
    rw [hcons, hexDecode, hexValue_hexDigit (by omega), hexValue_hexDigit (by omega), ih]
    show Except.ok (UInt8.ofNat _ :: data) = _
    rw [hbyte]

theorem length_of_hexDecode {s : GoString} (h : hexDecode s = .ok data) :
    s.length = 2 * data.length ∧ ∀ a ∈ s, IsGraphic a := by
  have digit : ∀ {a : UInt8} {n : Nat}, hexValue a = .ok n → IsGraphic a := by
    intro a n ha
    unfold hexValue at ha
    unfold IsGraphic
    grind
  induction s using hexDecode.induct generalizing data with
  | case1 =>
    cases h
    exact ⟨rfl, by simp⟩
  | case2 a =>
    obtain ⟨_, -, h⟩ := Lib.bind_ok_iff.mp h
    cases h
  | case3 a b rest ih =>
    simp only [hexDecode, Lib.bind_ok_iff, Lib.pure_ok_iff] at h
    obtain ⟨high, ha, low, hb, data', hrest, rfl⟩ := h
    obtain ⟨hlen, hgra⟩ := ih hrest
    refine ⟨?_, List.forall_mem_cons.mpr ⟨digit ha, List.forall_mem_cons.mpr ⟨digit hb, hgra⟩⟩⟩
    rw [List.length_cons, List.length_cons, List.length_cons, hlen]
    omega

/-! ### Base64 -/

/-- The value of a digit of the URL alphabet. -/
def base64Value (a : UInt8) : Option Nat :=
  if 0x41 ≤ a ∧ a ≤ 0x5a then some (a.toNat - 0x41)
  else if 0x61 ≤ a ∧ a ≤ 0x7a then some (a.toNat - 0x61 + 26)
  else if 0x30 ≤ a ∧ a ≤ 0x39 then some (a.toNat - 0x30 + 52)
  else if a = 0x2d then some 62
  else if a = 0x5f then some 63
  else none

/-- The bytes of a sequence of digits, four of them at a time. The bits a last
short group has too many are dropped; a single left-over digit is an error. -/
def base64Bytes : List Nat → Option Bytes
  | [] => some []
  | [_] => none
  | [a, b] => some [UInt8.ofNat (a * 4 + b / 16)]
  | [a, b, c] => some [UInt8.ofNat (a * 4 + b / 16), UInt8.ofNat (b % 16 * 16 + c / 4)]
  | a :: b :: c :: d :: rest =>
    (base64Bytes rest).map fun bytes =>
      UInt8.ofNat (a * 4 + b / 16) :: UInt8.ofNat (b % 16 * 16 + c / 4)
        :: UInt8.ofNat (c % 4 * 64 + d) :: bytes

/-- `base64.RawURLEncoding.DecodeString`: no padding, line breaks ignored. -/
def base64RawURLDecode (s : GoString) : Option Bytes :=
  ((s.filter fun a => a != 0x0a && a != 0x0d).mapM base64Value).bind base64Bytes

example : base64RawURLDecode (lit "eyJhIjoxfQ") = some (lit "\x7b\"a\":1\x7d") := by decide

/-- A digit of the URL alphabet. -/
def base64Digit (n : Nat) : UInt8 :=
  if n < 26 then UInt8.ofNat (0x41 + n)
  else if n < 52 then UInt8.ofNat (0x61 + (n - 26))
  else if n < 62 then UInt8.ofNat (0x30 + (n - 52))
  else if n = 62 then 0x2d
  else 0x5f

/-- The digits of a sequence of bytes, three of them at a time. -/
def base64Digits : Bytes → List Nat
  | [] => []
  | [x] => [x.toNat / 4, x.toNat % 4 * 16]
  | [x, y] => [x.toNat / 4, x.toNat % 4 * 16 + y.toNat / 16, y.toNat % 16 * 4]
  | x :: y :: z :: rest =>
    x.toNat / 4 :: (x.toNat % 4 * 16 + y.toNat / 16) :: (y.toNat % 16 * 4 + z.toNat / 64)
      :: z.toNat % 64 :: base64Digits rest

/-- `base64.RawURLEncoding.EncodeToString`. -/
def base64RawURLEncode (data : Bytes) : GoString := (base64Digits data).map base64Digit

example : base64RawURLEncode (lit "\x7b\"a\":1\x7d") = lit "eyJhIjoxfQ" := by decide

theorem base64Value_base64Digit (h : n < 64) : base64Value (base64Digit n) = some n := by
  have key : ∀ n : Fin 64, base64Value (base64Digit n) = some n.val := by decide
  exact key ⟨n, h⟩

theorem lt_of_mem_base64Digits (h : n ∈ base64Digits data) : n < 64 := by
  induction data using base64Digits.induct with
  | case1 => simp [base64Digits] at h
  | case2 x =>
    have hx := x.toNat_lt
    simp only [base64Digits, List.mem_cons, List.not_mem_nil, or_false] at h
    omega
  | case3 x y =>
    have hx := x.toNat_lt
    have hy := y.toNat_lt
    simp only [base64Digits, List.mem_cons, List.not_mem_nil, or_false] at h
    omega
  | case4 x y z rest ih =>
    have hx := x.toNat_lt
    have hy := y.toNat_lt
    have hz := z.toNat_lt
    simp only [base64Digits, List.mem_cons] at h
    obtain h | h | h | h | h := h
    · omega
    · omega
    · omega
    · omega
    · exact ih h

theorem base64Bytes_base64Digits (data : Bytes) : base64Bytes (base64Digits data) = some data := by
  have byte : ∀ {b : UInt8} {n : Nat}, n = b.toNat → UInt8.ofNat n = b := by
    intro b n h
    rw [h, UInt8.ofNat_toNat]
  induction data using base64Digits.induct with
  | case1 => rfl
  | case2 x =>
    rw [base64Digits, base64Bytes, byte (show _ = x.toNat by omega)]
  | case3 x y =>
    have hy := y.toNat_lt
    rw [base64Digits, base64Bytes, byte (show _ = x.toNat by omega),
      byte (show _ = y.toNat by omega)]
  | case4 x y z rest ih =>
    have hy := y.toNat_lt
    have hz := z.toNat_lt
    rw [base64Digits, base64Bytes, ih, Option.map_some, byte (show _ = x.toNat by omega),
      byte (show _ = y.toNat by omega), byte (show _ = z.toNat by omega)]

/-- No digit is a dot, a line break or a zero byte. -/
theorem base64Digit_ne (h : n < 64) :
    base64Digit n ≠ 0 ∧ base64Digit n ≠ 0x2e ∧ base64Digit n ≠ 0x0a ∧ base64Digit n ≠ 0x0d := by
  have key : ∀ n : Fin 64, base64Digit n ≠ 0 ∧ base64Digit n ≠ 0x2e ∧ base64Digit n ≠ 0x0a ∧
      base64Digit n ≠ 0x0d := by decide
  exact key ⟨n, h⟩

theorem ne_of_mem_base64RawURLEncode
    (h : a ∈ base64RawURLEncode data) : a ≠ 0 ∧ a ≠ 0x2e ∧ a ≠ 0x0a ∧ a ≠ 0x0d := by
  obtain ⟨n, hn, rfl⟩ := List.mem_map.mp h
  exact base64Digit_ne (lt_of_mem_base64Digits hn)

theorem base64RawURLDecode_base64RawURLEncode (data : Bytes) :
    base64RawURLDecode (base64RawURLEncode data) = some data := by
  have hfilter : (base64RawURLEncode data).filter (fun a => a != 0x0a && a != 0x0d)
      = base64RawURLEncode data := by
    rw [List.filter_eq_self]
    intro a ha
    obtain ⟨-, -, hlf, hcr⟩ := ne_of_mem_base64RawURLEncode ha
    simp [hlf, hcr]
  have hdgts : ∀ digits : List Nat, (∀ n ∈ digits, n < 64) →
      (digits.map base64Digit).mapM base64Value = some digits := by
    intro digits
    induction digits with
    | nil => intro _; rfl
    | cons n digits ih =>
      intro h
      obtain ⟨hn, hrest⟩ := List.forall_mem_cons.mp h
      rw [List.map_cons, List.mapM_cons, base64Value_base64Digit hn, ih hrest]
      rfl
  rw [base64RawURLDecode, hfilter, base64RawURLEncode,
    hdgts _ fun n hn => lt_of_mem_base64Digits hn, Option.bind_some, base64Bytes_base64Digits]

/-- The value of a digit of the standard alphabet. -/
def base64StdValue (a : UInt8) : Option Nat :=
  if a = 0x2b then some 62
  else if a = 0x2f then some 63
  else if a = 0x2d ∨ a = 0x5f then none
  else base64Value a

/-- The bytes of groups of four digits, the last of them filled up with `=`. -/
def base64Groups : Bytes → Option Bytes
  | [] => some []
  | [a, b, 0x3d, 0x3d] => ([a, b].mapM base64StdValue).bind base64Bytes
  | [a, b, c, 0x3d] => ([a, b, c].mapM base64StdValue).bind base64Bytes
  | a :: b :: c :: d :: rest =>
    (([a, b, c, d].mapM base64StdValue).bind base64Bytes).bind fun group =>
      (base64Groups rest).map (group ++ ·)
  | _ => none

/-- `base64.StdEncoding.DecodeString`: padding is required, line breaks are ignored. -/
def base64StdDecode (s : GoString) : Option Bytes :=
  base64Groups (s.filter fun a => a != 0x0a && a != 0x0d)

example : base64StdDecode (lit "+/8BAg==") = some [0xfb, 0xff, 1, 2] := by decide

/-- A digit of the standard alphabet. -/
def base64StdDigit (n : Nat) : UInt8 :=
  if n = 62 then 0x2b else if n = 63 then 0x2f else base64Digit n

/-- `base64.StdEncoding.EncodeToString`. -/
def base64StdEncode : Bytes → GoString
  | [] => []
  | [x] => (base64Digits [x]).map base64StdDigit ++ [0x3d, 0x3d]
  | [x, y] => (base64Digits [x, y]).map base64StdDigit ++ [0x3d]
  | x :: y :: z :: rest => (base64Digits [x, y, z]).map base64StdDigit ++ base64StdEncode rest

theorem base64StdDigit_spec (h : n < 64) :
    base64StdValue (base64StdDigit n) = some n ∧ base64StdDigit n ≠ 0x3d ∧
      base64StdDigit n ≠ 0x0a ∧ base64StdDigit n ≠ 0x0d := by
  have key : ∀ n : Fin 64, base64StdValue (base64StdDigit n) = some n.val ∧
      base64StdDigit n ≠ 0x3d ∧ base64StdDigit n ≠ 0x0a ∧ base64StdDigit n ≠ 0x0d := by
    decide
  exact key ⟨n, h⟩

theorem ne_break_of_mem_base64StdEncode (h : a ∈ base64StdEncode data) : a ≠ 0x0a ∧ a ≠ 0x0d := by
  have hdigit : ∀ {group : Bytes}, a ∈ (base64Digits group).map base64StdDigit →
      a ≠ 0x0a ∧ a ≠ 0x0d := by
    intro group ha
    obtain ⟨n, hn, rfl⟩ := List.mem_map.mp ha
    exact (base64StdDigit_spec (lt_of_mem_base64Digits hn)).2.2
  induction data using base64StdEncode.induct with
  | case1 => cases h
  | case2 x =>
    rcases List.mem_append.mp h with h | h
    · exact hdigit h
    · simp only [List.mem_cons, List.not_mem_nil, or_false, or_self] at h
      subst h
      decide
  | case3 x y =>
    rcases List.mem_append.mp h with h | h
    · exact hdigit h
    · simp only [List.mem_cons, List.not_mem_nil, or_false] at h
      subst h
      decide
  | case4 x y z rest ih =>
    rcases List.mem_append.mp h with h | h
    · exact hdigit h
    · exact ih h

theorem base64StdDecode_base64StdEncode (data : Bytes) :
    base64StdDecode (base64StdEncode data) = some data := by
  have hfilter : (base64StdEncode data).filter (fun a => a != 0x0a && a != 0x0d)
      = base64StdEncode data := by
    rw [List.filter_eq_self]
    intro a ha
    obtain ⟨hlf, hcr⟩ := ne_break_of_mem_base64StdEncode ha
    simp [hlf, hcr]
  rw [base64StdDecode, hfilter]
  clear hfilter
  have hval : ∀ {group : Bytes}, ∀ n ∈ base64Digits group,
      base64StdValue (base64StdDigit n) = some n ∧ base64StdDigit n ≠ 0x3d := fun n hn =>
    ⟨(base64StdDigit_spec (lt_of_mem_base64Digits hn)).1,
      (base64StdDigit_spec (lt_of_mem_base64Digits hn)).2.1⟩
  induction data using base64StdEncode.induct with
  | case1 => rfl
  | case2 x =>
    have h := @hval [x]
    rw [← base64Bytes_base64Digits [x], base64StdEncode]
    simp only [base64Digits, List.forall_mem_cons] at h ⊢
    simp [base64Groups, h.1, h.2.1]
  | case3 x y =>
    have h := @hval [x, y]
    rw [← base64Bytes_base64Digits [x, y], base64StdEncode]
    simp only [base64Digits, List.forall_mem_cons] at h ⊢
    simp [base64Groups, h.1, h.2.1, h.2.2.1]
  | case4 x y z rest ih =>
    have h := @hval [x, y, z]
    have hby := base64Bytes_base64Digits [x, y, z]
    rw [base64StdEncode]
    simp only [base64Digits, List.forall_mem_cons] at h hby ⊢
    simp [base64Groups, h.1, h.2.1, h.2.2.1, h.2.2.2.1, ih, hby]

end SecureBinding.Go
