import SecureBinding.Lib.Strip
import Mathlib.Algebra.Order.Ring.Int
import Mathlib.Data.List.DropRight
import Mathlib.Data.List.TakeWhile

/-!
# Go.Strings

Go strings and the parts of `strings`, `unicode` and `unicode/utf8` the program
uses.

A Go string is an arbitrary byte sequence, not necessarily UTF-8, so `GoString`
is a list of bytes. The functions below look for the UTF-8 encodings of the
runes they are interested in; since the first byte of an encoding is never a
continuation byte, scanning bytes for a whole encoding finds exactly the runes
that Go's rune-by-rune decoding finds, also in malformed text.
-/

namespace SecureBinding.Go

open Lib (Scanner)

/-- A Go `[]byte`; `nil` and the empty slice are identified. -/
abbrev Bytes := List UInt8

/-- A Go `string`. -/
abbrev GoString := Bytes

/-- Strings are equal when their bytes are. -/
instance : LawfulBEq GoString := inferInstance

/-- A string constant of the source. All of them are ASCII. -/
def lit (s : String) : GoString := s.toList.map fun c => UInt8.ofNat c.toNat

/-- A long string constant, given in pieces. -/
def litPieces (pieces : List String) : GoString := pieces.flatMap lit

/-- Hands the characters of a constant over to an evaluation, which otherwise decodes the
constant. -/
theorem lit_ofList (cs : List Char) :
    lit (String.ofList cs) = cs.map fun c => UInt8.ofNat c.toNat := by
  rw [lit, String.toList_ofList]

theorem litPieces_cons (s : String) (pieces : List String) :
    litPieces (s :: pieces) = lit s ++ litPieces pieces := rfl

/-! ### White space -/

/-- The white-space runes encoded in one byte: `\t \n \v \f \r` and the space. -/
def isSpace1 (a : UInt8) : Bool :=
  a == 0x09 || a == 0x0a || a == 0x0b || a == 0x0c || a == 0x0d || a == 0x20

/-- U+0085 and U+00A0. -/
def isSpace2 (a b : UInt8) : Bool :=
  a == 0xc2 && (b == 0x85 || b == 0xa0)

/-- U+1680, U+2000 to U+200A, U+2028, U+2029, U+202F, U+205F and U+3000. -/
def isSpace3 (a b c : UInt8) : Bool :=
  (a == 0xe1 && b == 0x9a && c == 0x80)
    || (a == 0xe2 && b == 0x80 && (c ≥ 0x80 && c ≤ 0x8a || c == 0xa8 || c == 0xa9 || c == 0xaf))
    || (a == 0xe2 && b == 0x81 && c == 0x9f)
    || (a == 0xe3 && b == 0x80 && c == 0x80)

/-- The number of bytes of the white-space rune (`unicode.IsSpace`) at the front,
`0` if there is none. -/
def spaceLen : Bytes → Nat
  | [] => 0
  | [a] => if isSpace1 a then 1 else 0
  | [a, b] => if isSpace1 a then 1 else if isSpace2 a b then 2 else 0
  | a :: b :: c :: _ =>
    if isSpace1 a then 1 else if isSpace2 a b then 2 else if isSpace3 a b c then 3 else 0

/-- `spaceLen` at the end of a string, whose bytes come in reverse order. -/
def spaceLenRev : Bytes → Nat
  | [] => 0
  | [a] => if isSpace1 a then 1 else 0
  | [a, b] => if isSpace1 a then 1 else if isSpace2 b a then 2 else 0
  | a :: b :: c :: _ =>
    if isSpace1 a then 1 else if isSpace2 b a then 2 else if isSpace3 c b a then 3 else 0

/-- White space at the front of a string. -/
def leadingSpace : Scanner UInt8 where
  len := spaceLen
  len_le l := by
    rcases l with _ | ⟨a, _ | ⟨b, _ | ⟨c, l⟩⟩⟩ <;> simp only [spaceLen] <;> grind
  stable l m h := by
    rcases l with _ | ⟨a, _ | ⟨b, _ | ⟨c, l⟩⟩⟩
    · exact absurd rfl h
    · rcases m with _ | ⟨b, _ | ⟨c, m⟩⟩ <;> simp [spaceLen] at h ⊢ <;> simp [h]
    · rcases m with _ | ⟨c, m⟩ <;> simp [spaceLen] at h ⊢ <;> grind
    · simpa [spaceLen] using h

/-- White space at the end of a string. -/
def trailingSpace : Scanner UInt8 where
  len := spaceLenRev
  len_le l := by
    rcases l with _ | ⟨a, _ | ⟨b, _ | ⟨c, l⟩⟩⟩ <;> simp only [spaceLenRev] <;> grind
  stable l m h := by
    rcases l with _ | ⟨a, _ | ⟨b, _ | ⟨c, l⟩⟩⟩
    · exact absurd rfl h
    · rcases m with _ | ⟨b, _ | ⟨c, m⟩⟩ <;> simp [spaceLenRev] at h ⊢ <;> simp [h]
    · rcases m with _ | ⟨c, m⟩ <;> simp [spaceLenRev] at h ⊢ <;> grind
    · simpa [spaceLenRev] using h

def trimSpace (s : GoString) : GoString := Lib.trim leadingSpace trailingSpace s

@[simp] theorem trimSpace_trimSpace (s : GoString) : trimSpace (trimSpace s) = trimSpace s :=
  Lib.trim_trim s

@[simp] theorem trimSpace_nil : trimSpace [] = [] := Lib.trim_nil

/-- `strings.Trim`, for a cutset of ASCII. -/
def trimCutset (cutset s : GoString) : GoString :=
  ((s.dropWhile cutset.contains).reverse.dropWhile cutset.contains).reverse

variable {s : GoString} {a c : UInt8}

theorem dropWhile_contains_of_forall_notMem {cutset : GoString} (h : ∀ a ∈ s, a ∉ cutset) :
    s.dropWhile cutset.contains = s := by
  cases s with
  | nil => rfl
  | cons a s => exact List.dropWhile_cons_of_neg (by simpa using h a (by simp))

/-- `strings.Trim` takes off what is in the cutset, up to the first bytes that are not. -/
theorem trimCutset_append {cutset left s right : GoString} (hleft : ∀ a ∈ left, a ∈ cutset)
    (hs : ∀ a ∈ s, a ∉ cutset) (hright : ∀ a ∈ right, a ∈ cutset) :
    trimCutset cutset (left ++ (s ++ right)) = s := by
  have hleft' : ∀ a ∈ left, cutset.contains a = true := fun a ha => by simpa using hleft a ha
  have hright' : ∀ a ∈ right.reverse, cutset.contains a = true :=
    fun a ha => by simpa using hright a (by simpa using ha)
  rw [trimCutset, List.dropWhile_append_of_pos hleft']
  cases s with
  | nil =>
    have hnil : right.dropWhile cutset.contains = [] := by
      rw [List.dropWhile_eq_nil_iff]
      exact fun a ha => by simpa using hright a ha
    rw [List.nil_append, hnil]
    rfl
  | cons a s =>
    have hfro : (a :: s ++ right).dropWhile cutset.contains = a :: s ++ right :=
      List.dropWhile_cons_of_neg (by simpa using hs a (by simp))
    rw [hfro, List.reverse_append, List.dropWhile_append_of_pos hright',
      dropWhile_contains_of_forall_notMem, List.reverse_reverse]
    exact fun b hb => hs b (List.mem_reverse.mp hb)

theorem trimCutset_isPrefix (cutset s : GoString) :
    trimCutset cutset s <+: s.dropWhile cutset.contains := by
  rw [← List.reverse_suffix, trimCutset, List.reverse_reverse]
  exact List.dropWhile_suffix _

theorem trimCutset_subset (cutset s : GoString) : trimCutset cutset s ⊆ s :=
  List.Subset.trans (trimCutset_isPrefix cutset s).subset (List.dropWhile_suffix _).subset

theorem trimCutset_trimCutset (cutset s : GoString) :
    trimCutset cutset (trimCutset cutset s) = trimCutset cutset s := by
  -- The front is trimmed already, so that only the back is looked at again.
  have hfro : (trimCutset cutset s).dropWhile cutset.contains = trimCutset cutset s := by
    rw [List.dropWhile_eq_self_iff]
    intro hpos
    rw [(trimCutset_isPrefix cutset s).getElem hpos]
    exact List.dropWhile_get_zero_not _ _ _
  rw [trimCutset, hfro, trimCutset, List.reverse_reverse, List.dropWhile_idempotent]

/-- `strings.TrimSpace(s) == ""`. -/
def isBlank (s : GoString) : Bool := trimSpace s == []

theorem isBlank_eq_false_iff : isBlank s = false ↔ trimSpace s ≠ [] := by
  simp [isBlank]

/-- The fields found so far, with the one being read (if any) closed. -/
def closeField (field : GoString) : List GoString :=
  if field = [] then [] else [field]

/-- `strings.Fields` on what is left of the input, `field` being the field read
so far. The first argument bounds the number of runes left. -/
def fieldsFrom : Nat → GoString → GoString → List GoString
  | 0, field, _ => closeField field
  | _ + 1, field, [] => closeField field
  | n + 1, field, a :: s =>
    if spaceLen (a :: s) = 0 then fieldsFrom n (field ++ [a]) s
    else closeField field ++ fieldsFrom n [] ((a :: s).drop (spaceLen (a :: s)))

/-- `strings.Fields`: the maximal runs of bytes between white space. -/
def fields (s : GoString) : List GoString := fieldsFrom (s.length + 1) [] s

/-- `strings.Split(s, sep)` for a one-byte separator. -/
def split (sep : UInt8) (s : GoString) : List GoString := s.splitOn sep

theorem split_of_notMem {sep : UInt8} (h : sep ∉ s) : split sep s = [s] := by
  apply List.splitOnP_eq_singleton
  intro a ha
  rw [beq_eq_false_iff_ne]
  rintro rfl
  exact h ha

theorem split_append_cons {sep : UInt8} {t : GoString} (h : sep ∉ s) :
    split sep (s ++ sep :: t) = s :: split sep t := by
  apply List.splitOnP_append_cons_of_forall_mem
  · intro a ha
    rw [beq_eq_false_iff_ne]
    rintro rfl
    exact h ha
  · exact beq_self_eq_true sep

/-- The slice `s[lo:hi]`. -/
def slice (s : Bytes) (lo hi : Nat) : Bytes := (s.take hi).drop lo

/-- The slice that holds the middle one of three parts. -/
theorem slice_append {a b c : Bytes} {lo hi : Nat} (hlo : lo = a.length)
    (hhi : hi = a.length + b.length) : slice (a ++ (b ++ c)) lo hi = b := by
  subst hlo hhi
  rw [slice, ← List.append_assoc, ← List.length_append, List.take_left, List.drop_left]

/-! ### Case folding -/

def contains (s substr : GoString) : Bool := s.tails.any fun rest => substr.isPrefixOf rest

/-- `strings.Replace` of one byte by another, once. -/
def replaceFirst (old new : UInt8) : GoString → GoString
  | [] => []
  | a :: s => if a = old then new :: s else a :: replaceFirst old new s

/-- The lower-case form of an ASCII letter. -/
def asciiLower (a : UInt8) : UInt8 :=
  if 0x41 ≤ a ∧ a ≤ 0x5a then a + 0x20 else a

/-- `strings.EqualFold(s, t)` for a constant `t` of ASCII letters other than `k`
and `s`, which no rune outside ASCII folds to. -/
def equalFoldASCII (s t : GoString) : Bool := s.map asciiLower == t.map asciiLower

/-- The number of bytes at the front of `s` that fold to the ASCII byte `c`, `0` if they do
not. Outside ASCII only U+017F and U+212A fold to an ASCII letter, to `s` and to `k`. -/
def foldLen (c : UInt8) (s : GoString) : Nat :=
  if s.head?.map asciiLower = some (asciiLower c) then 1
  else if asciiLower c = 0x73 ∧ [0xc5, 0xbf].isPrefixOf s then 2
  else if asciiLower c = 0x6b ∧ [0xe2, 0x84, 0xaa].isPrefixOf s then 3
  else 0

/-- `strings.EqualFold(s, t)` for a constant `t` of ASCII. -/
def equalFold : GoString → GoString → Bool
  | s, [] => s.isEmpty
  | s, c :: t => foldLen c s != 0 && equalFold (s.drop (foldLen c s)) t

/-- In ASCII only the letters fold. -/
theorem equalFoldASCII_of_equalFold {t : GoString} (hs : ∀ a ∈ s, a < 0x80)
    (h : equalFold s t = true) : equalFoldASCII s t = true := by
  induction t generalizing s with
  | nil =>
    have hnil : s = [] := List.isEmpty_iff.mp h
    rw [hnil]
    rfl
  | cons c t ih =>
    obtain ⟨hlen, hrest⟩ := Bool.and_eq_true_iff.mp h
    cases s with
    | nil => simp [foldLen] at hlen
    | cons a s =>
      by_cases hfold : asciiLower a = asciiLower c
      · have hone : foldLen c (a :: s) = 1 := by simp [foldLen, hfold]
        rw [hone] at hrest
        have htail := ih (fun b hb => hs b (List.mem_cons_of_mem _ hb)) hrest
        simpa [equalFoldASCII, hfold] using htail
      · -- The other two foldings start with a byte outside ASCII.
        have ha := hs a List.mem_cons_self
        have hfirst : a ≠ 0xc5 ∧ a ≠ 0xe2 := by
          constructor <;> rintro rfl <;> exact absurd ha (by decide)
        simp [foldLen, hfold, List.isPrefixOf_cons_cons, hfirst.1.symm, hfirst.2.symm] at hlen

/-- `strings.ToLower`; `unicodeLower` is what it does with strings outside ASCII. -/
def toLower (unicodeLower : GoString → GoString) (s : GoString) : GoString :=
  if s.all (· < 0x80) then s.map asciiLower else unicodeLower s

/-! ### UTF-8 -/

def isCont (a : UInt8) : Bool := 0x80 ≤ a && a ≤ 0xbf

/-- A two-byte rune. -/
def isRune2 (a b : UInt8) : Bool := 0xc2 ≤ a && a ≤ 0xdf && isCont b

/-- A three-byte rune: neither overlong nor a surrogate. -/
def isRune3 (a b c : UInt8) : Bool :=
  0xe0 ≤ a && a ≤ 0xef && isCont b && isCont c
    && !(a == 0xe0 && b < 0xa0) && !(a == 0xed && b ≥ 0xa0)

/-- A four-byte rune: neither overlong nor above U+10FFFF. -/
def isRune4 (a b c d : UInt8) : Bool :=
  0xf0 ≤ a && a ≤ 0xf4 && isCont b && isCont c && isCont d
    && !(a == 0xf0 && b < 0x90) && !(a == 0xf4 && b ≥ 0x90)

/-- The number of bytes of the rune at the front, `0` if the text is malformed
there or there is none. -/
def runeLen : Bytes → Nat
  | [] => 0
  | [a] => if a < 0x80 then 1 else 0
  | [a, b] => if a < 0x80 then 1 else if isRune2 a b then 2 else 0
  | [a, b, c] =>
    if a < 0x80 then 1 else if isRune2 a b then 2 else if isRune3 a b c then 3 else 0
  | a :: b :: c :: d :: _ =>
    if a < 0x80 then 1 else if isRune2 a b then 2 else if isRune3 a b c then 3
    else if isRune4 a b c d then 4 else 0

/-- `utf8.ValidString` on a string of at most `n` runes. -/
def validStringN : Nat → GoString → Bool
  | _, [] => true
  | 0, _ :: _ => false
  | n + 1, a :: s =>
    runeLen (a :: s) != 0 && validStringN n ((a :: s).drop (runeLen (a :: s)))

def validString (s : GoString) : Bool := validStringN s.length s

/-- Does a control rune (`unicode.IsControl`) start at the front of a valid
string? These are U+0000 to U+001F and U+007F to U+009F. -/
def startsWithControl : Bytes → Bool
  | [] => false
  | [a] => a < 0x20 || a == 0x7f
  | a :: b :: _ => a < 0x20 || a == 0x7f || (a == 0xc2 && b < 0xa0)

/-! ### Graphic ASCII -/

/-- A byte of ASCII that shows: neither a space nor a control. -/
def IsGraphic (a : UInt8) : Prop := 0x21 ≤ a ∧ a < 0x7f

/-- A byte of ASCII that is no white space. It is then no part of a white-space rune. -/
def IsSolid (a : UInt8) : Prop := isSpace1 a = false ∧ a < 0x80

theorem IsGraphic.isSolid (h : IsGraphic a) : IsSolid a := by
  obtain ⟨h1, h2⟩ := h
  have h80 : (0x7f : UInt8) < 0x80 := by decide
  refine ⟨?_, UInt8.lt_trans h2 h80⟩
  simp only [isSpace1]
  grind

theorem spaceLen_of_isSolid {s : Bytes} (h : IsSolid a) : spaceLen (a :: s) = 0 := by
  obtain ⟨h1, hhigh⟩ := h
  have h2 : ∀ b, isSpace2 a b = false := by simp only [isSpace2]; grind
  have h3 : ∀ b c, isSpace3 a b c = false := by simp only [isSpace3]; grind
  rcases s with _ | ⟨b, _ | ⟨c, s⟩⟩ <;> simp [spaceLen, h1, h2, h3]

theorem spaceLenRev_of_isSolid {s : Bytes} (h : IsSolid a) : spaceLenRev (a :: s) = 0 := by
  obtain ⟨h1, hhigh⟩ := h
  have h2 : ∀ b, isSpace2 b a = false := by simp only [isSpace2]; grind
  have h3 : ∀ b c, isSpace3 c b a = false := by simp only [isSpace3]; grind
  rcases s with _ | ⟨b, _ | ⟨c, s⟩⟩ <;> simp [spaceLenRev, h1, h2, h3]

theorem leadingSpace_stopsAt (h : IsSolid c) : leadingSpace.StopsAt c := by
  have h2 : ∀ a, isSpace2 a c = false := by
    obtain ⟨h1, hhigh⟩ := h
    simp only [isSpace2]
    grind
  have h3 : ∀ a b, isSpace3 a c b = false ∧ isSpace3 a b c = false := by
    obtain ⟨h1, hhigh⟩ := h
    simp only [isSpace3]
    grind
  intro x y
  show spaceLen (x ++ c :: y) = spaceLen x
  rcases x with _ | ⟨a, _ | ⟨b, _ | ⟨d, x⟩⟩⟩
  · exact spaceLen_of_isSolid h
  · rcases y with _ | ⟨e, y⟩ <;> simp [spaceLen, h2, h3]
  · simp [spaceLen, h3]
  · rfl

theorem trailingSpace_stopsAt (h : IsSolid c) : trailingSpace.StopsAt c := by
  have h2 : ∀ a, isSpace2 c a = false := by
    obtain ⟨h1, hhigh⟩ := h
    simp only [isSpace2]
    grind
  have h3 : ∀ a b, isSpace3 a c b = false ∧ isSpace3 c a b = false := by
    obtain ⟨h1, hhigh⟩ := h
    simp only [isSpace3]
    grind
  intro x y
  show spaceLenRev (x ++ c :: y) = spaceLenRev x
  rcases x with _ | ⟨a, _ | ⟨b, _ | ⟨d, x⟩⟩⟩
  · exact spaceLenRev_of_isSolid h
  · rcases y with _ | ⟨e, y⟩ <;> simp [spaceLenRev, h2, h3]
  · simp [spaceLenRev, h3]
  · rfl

theorem isBlank_of_mem (h : IsSolid c) (hmem : c ∈ s) : isBlank s = false := by
  obtain ⟨x, y, rfl⟩ := List.append_of_mem hmem
  rw [isBlank_eq_false_iff, trimSpace,
    Lib.trim_append_cons (leadingSpace_stopsAt h) (trailingSpace_stopsAt h)]
  simp

theorem trimSpace_of_isGraphic (h : ∀ a ∈ s, IsGraphic a) : trimSpace s = s := by
  have hlead : leadingSpace.strip s = s := by
    apply Scanner.strip_of_len_eq_zero
    cases s with
    | nil => rfl
    | cons a s => exact spaceLen_of_isSolid (h a (by simp)).isSolid
  have htrail : trailingSpace.strip s.reverse = s.reverse := by
    apply Scanner.strip_of_len_eq_zero
    cases hr : s.reverse with
    | nil => rfl
    | cons a t =>
      have hmem : a ∈ s := by rw [← List.mem_reverse, hr]; simp
      exact spaceLenRev_of_isSolid (h a hmem).isSolid
  rw [trimSpace, Lib.trim, hlead, htrail, List.reverse_reverse]

/-- A line break after a text of graphic bytes is trimmed away. -/
theorem trimSpace_append_newline (h : ∀ a ∈ s, IsGraphic a) : trimSpace (s ++ [0x0a]) = s := by
  cases s with
  | nil => decide
  | cons a s =>
    have hlead : leadingSpace.strip ((a :: s) ++ [0x0a]) = (a :: s) ++ [0x0a] := by
      apply Scanner.strip_of_len_eq_zero
      exact spaceLen_of_isSolid (h a (by simp)).isSolid
    have hline : ∀ t : Bytes, trailingSpace.len (0x0a :: t) = 1 := by
      intro t
      rcases t with _ | ⟨b, _ | ⟨c, t⟩⟩ <;> rfl
    have hrest : trailingSpace.len (a :: s).reverse = 0 := by
      cases hr : (a :: s).reverse with
      | nil => rfl
      | cons b t =>
        have hmem : b ∈ a :: s := by rw [← List.mem_reverse, hr]; simp
        exact spaceLenRev_of_isSolid (h b hmem).isSolid
    have htrail : trailingSpace.strip (0x0a :: (a :: s).reverse) = (a :: s).reverse := by
      rw [Scanner.strip, List.length_cons, Scanner.stripN, hline, if_neg Nat.one_ne_zero]
      exact Scanner.stripN_of_len_eq_zero _ hrest _
    rw [trimSpace, Lib.trim, hlead, List.reverse_append, List.reverse_singleton,
      List.singleton_append, htrail, List.reverse_reverse]

theorem isBlank_of_isGraphic (h : ∀ a ∈ s, IsGraphic a) (hne : s ≠ []) : isBlank s = false := by
  rw [isBlank_eq_false_iff, trimSpace_of_isGraphic h]
  exact hne

theorem validString_of_isGraphic (h : ∀ a ∈ s, IsGraphic a) : validString s = true := by
  unfold validString
  induction s with
  | nil => rfl
  | cons a s ih =>
    have hrune : runeLen (a :: s) = 1 := by
      have ha : a < 0x80 := by
        have := (h a (by simp)).2
        grind
      rcases s with _ | ⟨b, _ | ⟨c, _ | ⟨d, s⟩⟩⟩ <;> simp [runeLen, ha]
    rw [List.length_cons, validStringN, hrune]
    simpa using ih fun b hb => h b (List.mem_cons_of_mem a hb)

/-! ### Cutting UTF-8 -/

theorem not_isCont_of_runeLen {a : UInt8} {s : Bytes} (h : runeLen (a :: s) ≠ 0) :
    isCont a = false := by
  rcases s with _ | ⟨b, _ | ⟨c, _ | ⟨d, s⟩⟩⟩ <;>
    simp only [runeLen, isRune2, isRune3, isRune4, isCont] at h ⊢ <;> grind

theorem isCont_of_lt_runeLen {s : Bytes} {k : Nat} (hpos : 0 < k) (hlt : k < runeLen s) :
    ∃ a, s[k]? = some a ∧ isCont a = true := by
  rcases s with _ | ⟨a, _ | ⟨b, _ | ⟨c, _ | ⟨d, s⟩⟩⟩⟩ <;>
    simp only [runeLen, isRune2, isRune3, isRune4] at hlt <;>
    rcases k with _ | _ | _ | _ | k <;> grind

theorem runeLen_take {s : Bytes} {k : Nat} (h : runeLen s ≤ k) : runeLen (s.take k) = runeLen s := by
  rcases s with _ | ⟨a, _ | ⟨b, _ | ⟨c, _ | ⟨d, s⟩⟩⟩⟩ <;>
    rcases k with _ | _ | _ | _ | k <;> simp only [runeLen, List.take_nil, List.take_succ_cons, List.take_zero] at h ⊢ <;> grind

theorem validStringN_eq : ∀ {n m : Nat} {s : GoString}, s.length ≤ n → s.length ≤ m →
    validStringN n s = validStringN m s
  | _, _, [], _, _ => by simp [validStringN]
  | n + 1, m + 1, a :: s, hn, hm => by
    rw [validStringN, validStringN]
    by_cases h : runeLen (a :: s) = 0
    · simp [h]
    · have hlt : ((a :: s).drop (runeLen (a :: s))).length ≤ s.length := by
        rw [List.length_drop, List.length_cons]
        omega
      rw [List.length_cons] at hn hm
      rw [@validStringN_eq n m _ (by omega) (by omega)]

theorem validString_iff {s : GoString} (hne : s ≠ []) :
    validString s = true ↔ runeLen s ≠ 0 ∧ validString (s.drop (runeLen s)) = true := by
  obtain ⟨a, s, rfl⟩ := List.exists_cons_of_ne_nil hne
  rw [validString, List.length_cons, validStringN, Bool.and_eq_true, bne_iff_ne]
  refine and_congr_right fun h => ?_
  rw [validString, validStringN_eq _ (Nat.le_refl _)]
  rw [List.length_drop, List.length_cons]
  omega

/-- Valid text can be cut before any byte that is no continuation. -/
theorem validString_cut {s : GoString} {k : Nat} (h : validString s = true)
    (hk : ∀ a, s[k]? = some a → isCont a = false) :
    validString (s.take k) = true ∧ validString (s.drop k) = true := by
  induction hn : s.length using Nat.strong_induction_on generalizing s k with
  | _ n ih =>
    rcases Nat.eq_zero_or_pos k with rfl | hpos
    · exact ⟨rfl, h⟩
    by_cases hne : s = []
    · subst hne
      simp [validString, validStringN]
    obtain ⟨hrune, hrest⟩ := (validString_iff hne).mp h
    have hle : runeLen s ≤ k := by
      by_contra hlt
      obtain ⟨a, ha, hcont⟩ := isCont_of_lt_runeLen hpos (Nat.not_le.mp hlt)
      simp [hk a ha] at hcont
    have hlen := List.length_pos_iff.mpr hne
    obtain ⟨htake, hdrop⟩ := @ih _ (by rw [← hn, List.length_drop]; omega) _ (k - runeLen s) hrest
      (by simpa [Nat.add_sub_cancel' hle] using hk) rfl
    refine ⟨(validString_iff (by simp [hne]; omega)).mpr ?_, ?_⟩
    · rw [runeLen_take hle, List.drop_take]
      exact ⟨hrune, htake⟩
    · rwa [List.drop_drop, Nat.add_sub_cancel' hle] at hdrop

/-! ### Decimal numbers -/

/-- The digit of a number below ten. -/
def digit (n : Nat) : UInt8 := UInt8.ofNat (0x30 + n)

/-- The decimal digits of a number with at most `k + 1` of them. -/
def formatNatN : Nat → Nat → Bytes
  | 0, n => [digit n]
  | k + 1, n => if n < 10 then [digit n] else formatNatN k (n / 10) ++ [digit (n % 10)]

/-- `strconv.FormatUint`, in base ten. -/
def formatNat (n : Nat) : Bytes := formatNatN n n

/-- `strconv.FormatInt`, in base ten. -/
def formatInt : Int → Bytes
  | .ofNat n => formatNat n
  | .negSucc n => 0x2d :: formatNat (n + 1)

end SecureBinding.Go
