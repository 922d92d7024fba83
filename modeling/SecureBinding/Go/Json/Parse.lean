import SecureBinding.Go.Json.Lexer

/-!
# Go.Json.Parse

JSON values and the grammar of `encoding/json` above the lexical level.

A value keeps the members of its objects in the order of the text, duplicates
included: what becomes of duplicates is decided by whoever decodes the value.
`Json.lexemes` spells a value; `parseLexemes` is the parser, and
`parseLexemes_eq_some_iff` says that it accepts exactly the spellings.
-/

namespace SecureBinding.Go

open Go.Json (Lexeme lex)

inductive Json
  | null
  | bool (value : Bool)
  | num (raw : Bytes)
  | str (value : GoString)
  | arr (items : List Json)
  | obj (members : List (GoString × Json))

namespace Json

/-! ### Spelling -/

mutual

def lexemes : Json → List Lexeme
  | null => [.null]
  | bool b => [.bool b]
  | num raw => [.num raw]
  | str s => [.str s]
  | arr [] => [.lbrack, .rbrack]
  | arr (v :: vs) => .lbrack :: (lexemes v ++ itemLexemes vs ++ [.rbrack])
  | obj [] => [.lbrace, .rbrace]
  | obj ((name, v) :: ms) =>
    .lbrace :: .str name :: .colon :: (lexemes v ++ memberLexemes ms ++ [.rbrace])

/-- The items of an array after its first. -/
def itemLexemes : List Json → List Lexeme
  | [] => []
  | v :: vs => .comma :: (lexemes v ++ itemLexemes vs)

/-- The members of an object after its first. -/
def memberLexemes : List (GoString × Json) → List Lexeme
  | [] => []
  | (name, v) :: ms => .comma :: .str name :: .colon :: (lexemes v ++ memberLexemes ms)

end

/-! ### Parsing -/

/-- One parser after another, on what the first one leaves. -/
def andThen {α β γ : Type} (p : Option (α × List Lexeme))
    (q : List Lexeme → Option (β × List Lexeme)) (f : α → β → γ) : Option (γ × List Lexeme) :=
  match p with
  | none => none
  | some (a, rest) =>
    match q rest with
    | none => none
    | some (b, rest) => some (f a b, rest)

mutual

/-- The value at the front of the lexemes, and what follows it. The first argument
bounds the depth of the recursion. -/
def parseValue : Nat → List Lexeme → Option (Json × List Lexeme)
  | 0, _ => none
  | _ + 1, .null :: rest => some (null, rest)
  | _ + 1, .bool b :: rest => some (bool b, rest)
  | _ + 1, .num raw :: rest => some (num raw, rest)
  | _ + 1, .str s :: rest => some (str s, rest)
  | _ + 1, .lbrack :: .rbrack :: rest => some (arr [], rest)
  | n + 1, .lbrack :: rest =>
    andThen (parseValue n rest) (parseItems n) fun v vs => arr (v :: vs)
  | _ + 1, .lbrace :: .rbrace :: rest => some (obj [], rest)
  | n + 1, .lbrace :: .str name :: .colon :: rest =>
    andThen (parseValue n rest) (parseMembers n) fun v ms => obj ((name, v) :: ms)
  | _ + 1, _ => none

/-- The items of an array after its first, up to and including the bracket. -/
def parseItems : Nat → List Lexeme → Option (List Json × List Lexeme)
  | 0, _ => none
  | _ + 1, .rbrack :: rest => some ([], rest)
  | n + 1, .comma :: rest =>
    andThen (parseValue n rest) (parseItems n) fun v vs => v :: vs
  | _ + 1, _ => none

/-- The members of an object after its first, up to and including the brace. -/
def parseMembers : Nat → List Lexeme → Option (List (GoString × Json) × List Lexeme)
  | 0, _ => none
  | _ + 1, .rbrace :: rest => some ([], rest)
  | n + 1, .comma :: .str name :: .colon :: rest =>
    andThen (parseValue n rest) (parseMembers n) fun v ms => (name, v) :: ms
  | _ + 1, _ => none

end

def parseLexemes (ls : List Lexeme) : Option Json :=
  match parseValue ls.length ls with
  | some (v, []) => some v
  | _ => none

mutual

/-- How deeply arrays and objects are nested. -/
def depth : Json → Nat
  | arr vs => depthItems vs + 1
  | obj ms => depthMembers ms + 1
  | _ => 0

/-- The largest depth of a list of values. -/
def depthItems : List Json → Nat
  | [] => 0
  | v :: vs => max (depth v) (depthItems vs)

/-- The largest depth of the values of a list of members. -/
def depthMembers : List (GoString × Json) → Nat
  | [] => 0
  | (_, v) :: ms => max (depth v) (depthMembers ms)

end

def maxNestingDepth : Nat := 10000

/-- The value of a text that `json.Unmarshal` finds valid. -/
def parse (text : Bytes) : Option Json :=
  (parseLexemes (lex text)).filter fun v => v.depth ≤ maxNestingDepth

/-! ### The parser accepts spellings only -/

theorem andThen_eq_some_iff {α β γ : Type} {p : Option (α × List Lexeme)}
    {q : List Lexeme → Option (β × List Lexeme)} {f : α → β → γ} {c : γ} {rest : List Lexeme} :
    andThen p q f = some (c, rest) ↔
      ∃ a r b, p = some (a, r) ∧ q r = some (b, rest) ∧ f a b = c := by
  unfold andThen
  constructor
  · intro h
    split at h
    · cases h
    · rename_i a r
      split at h
      · cases h
      · rename_i b r' hq
        obtain ⟨rfl, rfl⟩ := h
        exact ⟨a, r, b, rfl, hq, rfl⟩
  · rintro ⟨a, r, b, rfl, hq, rfl⟩
    simp [hq]

/-- One fact about each of the three parsers, for a bound on the recursion. -/
structure ParsersSound (n : Nat) : Prop where
  value : ∀ {ls v rest}, parseValue n ls = some (v, rest) → ls = v.lexemes ++ rest
  items : ∀ {ls vs rest}, parseItems n ls = some (vs, rest) → ls = itemLexemes vs ++ .rbrack :: rest
  members : ∀ {ls ms rest}, parseMembers n ls = some (ms, rest) →
    ls = memberLexemes ms ++ .rbrace :: rest

theorem parsersSound (n : Nat) : ParsersSound n := by
  induction n with
  | zero => exact ⟨by simp [parseValue], by simp [parseItems], by simp [parseMembers]⟩
  | succ n ih =>
    -- One induction on the fuel for the three parsers, which call each other.
    refine ⟨fun {ls v rest} h => ?_, fun {ls vs rest} h => ?_, fun {ls ms rest} h => ?_⟩
    · unfold parseValue at h
      split at h
      case h_1 => contradiction
      case h_2 | h_3 | h_4 | h_5 | h_6 | h_8 =>
        obtain ⟨rfl, rfl⟩ := h
        rfl
      case h_7 _ hn =>
        obtain rfl := Nat.succ.inj hn
        obtain ⟨v₁, r₁, vs, hv, hvs, rfl⟩ := andThen_eq_some_iff.mp h
        rw [ih.value hv, ih.items hvs]
        simp [lexemes]
      case h_9 hn =>
        obtain rfl := Nat.succ.inj hn
        obtain ⟨v₁, r₁, ms, hv, hms, rfl⟩ := andThen_eq_some_iff.mp h
        rw [ih.value hv, ih.members hms]
        simp [lexemes]
      case h_10 => cases h
    · unfold parseItems at h
      split at h
      case h_1 => contradiction
      case h_2 =>
        obtain ⟨rfl, rfl⟩ := h
        rfl
      case h_3 hn =>
        obtain rfl := Nat.succ.inj hn
        obtain ⟨v₁, r₁, vs, hv, hvs, rfl⟩ := andThen_eq_some_iff.mp h
        rw [ih.value hv, ih.items hvs]
        simp [itemLexemes]
      case h_4 => cases h
    · unfold parseMembers at h
      split at h
      case h_1 => contradiction
      case h_2 =>
        obtain ⟨rfl, rfl⟩ := h
        rfl
      case h_3 hn =>
        obtain rfl := Nat.succ.inj hn
        obtain ⟨v₁, r₁, ms, hv, hms, rfl⟩ := andThen_eq_some_iff.mp h
        rw [ih.value hv, ih.members hms]
        simp [memberLexemes]
      case h_4 => cases h

/-! ### The parser accepts every spelling -/

/-- A value does not start with a closing bracket or brace, a comma or a colon. -/
theorem exists_lexemes_eq_cons (v : Json) :
    ∃ l ls, v.lexemes = l :: ls ∧ l ≠ .rbrack ∧ l ≠ .rbrace ∧ l ≠ .comma ∧ l ≠ .colon := by
  rcases v with _ | _ | _ | _ | (_ | ⟨_, _⟩) | (_ | ⟨⟨_, _⟩, _⟩) <;>
    exact ⟨_, _, by rw [lexemes], by simp⟩

theorem parseValue_lbrack {n : Nat} {v : Json} {rest : List Lexeme} :
    parseValue (n + 1) (.lbrack :: (v.lexemes ++ rest)) =
      andThen (parseValue n (v.lexemes ++ rest)) (parseItems n) fun v vs => arr (v :: vs) := by
  obtain ⟨l, ls, hl, hne, -⟩ := v.exists_lexemes_eq_cons
  rw [hl, parseValue]
  intro rest h
  simp only [List.cons_append, List.cons.injEq] at h
  exact hne h.1

mutual

theorem parseValue_lexemes : ∀ (v : Json) (n : Nat) (rest : List Lexeme),
    v.lexemes.length ≤ n → parseValue n (v.lexemes ++ rest) = some (v, rest)
  | null, n + 1, rest, _ => by simp [lexemes, parseValue]
  | bool b, n + 1, rest, _ => by simp [lexemes, parseValue]
  | num raw, n + 1, rest, _ => by simp [lexemes, parseValue]
  | str s, n + 1, rest, _ => by simp [lexemes, parseValue]
  | arr [], n + 1, rest, _ => by simp [lexemes, parseValue]
  | obj [], n + 1, rest, _ => by simp [lexemes, parseValue]
  | arr (v :: vs), n + 1, rest, h => by
    simp only [lexemes, List.length_cons, List.length_append] at h
    have hv := parseValue_lexemes v n (itemLexemes vs ++ .rbrack :: rest) (by omega)
    have hvs := parseItems_lexemes vs n rest (by omega)
    simp only [lexemes, List.cons_append, List.append_assoc, List.nil_append, parseValue_lbrack]
    exact andThen_eq_some_iff.mpr ⟨v, _, vs, hv, hvs, rfl⟩
  | obj ((name, v) :: ms), n + 1, rest, h => by
    simp only [lexemes, List.length_cons, List.length_append] at h
    have hv := parseValue_lexemes v n (memberLexemes ms ++ .rbrace :: rest) (by omega)
    have hms := parseMembers_lexemes ms n rest (by omega)
    simp only [lexemes, List.cons_append, List.append_assoc, List.nil_append, parseValue]
    exact andThen_eq_some_iff.mpr ⟨v, _, ms, hv, hms, rfl⟩
  | v, 0, rest, h => by
    obtain ⟨l, ls, hl, -⟩ := v.exists_lexemes_eq_cons
    simp [hl] at h

theorem parseItems_lexemes : ∀ (vs : List Json) (n : Nat) (rest : List Lexeme),
    (itemLexemes vs).length < n → parseItems n (itemLexemes vs ++ .rbrack :: rest) = some (vs, rest)
  | [], n + 1, rest, _ => by simp [itemLexemes, parseItems]
  | v :: vs, n + 1, rest, h => by
    simp only [itemLexemes, List.length_cons, List.length_append] at h
    have hv := parseValue_lexemes v n (itemLexemes vs ++ .rbrack :: rest) (by omega)
    have hvs := parseItems_lexemes vs n rest (by omega)
    simp only [itemLexemes, List.cons_append, List.append_assoc, parseItems]
    exact andThen_eq_some_iff.mpr ⟨v, _, vs, hv, hvs, rfl⟩

theorem parseMembers_lexemes : ∀ (ms : List (GoString × Json)) (n : Nat) (rest : List Lexeme),
    (memberLexemes ms).length < n →
      parseMembers n (memberLexemes ms ++ .rbrace :: rest) = some (ms, rest)
  | [], n + 1, rest, _ => by simp [memberLexemes, parseMembers]
  | (name, v) :: ms, n + 1, rest, h => by
    simp only [memberLexemes, List.length_cons, List.length_append] at h
    have hv := parseValue_lexemes v n (memberLexemes ms ++ .rbrace :: rest) (by omega)
    have hms := parseMembers_lexemes ms n rest (by omega)
    simp only [memberLexemes, List.cons_append, List.append_assoc, parseMembers]
    exact andThen_eq_some_iff.mpr ⟨v, _, ms, hv, hms, rfl⟩

end

/-- The parser reads a list of lexemes exactly as the value that it spells. -/
theorem parseLexemes_eq_some_iff {ls : List Lexeme} {v : Json} :
    parseLexemes ls = some v ↔ ls = v.lexemes := by
  unfold parseLexemes
  constructor
  · intro h
    split at h
    · rename_i v' hv
      obtain rfl : v' = v := by simpa using h
      simpa using (parsersSound _).value hv
    · cases h
  · rintro rfl
    have h := parseValue_lexemes v v.lexemes.length [] (Nat.le_refl _)
    rw [List.append_nil] at h
    rw [h]

theorem lex_eq_of_parse {text : Bytes} {v : Json} (h : parse text = some v) :
    lex text = v.lexemes :=
  parseLexemes_eq_some_iff.mp (Option.filter_eq_some_iff.mp h).1

end Json

end SecureBinding.Go
