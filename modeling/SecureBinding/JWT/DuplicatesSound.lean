import SecureBinding.Go.Json.Unmarshal
import SecureBinding.JWT.Duplicates

/-!
# JWT.DuplicatesSound

The duplicate-member scanner is a walk over tokens, the decoder works on values.
This module relates the two: on the spelling of a value the walk succeeds exactly
when no object in the value, at any depth, has two members of one name
(`scanValue_lexemes`).
-/

namespace SecureBinding.JWT

open Go Go.Json

variable {stray : Decoder → Except ScanError Decoder} {n : Nat} {state : TokenState}
  {stack : List TokenState} {rest ls : List Lexeme} {d : Decoder}

/-! ### Steps of the walk -/

theorem scanValue_succ :
    scanValue stray (n + 1) d =
      match d.token with
      | .error e => .error (.token e)
      | .ok (.openObject, d) => (scanMembers stray n [] d).bind skipToken
      | .ok (.openArray, d) => (scanItems stray n d).bind skipToken
      | .ok (.closeObject, d) => stray d
      | .ok (.closeArray, d) => stray d
      | .ok (_, d) => .ok d :=
  rfl

theorem scanMembers_succ {seen : List GoString} :
    scanMembers stray (n + 1) seen d =
      if d.more then
        match d.token with
        | .error e => .error (.token e)
        | .ok (.str name, d) =>
          if seen.contains name then .error .duplicateMember
          else (scanValue stray n d).bind (scanMembers stray n (name :: seen))
        | .ok _ => .error .nonStringKey
      else .ok d :=
  rfl

theorem scanItems_succ :
    scanItems stray (n + 1) d =
      if d.more then (scanValue stray n d).bind (scanItems stray n) else .ok d :=
  rfl

theorem scanValue_comma :
    scanValue stray n ⟨.comma :: ls, .arrayComma, stack⟩ =
      scanValue stray n ⟨ls, .arrayValue, stack⟩ := by
  cases n with
  | zero => rfl
  | succ n => simp [scanValue_succ]

/-- The colon before the value of a member is skipped. -/
theorem scanValue_colon :
    scanValue stray n ⟨.colon :: ls, .objectColon, stack⟩ =
      scanValue stray n ⟨ls, .objectValue, stack⟩ := by
  cases n with
  | zero => rfl
  | succ n => simp [scanValue_succ]

/-- A value does not look like the end of an array or object. -/
theorem more_lexemes {v : Json} : Decoder.more ⟨v.lexemes ++ ls, state, stack⟩ = true := by
  obtain ⟨l, ls', hl, hrbrack, hrbrace, -⟩ := v.exists_lexemes_eq_cons
  simp [Decoder.more, hl, hrbrack, hrbrace]

/-- At its closing bracket the walk leaves an array. -/
theorem skipToken_rbrack (h : state = .arrayStart ∨ state = .arrayComma) {outer : TokenState} :
    skipToken ⟨.rbrack :: rest, state, outer :: stack⟩ = .ok ⟨rest, outer.valueEnd, stack⟩ := by
  simp [skipToken, closeToken, h]

/-- At its closing brace the walk leaves an object. -/
theorem skipToken_rbrace (h : state = .objectStart ∨ state = .objectComma) {outer : TokenState} :
    skipToken ⟨.rbrace :: rest, state, outer :: stack⟩ = .ok ⟨rest, outer.valueEnd, stack⟩ := by
  simp [skipToken, closeToken, h]

theorem scanValue_lbrack (h : state.valueAllowed = true) :
    scanValue stray (n + 1) ⟨.lbrack :: ls, state, stack⟩ =
      (scanItems stray n ⟨ls, .arrayStart, state :: stack⟩).bind skipToken := by
  simp [scanValue_succ, openToken, h]

theorem scanValue_lbrace (h : state.valueAllowed = true) :
    scanValue stray (n + 1) ⟨.lbrace :: ls, state, stack⟩ =
      (scanMembers stray n [] ⟨ls, .objectStart, state :: stack⟩).bind skipToken := by
  simp [scanValue_succ, openToken, h]

/-- One member: its name is new, its value is walked over, and the loop goes on. -/
theorem scanMembers_name {seen : List GoString} {name : GoString}
    (h : state = .objectStart ∨ state = .objectKey) :
    scanMembers stray (n + 1) seen ⟨.str name :: .colon :: ls, state, stack⟩ =
      if seen.contains name then .error .duplicateMember
      else (scanValue stray n ⟨ls, .objectValue, stack⟩).bind
        (scanMembers stray n (name :: seen)) := by
  simp [scanMembers_succ, Decoder.more, h, scanValue_colon]

theorem scanMembers_comma {seen : List GoString} {name : GoString} :
    scanMembers stray n seen ⟨.comma :: .str name :: ls, .objectComma, stack⟩ =
      scanMembers stray n seen ⟨.str name :: ls, .objectKey, stack⟩ := by
  cases n with
  | zero => rfl
  | succ n => simp [scanMembers_succ, Decoder.more]

theorem scanItems_rbrack : scanItems stray (n + 1) ⟨.rbrack :: rest, state, stack⟩ =
    .ok ⟨.rbrack :: rest, state, stack⟩ := by
  simp [scanItems_succ, Decoder.more]

theorem scanMembers_rbrace {seen : List GoString} :
    scanMembers stray (n + 1) seen ⟨.rbrace :: rest, state, stack⟩ =
      .ok ⟨.rbrace :: rest, state, stack⟩ := by
  simp [scanMembers_succ, Decoder.more]

/-! ### The walk over a value -/

/-- The members are new to `seen`, differ from each other, and their values have no
duplicates. -/
structure MembersFresh (seen : List GoString) (ms : List (GoString × Json)) : Prop where
  fresh : ∀ m ∈ ms, m.1 ∉ seen
  names : (ms.map Prod.fst).Nodup
  each : ∀ m ∈ ms, NoDuplicates m.2

theorem membersFresh_nil {seen : List GoString} : MembersFresh seen [] :=
  ⟨by simp, by simp, by simp⟩

theorem membersFresh_cons {seen : List GoString} {name : GoString} {v : Json}
    {ms : List (GoString × Json)} :
    MembersFresh seen ((name, v) :: ms) ↔
      name ∉ seen ∧ NoDuplicates v ∧ MembersFresh (name :: seen) ms := by
  constructor
  · intro h
    obtain ⟨hname, hnms⟩ := List.nodup_cons.mp h.names
    refine ⟨h.fresh _ List.mem_cons_self, h.each _ List.mem_cons_self, ?_, hnms, ?_⟩
    · intro m hm hmem
      rcases List.mem_cons.mp hmem with heq | hmem
      · exact hname (List.mem_map.mpr ⟨m, hm, heq⟩)
      · exact h.fresh m (List.mem_cons_of_mem _ hm) hmem
    · exact fun m hm => h.each m (List.mem_cons_of_mem _ hm)
  · rintro ⟨hname, hv, h⟩
    refine ⟨?_, ?_, ?_⟩
    · intro m hm hmem
      rcases List.mem_cons.mp hm with rfl | hm
      · exact hname hmem
      · exact h.fresh m hm (List.mem_cons_of_mem _ hmem)
    · refine List.nodup_cons.mpr ⟨?_, h.names⟩
      intro hmem
      obtain ⟨m, hm, heq⟩ := List.mem_map.mp hmem
      exact h.fresh m hm (heq ▸ List.mem_cons_self)
    · intro m hm
      rcases List.mem_cons.mp hm with rfl | hm
      · exact hv
      · exact h.each m hm

theorem noDuplicates_obj_iff {ms : List (GoString × Json)} :
    NoDuplicates (.obj ms) ↔ MembersFresh [] ms := by
  constructor
  · rintro ⟨⟩
    exact ⟨by simp, ‹_›, ‹_›⟩
  · exact fun h => .obj h.names h.each

theorem noDuplicates_arr_iff {vs : List Json} :
    NoDuplicates (.arr vs) ↔ ∀ v ∈ vs, NoDuplicates v := by
  constructor
  · rintro ⟨⟩
    assumption
  · exact .arr

mutual

/-- On the spelling of a value the walk succeeds exactly when the value has no
duplicates, and then it ends behind the value. -/
theorem scanValue_lexemes : ∀ (v : Json) (n : Nat) (state : TokenState)
    (stack : List TokenState) (rest : List Lexeme) (d : Decoder),
    state.valueAllowed = true → 2 * v.lexemes.length < n →
    (scanValue stray n ⟨v.lexemes ++ rest, state, stack⟩ = .ok d ↔
      NoDuplicates v ∧ d = ⟨rest, state.valueEnd, stack⟩)
  | .null, n + 1, _, _, _, _, h, _ => by
    simp [Json.lexemes, scanValue_succ, scalarToken, h, NoDuplicates.null, eq_comm]
  | .bool _, n + 1, _, _, _, _, h, _ => by
    simp [Json.lexemes, scanValue_succ, scalarToken, h, NoDuplicates.bool, eq_comm]
  | .num _, n + 1, _, _, _, _, h, _ => by
    simp [Json.lexemes, scanValue_succ, scalarToken, h, NoDuplicates.num, eq_comm]
  | .str _, n + 1, state, _, _, _, h, _ => by
    have hkey : ¬(state = .objectStart ∨ state = .objectKey) := by
      rintro (rfl | rfl) <;> simp [TokenState.valueAllowed] at h
    simp [Json.lexemes, scanValue_succ, scalarToken, h, hkey, NoDuplicates.str, eq_comm]
  | .arr [], n + 2, state, stack, rest, d, h, _ => by
    simp only [Json.lexemes, List.cons_append, List.nil_append, scanValue_lbrack h, scanItems_rbrack,
      Except.bind, skipToken_rbrack (.inl rfl)]
    simp [noDuplicates_arr_iff, eq_comm]
  | .arr (v :: vs), n + 2, state, stack, rest, d, h, hn => by
    simp only [Json.lexemes, List.length_cons, List.length_append] at hn
    have hv := fun d' => scanValue_lexemes v n .arrayStart (state :: stack)
      (itemLexemes vs ++ .rbrack :: rest) d' rfl (by omega)
    have hvs := fun d' => scanItems_lexemes vs n (state :: stack) rest d' (by omega)
    simp only [Json.lexemes, List.cons_append, List.append_assoc, List.nil_append,
      scanValue_lbrack h, scanItems_succ, more_lexemes, if_true]
    rw [Lib.except_bind_eq_ok_iff_of_forall fun d' =>
      (Lib.except_bind_eq_ok_iff_of_forall hv).trans ((and_congr_right' (hvs d')).trans and_assoc.symm)]
    simp [skipToken_rbrack, noDuplicates_arr_iff, @eq_comm _ d]
  | .obj [], n + 2, state, stack, rest, d, h, _ => by
    simp only [Json.lexemes, List.cons_append, List.nil_append, scanValue_lbrace h, scanMembers_rbrace,
      Except.bind, skipToken_rbrace (.inl rfl)]
    simp [noDuplicates_obj_iff, membersFresh_nil, eq_comm]
  | .obj ((name, v) :: ms), n + 2, state, stack, rest, d, h, hn => by
    simp only [Json.lexemes, List.length_cons, List.length_append] at hn
    have hv := fun d' => scanValue_lexemes v n .objectValue (state :: stack)
      (memberLexemes ms ++ .rbrace :: rest) d' rfl (by omega)
    have hms := fun d' => scanMembers_lexemes ms n [name] (state :: stack) rest d' (by omega)
    simp only [Json.lexemes, List.cons_append, List.append_assoc, List.nil_append,
      scanValue_lbrace h, scanMembers_name (.inl rfl), List.contains_nil, Bool.false_eq_true,
      if_false]
    rw [Lib.except_bind_eq_ok_iff_of_forall fun d' =>
      (Lib.except_bind_eq_ok_iff_of_forall hv).trans ((and_congr_right' (hms d')).trans and_assoc.symm)]
    simp [skipToken_rbrace, noDuplicates_obj_iff, membersFresh_cons, @eq_comm _ d]
  | v, 0, _, _, _, _, _, hn => by omega
  | v, 1, _, _, _, _, _, hn => by
    obtain ⟨l, ls, hl, -⟩ := v.exists_lexemes_eq_cons
    simp [hl] at hn

theorem scanItems_lexemes : ∀ (vs : List Json) (n : Nat) (stack : List TokenState)
    (rest : List Lexeme) (d : Decoder), 2 * (itemLexemes vs).length < n →
    (scanItems stray n ⟨itemLexemes vs ++ .rbrack :: rest, .arrayComma, stack⟩ = .ok d ↔
      (∀ v ∈ vs, NoDuplicates v) ∧ d = ⟨.rbrack :: rest, .arrayComma, stack⟩)
  | [], n + 1, stack, rest, d, _ => by simp [itemLexemes, scanItems_rbrack, eq_comm]
  | v :: vs, n + 1, stack, rest, d, hn => by
    simp only [itemLexemes, List.length_cons, List.length_append] at hn
    have hv := fun d' => scanValue_lexemes v n .arrayValue stack
      (itemLexemes vs ++ .rbrack :: rest) d' rfl (by omega)
    have hmore : Decoder.more ⟨.comma :: (v.lexemes ++ (itemLexemes vs ++ .rbrack :: rest)),
        .arrayComma, stack⟩ = true := rfl
    simp only [itemLexemes, List.cons_append, List.append_assoc, scanItems_succ, hmore, if_true,
      scanValue_comma]
    rw [Lib.except_bind_eq_ok_iff_of_forall hv, TokenState.valueEnd, scanItems_lexemes vs n _ _ _ (by omega)]
    simp [and_assoc]

theorem scanMembers_lexemes : ∀ (ms : List (GoString × Json)) (n : Nat) (seen : List GoString)
    (stack : List TokenState) (rest : List Lexeme) (d : Decoder),
    2 * (memberLexemes ms).length < n →
    (scanMembers stray n seen ⟨memberLexemes ms ++ .rbrace :: rest, .objectComma, stack⟩ = .ok d ↔
      MembersFresh seen ms ∧ d = ⟨.rbrace :: rest, .objectComma, stack⟩)
  | [], n + 1, _, _, _, _, _ => by
    simp [memberLexemes, scanMembers_rbrace, membersFresh_nil, eq_comm]
  | (name, v) :: ms, n + 1, seen, stack, rest, d, hn => by
    simp only [memberLexemes, List.length_cons, List.length_append] at hn
    have hv := fun d' => scanValue_lexemes v n .objectValue stack
      (memberLexemes ms ++ .rbrace :: rest) d' rfl (by omega)
    simp only [memberLexemes, List.cons_append, List.append_assoc, scanMembers_comma,
      scanMembers_name (.inr rfl), membersFresh_cons]
    by_cases hseen : name ∈ seen
    · simp [hseen]
    · rw [if_neg (by simpa using hseen), Lib.except_bind_eq_ok_iff_of_forall hv, TokenState.valueEnd,
        scanMembers_lexemes ms n _ _ _ _ (by omega)]
      simp [hseen, and_assoc]

end

/-- On a text that spells a value the scanner succeeds exactly when the value has no
duplicates. -/
theorem scanText_ok_iff {text : Bytes} {v : Json} (h : Json.parse text = some v) :
    scanText stray text = .ok () ↔ NoDuplicates v := by
  have hscan := fun d => @scanValue_lexemes stray v (2 * v.lexemes.length + 1) .topValue [] [] d rfl
    (by omega)
  simp only [List.append_nil] at hscan
  unfold scanText newDecoder
  rw [Json.lex_eq_of_parse h]
  constructor
  · intro hok
    split at hok
    · cases hok
    · rename_i d hd
      exact ((hscan d).mp hd).1
  · intro hno
    rw [(hscan _).mpr ⟨hno, rfl⟩]
    rfl

/-- The scanner accepts a token exactly if its header and payload, which are base64 and
JSON, have no duplicates. -/
theorem scanToken_ok_iff {tokenString header payload signature : GoString}
    {headerText payloadText : Bytes} {headerValue payloadValue : Json}
    (hspl : split 0x2e tokenString = [header, payload, signature])
    (hhd : base64RawURLDecode header = some headerText)
    (hpayload : base64RawURLDecode payload = some payloadText)
    (hheaderValue : Json.parse headerText = some headerValue)
    (hpayloadValue : Json.parse payloadText = some payloadValue) :
    scanToken stray tokenString = .ok () ↔
      NoDuplicates headerValue ∧ NoDuplicates payloadValue := by
  have hhead : scanText stray headerText = .ok () ↔ _ := scanText_ok_iff hheaderValue
  have hpay : scanText stray payloadText = .ok () ↔ _ := scanText_ok_iff hpayloadValue
  rw [← hhead, ← hpay]
  simp only [scanToken, hspl, scanParts, hhd, hpayload]
  cases scanText stray headerText with
  | error e => simp
  | ok u => cases scanText stray payloadText <;> simp

end SecureBinding.JWT
