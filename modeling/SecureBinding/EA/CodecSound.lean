import SecureBinding.EA.Codec

/-!
# EA.CodecSound

The readers of `pkg/atls/ea` are the inverses of its writers.

Every reader accepts exactly what the writer makes of the value it returns, so a message
that is read and written again is the message that was received. Authenticators rest on
this: what is hashed and signed are messages that have been written again.
-/

namespace SecureBinding.EA

open Go Lib

/-! ### Numbers -/

theorem readUint16_put (v : Nat) (h : v < 2 ^ 16) :
    readUint16 (UInt8.ofNat (v / 256)) (UInt8.ofNat v) = v := by
  simp only [readUint16, UInt8.toNat_ofNat']
  omega

theorem readUint16_lt (a b : UInt8) : readUint16 a b < 2 ^ 16 := by
  have ha := a.toNat_lt
  have hb := b.toNat_lt
  simp only [readUint16]
  omega

theorem putUint16_read (a b : UInt8) : putUint16 (readUint16 a b) = [a, b] := by
  have ha := a.toNat_lt
  have hb := b.toNat_lt
  simp only [putUint16, readUint16, List.cons.injEq, and_true]
  refine ⟨?_, ?_⟩ <;> apply UInt8.toNat_inj.mp <;> rw [UInt8.toNat_ofNat'] <;> omega

theorem toNat_ofNat_readUint16 (a b : UInt8) :
    (UInt16.ofNat (readUint16 a b)).toNat = readUint16 a b := by
  have h := readUint16_lt a b
  rw [UInt16.toNat_ofNat']
  omega

theorem ofNat_readUint16_put (v : UInt16) :
    UInt16.ofNat (readUint16 (UInt8.ofNat (v.toNat / 256)) (UInt8.ofNat v.toNat)) = v := by
  rw [readUint16_put v.toNat v.toNat_lt]
  exact UInt16.ofNat_toNat

/-! ### Extensions -/

/-- One turn of `MarshalExtensions`, with its check. -/
def writeExtension (e : Extension) : Except Error Bytes :=
  if e.data.length > 0xffff then .error .invalidLength else .ok (marshalExtension e)

variable {e : Extension} {raw b rest : Bytes} {exts : List Extension} {m : HandshakeMessage}

theorem writeExtension_ok_iff :
    writeExtension e = .ok raw ↔ e.data.length ≤ 0xffff ∧ raw = marshalExtension e := by
  unfold writeExtension
  split
  · rename_i h
    simp only [reduceCtorEq, false_iff]
    omega
  · rename_i h
    simp only [Except.ok.injEq, not_lt.mp h, true_and]
    exact eq_comm

theorem length_marshalExtension (e : Extension) :
    (marshalExtension e).length = 4 + e.data.length := by
  simp only [marshalExtension, putUint16, List.length_append, List.length_cons, List.length_nil]

theorem unmarshalExtension_ok_iff :
    unmarshalExtension b = .ok (e, rest) ↔ ∃ raw, writeExtension e = .ok raw ∧ b = raw ++ rest := by
  constructor
  · intro h
    unfold unmarshalExtension at h
    split at h
    · rename_i a b c d tail
      split at h
      · cases h
      · rename_i hlen
        cases h
        have hlt := readUint16_lt c d
        have htake : (tail.take (readUint16 c d)).length = readUint16 c d := by
          rw [List.length_take]
          omega
        refine ⟨_, writeExtension_ok_iff.mpr ⟨by dsimp only; omega, rfl⟩, ?_⟩
        simp only [marshalExtension, toNat_ofNat_readUint16, htake, putUint16_read,
          List.cons_append, List.nil_append, List.take_append_drop]
    · cases h
  · rintro ⟨raw, hraw, rfl⟩
    obtain ⟨hlen, rfl⟩ := writeExtension_ok_iff.mp hraw
    simp only [marshalExtension, putUint16, List.cons_append, List.nil_append, unmarshalExtension]
    rw [readUint16_put e.data.length (by omega), ofNat_readUint16_put]
    simp

theorem canonical_extension : Canonical unmarshalExtension writeExtension where
  read_iff := unmarshalExtension_ok_iff
  write_ne_nil := by
    intro e raw h
    obtain ⟨-, rfl⟩ := writeExtension_ok_iff.mp h
    simp [marshalExtension, putUint16]

/-- The first loop adds up the lengths, and gives up when they do not fit two bytes. -/
theorem extensionsLen_ok_iff : ∀ {n m : Nat}, n ≤ 0xffff → (extensionsLen n exts = .ok m ↔
      m = n + (exts.flatMap marshalExtension).length ∧ m ≤ 0xffff) := by
  induction exts with
  | nil =>
    simp only [extensionsLen, Except.ok.injEq, List.flatMap_nil, List.length_nil]
    omega
  | cons e es ih =>
    intro n m hn
    simp only [extensionsLen, List.flatMap_cons, List.length_append, length_marshalExtension]
    split
    · simp only [reduceCtorEq, false_iff]
      omega
    · split
      · simp only [reduceCtorEq, false_iff]
        omega
      · rw [ih (by omega)]
        omega

theorem marshalExtensions_ok_iff : marshalExtensions exts = .ok b ↔
      (exts.flatMap marshalExtension).length ≤ 0xffff ∧
        b = putUint16 (exts.flatMap marshalExtension).length ++ exts.flatMap marshalExtension := by
  unfold marshalExtensions
  constructor
  · intro h
    split at h
    · cases h
    · rename_i n hn
      obtain ⟨rfl, hle⟩ := (extensionsLen_ok_iff (Nat.zero_le _)).mp hn
      cases h
      rw [Nat.zero_add] at hle ⊢
      exact ⟨hle, rfl⟩
  · rintro ⟨hle, rfl⟩
    rw [(extensionsLen_ok_iff (Nat.zero_le _)).mpr ⟨(Nat.zero_add _).symm, hle⟩]

/-- The extensions one after the other: every one of them short. -/
theorem writtenAs_extensions_iff : ∀ {b : Bytes}, WrittenAs writeExtension exts b ↔
      (∀ e ∈ exts, e.data.length ≤ 0xffff) ∧ b = exts.flatMap marshalExtension := by
  induction exts with
  | nil =>
    intro b
    constructor
    · intro h
      cases h
      simp
    · rintro ⟨-, rfl⟩
      exact .nil
  | cons e es ih =>
    intro b
    rw [List.forall_mem_cons, List.flatMap_cons]
    constructor
    · intro h
      cases h with
      | cons he hes =>
        obtain ⟨hlen, rfl⟩ := writeExtension_ok_iff.mp he
        obtain ⟨hall, rfl⟩ := ih.mp hes
        exact ⟨⟨hlen, hall⟩, rfl⟩
    · rintro ⟨⟨hlen, hall⟩, rfl⟩
      exact .cons (writeExtension_ok_iff.mpr ⟨hlen, rfl⟩) (ih.mpr ⟨hall, rfl⟩)

theorem length_le_of_mem_flatMap (he : e ∈ exts) :
    e.data.length ≤ (exts.flatMap marshalExtension).length := by
  obtain ⟨before, after, rfl⟩ := List.append_of_mem he
  simp only [List.flatMap_append, List.flatMap_cons, List.length_append, length_marshalExtension]
  omega

theorem unmarshalExtensions_ok_iff : unmarshalExtensions b = .ok (exts, rest) ↔
      ∃ raw, marshalExtensions exts = .ok raw ∧ b = raw ++ rest := by
  constructor
  · intro h
    unfold unmarshalExtensions at h
    split at h
    · rename_i a b tail
      split at h
      · cases h
      · rename_i hlen
        have hlt := readUint16_lt a b
        have htake : (tail.take (readUint16 a b)).length = readUint16 a b := by
          rw [List.length_take]
          omega
        dsimp only at h
        split at h
        · cases h
        · rename_i exts' hmany
          cases h
          -- The loop has read the payload that the items are written as, and the length is that of
          -- it.
          obtain ⟨-, hpay⟩ :=
            writtenAs_extensions_iff.mp ((many_ok_iff canonical_extension le_rfl).mp hmany)
          refine ⟨_, marshalExtensions_ok_iff.mpr ⟨?_, rfl⟩, ?_⟩
          · rw [← hpay]
            omega
          · rw [← hpay, htake, putUint16_read]
            simp only [List.cons_append, List.nil_append, List.take_append_drop]
    · cases h
  · rintro ⟨raw, hraw, rfl⟩
    obtain ⟨hle, rfl⟩ := marshalExtensions_ok_iff.mp hraw
    -- What fits the vector fits its items.
    have hsh : ∀ e ∈ exts, e.data.length ≤ 0xffff := fun e he =>
      le_trans (length_le_of_mem_flatMap he) hle
    have hmany : many .truncated unmarshalExtension (exts.flatMap marshalExtension).length
        (exts.flatMap marshalExtension) = .ok exts :=
      (many_ok_iff canonical_extension le_rfl).mpr
        (writtenAs_extensions_iff.mpr ⟨hsh, rfl⟩)
    simp only [putUint16, List.cons_append, List.nil_append, unmarshalExtensions]
    rw [readUint16_put _ (by omega), List.take_left, List.drop_left, hmany, if_neg (by simp)]

/-! ### Certificate -/

theorem marshalCertificateEntry_ok_iff {e : CertificateEntry} :
    marshalCertificateEntry e = .ok raw ↔ 0 < e.certDER.length ∧ e.certDER.length ≤ 0xffffff ∧
        ∃ extVec, marshalExtensions e.extensions = .ok extVec ∧
          raw = putUint24 e.certDER.length ++ e.certDER ++ extVec := by
  unfold marshalCertificateEntry
  split
  · rename_i h
    simp only [reduceCtorEq, false_iff]
    omega
  · rename_i h
    have hlen : 0 < e.certDER.length ∧ e.certDER.length ≤ 0xffffff := by omega
    cases hext : marshalExtensions e.extensions with
    | error err => simp
    | ok extVec =>
      simp only [Except.ok.injEq, hlen, true_and, exists_eq_left']
      exact eq_comm

/-- Stated of any three bytes: with those of a number written out in the place of `a`, `b` and
`c` the kernel would compute with the number. -/
theorem unmarshalCertificateEntry_cons (a b c : UInt8) (tail : Bytes) :
    unmarshalCertificateEntry (a :: b :: c :: tail) =
      if readUint24 a b c = 0 ∨ readUint24 a b c > tail.length then .error .invalidLength
      else
        match unmarshalExtensions (tail.drop (readUint24 a b c)) with
        | .error e => .error e
        | .ok (exts, leftover) => .ok (⟨tail.take (readUint24 a b c), exts⟩, leftover) :=
  rfl

theorem unmarshalCertificateEntry_ok_iff {e : CertificateEntry} :
    unmarshalCertificateEntry b = .ok (e, rest) ↔
      ∃ raw, marshalCertificateEntry e = .ok raw ∧ b = raw ++ rest := by
  constructor
  · intro h
    unfold unmarshalCertificateEntry at h
    split at h
    · rename_i a b c tail
      dsimp only at h
      split at h
      · cases h
      · rename_i hlen
        have hlt := readUint24_lt a b c
        have htake : (tail.take (readUint24 a b c)).length = readUint24 a b c := by
          rw [List.length_take]
          omega
        split at h
        · cases h
        · rename_i exts leftover hext
          cases h
          obtain ⟨extVec, hwr, hdrop⟩ := unmarshalExtensions_ok_iff.mp hext
          refine ⟨_, marshalCertificateEntry_ok_iff.mpr
            ⟨by dsimp only; omega, by dsimp only; omega, extVec, hwr, rfl⟩, ?_⟩
          rw [htake, putUint24_read, List.append_assoc, List.append_assoc, ← hdrop,
            List.take_append_drop]
          rfl
    · cases h
  · rintro ⟨raw, hraw, rfl⟩
    obtain ⟨hpos, hle, extVec, hext, rfl⟩ := marshalCertificateEntry_ok_iff.mp hraw
    have hread := unmarshalExtensions_ok_iff.mpr ⟨extVec, hext, (rfl : _ = extVec ++ rest)⟩
    simp only [putUint24, List.cons_append, List.nil_append, List.append_assoc]
    rw [unmarshalCertificateEntry_cons, readUint24_put _ (by omega), List.take_left,
      List.drop_left, hread, if_neg (by rw [List.length_append]; omega)]

theorem canonical_certificateEntry :
    Canonical unmarshalCertificateEntry marshalCertificateEntry where
  read_iff := unmarshalCertificateEntry_ok_iff
  write_ne_nil := by
    intro e raw h
    obtain ⟨-, -, extVec, -, rfl⟩ := marshalCertificateEntry_ok_iff.mp h
    simp [putUint24]

theorem marshalCertificateEntries_ok_iff {es : List CertificateEntry} :
    ∀ {list : Bytes}, marshalCertificateEntries es = .ok list ↔
      WrittenAs marshalCertificateEntry es list := by
  induction es with
  | nil =>
    intro list
    constructor
    · intro h
      cases h
      exact .nil
    · intro h
      cases h
      rfl
  | cons e es ih =>
    intro list
    simp only [marshalCertificateEntries]
    constructor
    · intro h
      split at h
      · cases h
      · rename_i entry hent
        split at h
        · cases h
        · rename_i rest hrest
          cases h
          exact .cons hent (ih.mp hrest)
    · intro h
      cases h with
      | cons he hes => rw [he, ih.mpr hes]

/-- The list of a certificate message is read from its own bytes only. -/
theorem unmarshalCertificateList_ok_iff {es : List CertificateEntry} :
    unmarshalCertificateList b = .ok es ↔
      ∃ list, list.length ≤ 0xffffff ∧ marshalCertificateEntries es = .ok list ∧
        b = putUint24 list.length ++ list := by
  constructor
  · intro h
    unfold unmarshalCertificateList at h
    split at h
    · rename_i a b c list
      split at h
      · cases h
      · rename_i hlen
        have hlt := readUint24_lt a b c
        rw [not_not] at hlen
        refine ⟨list, by omega, ?_, ?_⟩
        · exact marshalCertificateEntries_ok_iff.mpr
            ((many_ok_iff canonical_certificateEntry le_rfl).mp h)
        · rw [hlen, putUint24_read]
          rfl
    · cases h
  · rintro ⟨list, hle, hlist, rfl⟩
    simp only [putUint24, List.cons_append, unmarshalCertificateList]
    rw [readUint24_put _ (by omega), if_neg (by simp)]
    exact (many_ok_iff canonical_certificateEntry le_rfl).mpr
      (marshalCertificateEntries_ok_iff.mp hlist)

/-- A handshake message that fills its bytes, and its type and body. -/
theorem unmarshalHandshakeMessage_nil_iff :
    unmarshalHandshakeMessage b = .ok (m, []) ↔ marshalHandshakeMessage m = .ok b := by
  rw [unmarshalHandshakeMessage_ok_iff]
  constructor
  · rintro ⟨raw, hraw, hb⟩
    rw [hb, List.append_nil]
    exact hraw
  · intro h
    exact ⟨b, h, (List.append_nil b).symm⟩

theorem rawHandshakeMessage_of_marshal
    (h : marshalHandshakeMessage m = .ok b) : rawHandshakeMessage m = b := by
  simp [rawHandshakeMessage, h]

theorem body_length_of_marshal
    (h : marshalHandshakeMessage m = .ok b) : m.body.length ≤ 0xffffff := by
  unfold marshalHandshakeMessage at h
  split at h
  · cases h
  · omega

theorem CertificateMessage.marshal_ok_iff {m : CertificateMessage} :
    m.marshal = .ok b ↔ m.context.length ≤ 255 ∧
      ∃ list, marshalCertificateEntries m.entries = .ok list ∧
        marshalHandshakeMessage ⟨handshakeTypeCertificate,
          UInt8.ofNat m.context.length :: (m.context ++ putUint24 list.length ++ list)⟩ = .ok b := by
  unfold CertificateMessage.marshal
  split
  · rename_i h
    simp only [reduceCtorEq, false_iff]
    omega
  · rename_i h
    cases marshalCertificateEntries m.entries with
    | error err => simp
    | ok list => simp [not_lt.mp h]

/-- A handshake message of the wanted type with nothing after it. -/
theorem marshal_of_unmarshalHandshakeMessage {hm : HandshakeMessage}
    {type : UInt8} (hread : unmarshalHandshakeMessage b = .ok (hm, rest))
    (hcond : ¬(rest.length ≠ 0 ∨ hm.type ≠ type)) :
    hm.type = type ∧ marshalHandshakeMessage hm = .ok b := by
  simp only [not_or, not_not, List.length_eq_zero_iff] at hcond
  obtain ⟨rfl, htype⟩ := hcond
  exact ⟨htype, unmarshalHandshakeMessage_nil_iff.mp hread⟩

/-- A certificate message is read from its own bytes only. -/
theorem unmarshalCertificateMessage_ok_iff {m : CertificateMessage} :
    unmarshalCertificateMessage b = .ok (m, raw) ↔ m.marshal = .ok b ∧ raw = b := by
  constructor
  · intro h
    unfold unmarshalCertificateMessage at h
    split at h
    · cases h
    · rename_i hm rest hread
      split at h
      · cases h
      · rename_i hcond
        obtain ⟨htype, hwr⟩ := marshal_of_unmarshalHandshakeMessage hread hcond
        split at h
        · cases h
        · rename_i n body hbody
          split at h
          · cases h
          · rename_i hlen
            have hn := n.toNat_lt
            have htake : (body.take n.toNat).length = n.toNat := by
              rw [List.length_take]
              omega
            split at h
            · cases h
            · rename_i entries hlist
              cases h
              -- Context and list together are the body, and the body is that of the message.
              obtain ⟨list, -, hes, hdrop⟩ := unmarshalCertificateList_ok_iff.mp hlist
              refine ⟨CertificateMessage.marshal_ok_iff.mpr ⟨by dsimp only; omega, list,
                hes, ?_⟩, rawHandshakeMessage_of_marshal hwr⟩
              rw [htake, UInt8.ofNat_toNat, List.append_assoc, ← hdrop, List.take_append_drop,
                ← hbody, ← htype]
              exact hwr
  · rintro ⟨h, rfl⟩
    obtain ⟨hctx, list, hes, hwr⟩ := CertificateMessage.marshal_ok_iff.mp h
    have hread := unmarshalHandshakeMessage_nil_iff.mpr hwr
    have hlen := body_length_of_marshal hwr
    simp only [List.length_cons, List.length_append] at hlen
    have hlist := unmarshalCertificateList_ok_iff.mpr ⟨list, by omega, hes, rfl⟩
    have hn : (UInt8.ofNat m.context.length).toNat = m.context.length := by
      rw [UInt8.toNat_ofNat']
      omega
    have hroom : ¬ (m.context ++ (putUint24 list.length ++ list)).length < m.context.length + 3 := by
      simp only [List.length_append, putUint24, List.length_cons]
      omega
    have hraw := rawHandshakeMessage_of_marshal hwr
    rw [List.append_assoc] at hread hraw
    simp only [unmarshalCertificateMessage, hread, hn, List.take_left, List.drop_left, hlist, hraw]
    rw [if_neg (by simp), if_neg hroom]

/-! ### CertificateVerify -/

theorem CertificateVerifyMessage.marshal_ok_iff {m : CertificateVerifyMessage} :
    m.marshal = .ok b ↔ m.signature.length ≤ 0xffff ∧
      marshalHandshakeMessage ⟨handshakeTypeCertificateVerify,
        putUint16 m.algorithm.toNat ++ putUint16 m.signature.length ++ m.signature⟩ = .ok b := by
  unfold CertificateVerifyMessage.marshal
  split
  · rename_i h
    simp only [reduceCtorEq, false_iff]
    omega
  · rename_i h
    simp [not_lt.mp h]

/-- A CertificateVerify message is read from its own bytes only. -/
theorem unmarshalCertificateVerifyMessage_ok_iff {m : CertificateVerifyMessage} :
    unmarshalCertificateVerifyMessage b = .ok (m, raw) ↔ m.marshal = .ok b ∧ raw = b := by
  constructor
  · intro h
    unfold unmarshalCertificateVerifyMessage at h
    split at h
    · cases h
    · rename_i hm rest hread
      split at h
      · cases h
      · rename_i hcond
        obtain ⟨htype, hwr⟩ := marshal_of_unmarshalHandshakeMessage hread hcond
        split at h
        · rename_i x y c d sig hbody
          split at h
          · cases h
          · rename_i hlen
            cases h
            rw [not_not] at hlen
            have hlt := readUint16_lt c d
            refine ⟨CertificateVerifyMessage.marshal_ok_iff.mpr ⟨by dsimp only; omega, ?_⟩,
              rawHandshakeMessage_of_marshal hwr⟩
            rw [toNat_ofNat_readUint16, hlen, putUint16_read, putUint16_read]
            simp only [List.cons_append, List.nil_append]
            rw [← hbody, ← htype]
            exact hwr
        · cases h
  · rintro ⟨h, rfl⟩
    obtain ⟨hsig, hwr⟩ := CertificateVerifyMessage.marshal_ok_iff.mp h
    have hread := unmarshalHandshakeMessage_nil_iff.mpr hwr
    simp only [unmarshalCertificateVerifyMessage, hread, putUint16, List.cons_append,
      List.nil_append]
    rw [readUint16_put _ (by omega), ofNat_readUint16_put, if_neg (by simp), if_neg (by simp)]
    have hraw := rawHandshakeMessage_of_marshal hwr
    simp only [putUint16, List.cons_append, List.nil_append] at hraw
    rw [hraw]

end SecureBinding.EA
