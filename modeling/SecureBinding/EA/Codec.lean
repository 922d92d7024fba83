import SecureBinding.Go.Tls
import SecureBinding.Lib.Except
import SecureBinding.Lib.ParseLoop

/-!
# EA.Codec

The model of the message formats of `pkg/atls/ea`: `handshake.go`, `extensions.go`,
`certificate.go`, `certverify.go`, `finished.go` and `request.go`.

Byte slices are lists. Lengths and offsets are natural numbers; the only wrap-around is
in the bytes that a length is written to.
-/

namespace SecureBinding.EA

open Go

/-! ### Errors -/

inductive Error
  | truncated
  | invalidLength
  | unsupportedHandshakeType
  | notTLS13
  /-- `ErrUnknownCipherSuite`, wrapped with the suite. -/
  | unknownCipherSuite (suite : UInt16)
  | contextReuse
  | invalidRole
  | unsupportedSignatureScheme
  /-- `ErrUnsupportedSignatureScheme`, wrapped with the scheme. -/
  | unknownSignatureScheme (scheme : UInt16)
  | signatureMismatch
  | finishedMismatch
  | contextMismatch
  | badRequest
  /-- `ErrBadRequest`, wrapped. -/
  | missingSignatureAlgorithms
  /-- The error of an exporter. -/
  | exporter (text : String)
  /-- An error of `crypto/x509`. -/
  | x509 (text : String)
  deriving Repr, DecidableEq

def Error.text : Error → String
  | truncated => "ea: truncated input"
  | invalidLength => "ea: invalid length"
  | unsupportedHandshakeType => "ea: unsupported handshake type"
  | notTLS13 => "ea: not TLS 1.3"
  | unknownCipherSuite suite =>
    "ea: unknown cipher suite: " ++ Tls.cipherSuiteName suite ++ " (" ++ Tls.formatHex suite ++ ")"
  | contextReuse => "ea: certificate_request_context already used"
  | invalidRole => "ea: invalid authenticator role"
  | unsupportedSignatureScheme => "ea: unsupported signature scheme"
  | unknownSignatureScheme scheme =>
    "ea: unsupported signature scheme: " ++ Tls.formatHex scheme
  | signatureMismatch => "ea: CertificateVerify signature mismatch"
  | finishedMismatch => "ea: Finished MAC mismatch"
  | contextMismatch => "ea: certificate_request_context mismatch"
  | badRequest => "ea: bad authenticator request"
  | missingSignatureAlgorithms => "ea: bad authenticator request: missing signature_algorithms"
  | exporter text => text
  | x509 text => text

/-! ### Numbers -/

def putUint24 (v : Nat) : Bytes :=
  [UInt8.ofNat (v / 65536), UInt8.ofNat (v / 256), UInt8.ofNat v]

def readUint24 (a b c : UInt8) : Nat := a.toNat * 65536 + b.toNat * 256 + c.toNat

/-- `putUint16` of a length. -/
def putUint16 (v : Nat) : Bytes := [UInt8.ofNat (v / 256), UInt8.ofNat v]

def readUint16 (a b : UInt8) : Nat := a.toNat * 256 + b.toNat

theorem readUint24_put (v : Nat) (h : v < 2 ^ 24) :
    readUint24 (UInt8.ofNat (v / 65536)) (UInt8.ofNat (v / 256)) (UInt8.ofNat v) = v := by
  simp only [readUint24, UInt8.toNat_ofNat']
  omega

theorem putUint24_read (a b c : UInt8) : putUint24 (readUint24 a b c) = [a, b, c] := by
  have ha := a.toNat_lt
  have hb := b.toNat_lt
  have hc := c.toNat_lt
  simp only [putUint24, readUint24, List.cons.injEq, and_true]
  refine ⟨?_, ?_, ?_⟩ <;> apply UInt8.toNat_inj.mp <;> rw [UInt8.toNat_ofNat'] <;> omega

theorem readUint24_lt (a b c : UInt8) : readUint24 a b c < 2 ^ 24 := by
  have ha := a.toNat_lt
  have hb := b.toNat_lt
  have hc := c.toNat_lt
  simp only [readUint24]
  omega

/-! ### Handshake messages -/

def handshakeTypeCertificate : UInt8 := 11

def handshakeTypeCertificateRequest : UInt8 := 13

def handshakeTypeCertificateVerify : UInt8 := 15

def handshakeTypeClientCertificateRequest : UInt8 := 17

def handshakeTypeFinished : UInt8 := 20

structure HandshakeMessage where
  type : UInt8
  body : Bytes

def marshalHandshakeMessage (m : HandshakeMessage) : Except Error Bytes :=
  if m.body.length > 0xffffff then .error .invalidLength
  else .ok (m.type :: (putUint24 m.body.length ++ m.body))

theorem marshalHandshakeMessage_of_le {m : HandshakeMessage} (h : m.body.length ≤ 0xffffff) :
    marshalHandshakeMessage m = .ok (m.type :: (putUint24 m.body.length ++ m.body)) :=
  if_neg (by omega)

/-- `MarshalHandshakeMessage` with its error ignored: nil when it fails. -/
def rawHandshakeMessage (m : HandshakeMessage) : Bytes :=
  match marshalHandshakeMessage m with
  | .ok b => b
  | .error _ => []

/-- `UnmarshalHandshakeMessage`: the message and the rest. Its test of the length against
`0xFFFFFF` never fails, since three bytes hold no more: `readUint24_lt`. -/
def unmarshalHandshakeMessage : Bytes → Except Error (HandshakeMessage × Bytes)
  | t :: a :: b :: c :: rest =>
    if rest.length < readUint24 a b c then .error .truncated
    else .ok (⟨t, rest.take (readUint24 a b c)⟩, rest.drop (readUint24 a b c))
  | _ => .error .truncated

/-- What is read as a message is what the message is written as. -/
theorem unmarshalHandshakeMessage_ok_iff {b rest : Bytes} {m : HandshakeMessage} :
    unmarshalHandshakeMessage b = .ok (m, rest) ↔
      ∃ raw, marshalHandshakeMessage m = .ok raw ∧ b = raw ++ rest := by
  constructor
  · intro h
    unfold unmarshalHandshakeMessage at h
    split at h
    · rename_i t a b c tail
      split at h
      · cases h
      · rename_i hlen
        obtain ⟨rfl, rfl⟩ := h
        have hlt := readUint24_lt a b c
        have htake : (tail.take (readUint24 a b c)).length = readUint24 a b c := by
          rw [List.length_take]
          omega
        refine ⟨_, marshalHandshakeMessage_of_le (htake.le.trans (by omega)), ?_⟩
        show _ = t :: (putUint24 (tail.take (readUint24 a b c)).length ++ _) ++ _
        rw [htake, putUint24_read, List.cons_append, List.append_assoc, List.take_append_drop]
        rfl
    · cases h
  · rintro ⟨raw, hraw, rfl⟩
    unfold marshalHandshakeMessage at hraw
    split at hraw
    · cases hraw
    · rename_i hlen
      cases hraw
      simp only [putUint24, List.cons_append, unmarshalHandshakeMessage]
      rw [readUint24_put m.body.length (by omega)]
      simp

theorem unmarshal_rawHandshakeMessage {b rest : Bytes} {m : HandshakeMessage}
    (h : unmarshalHandshakeMessage b = .ok (m, rest)) :
    b = rawHandshakeMessage m ++ rest ∧
      unmarshalHandshakeMessage (rawHandshakeMessage m) = .ok (m, []) := by
  obtain ⟨raw, hraw, rfl⟩ := unmarshalHandshakeMessage_ok_iff.mp h
  have hm : rawHandshakeMessage m = raw := by simp [rawHandshakeMessage, hraw]
  rw [hm]
  exact ⟨rfl, unmarshalHandshakeMessage_ok_iff.mpr ⟨raw, hraw, by simp⟩⟩

/-! ### Extensions -/

structure Extension where
  type : UInt16
  data : Bytes
  deriving Repr, DecidableEq

/-- The first loop of `MarshalExtensions`: the length of the payload, which starts at `n`. -/
def extensionsLen : Nat → List Extension → Except Error Nat
  | n, [] => .ok n
  | n, e :: es =>
    if e.data.length > 0xffff then .error .invalidLength
    else if n + (4 + e.data.length) > 0xffff then .error .invalidLength
    else extensionsLen (n + (4 + e.data.length)) es

/-- One turn of the second loop of `MarshalExtensions`. -/
def marshalExtension (e : Extension) : Bytes :=
  putUint16 e.type.toNat ++ putUint16 e.data.length ++ e.data

def marshalExtensions (exts : List Extension) : Except Error Bytes :=
  match extensionsLen 0 exts with
  | .error e => .error e
  | .ok n => .ok (putUint16 n ++ exts.flatMap marshalExtension)

/-- One turn of the loop of `UnmarshalExtensions`. -/
def unmarshalExtension : Bytes → Except Error (Extension × Bytes)
  | a :: b :: c :: d :: rest =>
    if readUint16 c d > rest.length then .error .invalidLength
    else .ok (⟨UInt16.ofNat (readUint16 a b), rest.take (readUint16 c d)⟩,
      rest.drop (readUint16 c d))
  | _ => .error .truncated

/-- `UnmarshalExtensions`: the extensions and the rest. -/
def unmarshalExtensions : Bytes → Except Error (List Extension × Bytes)
  | a :: b :: rest =>
    if rest.length < readUint16 a b then .error .truncated
    else
      let payload := rest.take (readUint16 a b)
      match Lib.many .truncated unmarshalExtension payload.length payload with
      | .error e => .error e
      | .ok exts => .ok (exts, rest.drop (readUint16 a b))
  | _ => .error .truncated

/-! ### Certificate -/

structure CertificateEntry where
  certDER : Bytes
  extensions : List Extension

structure CertificateMessage where
  context : Bytes
  entries : List CertificateEntry := []

/-- One turn of the loop of `CertificateMessage.Marshal`. -/
def marshalCertificateEntry (e : CertificateEntry) : Except Error Bytes :=
  if e.certDER.length = 0 ∨ e.certDER.length > 0xffffff then .error .invalidLength
  else
    match marshalExtensions e.extensions with
    | .error err => .error err
    | .ok extVec => .ok (putUint24 e.certDER.length ++ e.certDER ++ extVec)

/-- The loop of `CertificateMessage.Marshal`. -/
def marshalCertificateEntries : List CertificateEntry → Except Error Bytes
  | [] => .ok []
  | e :: es =>
    match marshalCertificateEntry e with
    | .error err => .error err
    | .ok entry =>
      match marshalCertificateEntries es with
      | .error err => .error err
      | .ok list => .ok (entry ++ list)

def CertificateMessage.marshal (m : CertificateMessage) : Except Error Bytes :=
  if m.context.length > 255 then .error .invalidLength
  else
    match marshalCertificateEntries m.entries with
    | .error err => .error err
    | .ok list =>
      marshalHandshakeMessage ⟨handshakeTypeCertificate,
        UInt8.ofNat m.context.length :: (m.context ++ putUint24 list.length ++ list)⟩

/-- The certificate message without entries can be written for every short context. -/
theorem exists_marshal_emptyCertificate {context : Bytes} (h : context.length ≤ 255) :
    ∃ b, CertificateMessage.marshal { context } = .ok b := by
  unfold CertificateMessage.marshal
  dsimp only
  rw [if_neg (by omega)]
  refine ⟨_, marshalHandshakeMessage_of_le ?_⟩
  simp only [List.length_cons, List.length_append, putUint24, List.length_nil]
  omega

/-- One turn of the loop of `UnmarshalCertificateMessage`. -/
def unmarshalCertificateEntry : Bytes → Except Error (CertificateEntry × Bytes)
  | a :: b :: c :: rest =>
    let certLen := readUint24 a b c
    if certLen = 0 ∨ certLen > rest.length then .error .invalidLength
    else
      match unmarshalExtensions (rest.drop certLen) with
      | .error e => .error e
      | .ok (exts, leftover) => .ok (⟨rest.take certLen, exts⟩, leftover)
  | _ => .error .truncated

/-- The list of a certificate message, after its context. -/
def unmarshalCertificateList : Bytes → Except Error (List CertificateEntry)
  | a :: b :: c :: list =>
    if list.length ≠ readUint24 a b c then .error .invalidLength
    else Lib.many .truncated unmarshalCertificateEntry list.length list
  | _ => .error .truncated

/-- `UnmarshalCertificateMessage`: the message and its bytes. -/
def unmarshalCertificateMessage (b : Bytes) : Except Error (CertificateMessage × Bytes) :=
  match unmarshalHandshakeMessage b with
  | .error e => .error e
  | .ok (hm, rest) =>
    if rest.length ≠ 0 ∨ hm.type ≠ handshakeTypeCertificate then .error .invalidLength
    else
      match hm.body with
      | [] => .error .truncated
      | n :: body =>
        if body.length < n.toNat + 3 then .error .truncated
        else
          match unmarshalCertificateList (body.drop n.toNat) with
          | .error e => .error e
          | .ok entries => .ok (⟨body.take n.toNat, entries⟩, rawHandshakeMessage hm)

/-! ### CertificateVerify and Finished -/

structure CertificateVerifyMessage where
  algorithm : UInt16
  signature : Bytes

def CertificateVerifyMessage.marshal (m : CertificateVerifyMessage) : Except Error Bytes :=
  if m.signature.length > 0xffff then .error .invalidLength
  else marshalHandshakeMessage ⟨handshakeTypeCertificateVerify,
    putUint16 m.algorithm.toNat ++ putUint16 m.signature.length ++ m.signature⟩

/-- `UnmarshalCertificateVerifyMessage`: the message and its bytes. -/
def unmarshalCertificateVerifyMessage (b : Bytes) :
    Except Error (CertificateVerifyMessage × Bytes) :=
  match unmarshalHandshakeMessage b with
  | .error e => .error e
  | .ok (hm, rest) =>
    if rest.length ≠ 0 ∨ hm.type ≠ handshakeTypeCertificateVerify then .error .invalidLength
    else
      match hm.body with
      | a :: b :: c :: d :: sig =>
        if sig.length ≠ readUint16 c d then .error .invalidLength
        else .ok (⟨UInt16.ofNat (readUint16 a b), sig⟩, rawHandshakeMessage hm)
      | _ => .error .truncated

structure FinishedMessage where
  verifyData : Bytes

def FinishedMessage.marshal (m : FinishedMessage) : Except Error Bytes :=
  if m.verifyData.length = 0 then .error .invalidLength
  else marshalHandshakeMessage ⟨handshakeTypeFinished, m.verifyData⟩

theorem FinishedMessage.marshal_of_le {m : FinishedMessage} (hpos : 0 < m.verifyData.length)
    (h : m.verifyData.length ≤ 0xffffff) :
    m.marshal = .ok (handshakeTypeFinished :: (putUint24 m.verifyData.length ++ m.verifyData)) := by
  unfold FinishedMessage.marshal
  rw [if_neg (by omega)]
  exact marshalHandshakeMessage_of_le h

/-- `UnmarshalFinishedMessage`: the message and its bytes. -/
def unmarshalFinishedMessage (b : Bytes) : Except Error (FinishedMessage × Bytes) :=
  match unmarshalHandshakeMessage b with
  | .error e => .error e
  | .ok (hm, rest) =>
    if rest.length ≠ 0 ∨ hm.type ≠ handshakeTypeFinished ∨ hm.body.length = 0 then
      .error .invalidLength
    else .ok (⟨hm.body⟩, rawHandshakeMessage hm)

/-- A Finished message is read from its own bytes only. -/
theorem unmarshalFinishedMessage_ok_iff {b raw : Bytes} {m : FinishedMessage} :
    unmarshalFinishedMessage b = .ok (m, raw) ↔ m.marshal = .ok b ∧ raw = b := by
  constructor
  · intro h
    unfold unmarshalFinishedMessage at h
    split at h
    · cases h
    · rename_i hm rest hread
      split at h
      · cases h
      · rename_i hcond
        simp only [not_or, not_not, List.length_eq_zero_iff] at hcond
        obtain ⟨rfl, htype, hbody⟩ := hcond
        cases h
        obtain ⟨hb, -⟩ := unmarshal_rawHandshakeMessage hread
        obtain ⟨raw, hraw, hbraw⟩ := unmarshalHandshakeMessage_ok_iff.mp hread
        rw [List.append_nil] at hb hbraw
        refine ⟨?_, hb.symm⟩
        unfold FinishedMessage.marshal
        rw [if_neg (by simpa using hbody), hbraw, ← htype]
        exact hraw
  · rintro ⟨h, rfl⟩
    unfold FinishedMessage.marshal at h
    split at h
    · cases h
    · rename_i hbody
      have hread := unmarshalHandshakeMessage_ok_iff.mpr ⟨raw, h, (List.append_nil raw).symm⟩
      have hraw : rawHandshakeMessage ⟨handshakeTypeFinished, m.verifyData⟩ = raw := by
        simp [rawHandshakeMessage, h]
      simp only [unmarshalFinishedMessage, hread]
      rw [if_neg (by simpa using hbody), hraw]

end SecureBinding.EA
