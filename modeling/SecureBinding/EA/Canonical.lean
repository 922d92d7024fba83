import SecureBinding.EA.CodecSound
import SecureBinding.EA.Request

/-!
# EA.Canonical

Every message of `pkg/atls/ea` has one encoding, and the readers accept no other.

The lemmas about the single readers are those of `SecureBinding.EA.CodecSound`; the request
is the one that is left.
-/

namespace SecureBinding.EA

open Go Lib

/-! ### Requests -/

namespace AuthenticatorRequest

/-- The types a request may have. -/
def HasRequestType (type : UInt8) : Prop :=
  type = handshakeTypeCertificateRequest ∨ type = handshakeTypeClientCertificateRequest

theorem hasRequestType_iff {type : UInt8} :
    HasRequestType type ↔ ¬ (type ≠ handshakeTypeCertificateRequest
      ∧ type ≠ handshakeTypeClientCertificateRequest) := by
  unfold HasRequestType
  tauto

theorem marshal_ok_iff {r : AuthenticatorRequest} {b : Bytes} :
    r.marshal = .ok b ↔ HasRequestType r.type ∧ r.context.length ≤ 255 ∧
      ∃ extVec, marshalExtensions r.extensions = .ok extVec ∧
        marshalHandshakeMessage ⟨r.type, UInt8.ofNat r.context.length :: (r.context ++ extVec)⟩
          = .ok b := by
  unfold marshal
  rw [ite_error_ok_iff, ite_error_ok_iff, ← hasRequestType_iff, not_lt]
  cases marshalExtensions r.extensions with
  | error e => simp
  | ok extVec => simp

/-- A request is read from what it is written as, and the rest is left over. -/
theorem unmarshal_ok_iff {b rest : Bytes} {r : AuthenticatorRequest} :
    unmarshal b = .ok (r, rest) ↔ ∃ raw, r.marshal = .ok raw ∧ b = raw ++ rest := by
  constructor
  · intro h
    unfold unmarshal at h
    split at h
    · cases h
    · rename_i hm rest' hread
      obtain ⟨htype, h⟩ := ite_error_ok_iff.mp h
      obtain ⟨raw, hwr, rfl⟩ := unmarshalHandshakeMessage_ok_iff.mp hread
      split at h
      · cases h
      · rename_i n body hbody
        obtain ⟨hlen, h⟩ := ite_error_ok_iff.mp h
        split at h
        · cases h
        · rename_i exts leftover hexts
          obtain ⟨hleft, h⟩ := ite_error_ok_iff.mp h
          cases h
          obtain ⟨extVec, hwriteExts, hdrop⟩ := unmarshalExtensions_ok_iff.mp hexts
          obtain rfl : leftover = [] := by simpa using hleft
          rw [List.append_nil] at hdrop
          have hn := n.toNat_lt
          have htake : (body.take n.toNat).length = n.toNat := by
            rw [List.length_take]
            omega
          refine ⟨raw, marshal_ok_iff.mpr ⟨hasRequestType_iff.mpr htype, ?_, extVec,
            hwriteExts, ?_⟩, rfl⟩
          · show (body.take n.toNat).length ≤ 255
            omega
          · show marshalHandshakeMessage ⟨hm.type, UInt8.ofNat (body.take n.toNat).length ::
              (body.take n.toNat ++ extVec)⟩ = .ok raw
            rw [htake, UInt8.ofNat_toNat, ← hdrop, List.take_append_drop, ← hbody]
            exact hwr
  · intro h
    obtain ⟨raw, hraw, rfl⟩ := h
    obtain ⟨htype, hctx, extVec, hexts, hwr⟩ := marshal_ok_iff.mp hraw
    have hread := unmarshalHandshakeMessage_ok_iff.mpr ⟨raw, hwr, (rfl : _ = raw ++ rest)⟩
    have hreadExts := unmarshalExtensions_ok_iff.mpr
      ⟨extVec, hexts, (List.append_nil extVec).symm⟩
    have hn : (UInt8.ofNat r.context.length).toNat = r.context.length := by
      rw [UInt8.toNat_ofNat']
      omega
    unfold unmarshal
    simp only [hread, hn, List.take_left, List.drop_left, hreadExts]
    rw [if_neg (hasRequestType_iff.mp htype), if_neg (by simp), if_neg (by simp)]

end AuthenticatorRequest

/-! ### The codec -/

theorem inverse_handshakeMessage : Inverse unmarshalHandshakeMessage marshalHandshakeMessage :=
  .of_read_iff unmarshalHandshakeMessage_ok_iff

theorem inverse_request : Inverse AuthenticatorRequest.unmarshal AuthenticatorRequest.marshal :=
  .of_read_iff AuthenticatorRequest.unmarshal_ok_iff

/-- **The codec is canonical.** Whatever a writer writes is read back, and what a reader
accepts is what the writer makes of the value it returns, with the rest that is left over.
Only requests, extension lists and single handshake messages may be followed by a rest; the
other readers return the bytes of their message. -/
theorem codec_canonical :
    Inverse unmarshalHandshakeMessage marshalHandshakeMessage ∧
      Inverse AuthenticatorRequest.unmarshal AuthenticatorRequest.marshal ∧
      Inverse unmarshalExtensions marshalExtensions ∧
      InverseWhole unmarshalCertificateMessage CertificateMessage.marshal ∧
      InverseWhole unmarshalCertificateVerifyMessage CertificateVerifyMessage.marshal ∧
      InverseWhole unmarshalFinishedMessage FinishedMessage.marshal :=
  ⟨inverse_handshakeMessage, inverse_request, .of_read_iff unmarshalExtensions_ok_iff,
    .of_read_iff unmarshalCertificateMessage_ok_iff,
    .of_read_iff unmarshalCertificateVerifyMessage_ok_iff,
    .of_read_iff unmarshalFinishedMessage_ok_iff⟩

end SecureBinding.EA
