import Nlos.Canonical.RoundTrip
import Nlos.Lib.ExactReader

/-!
# Signing preimages

What is signed is the envelope's encoding behind the domain it is signed for, each with its length
in front.
-/

namespace Nlos.Canonical

open Lib

/-- Lower-case letters, digits, dot, underscore, slash and hyphen. -/
def isDomainByte (b : UInt8) : Bool :=
  (97 ≤ b && b ≤ 122) || (48 ≤ b && b ≤ 57) || [46, 95, 47, 45].contains b

def isValidDomain (value : String) : Bool :=
  value ≠ "" && (Cbor.utf8Bytes value).length ≤ maxDomainBytes &&
    (Cbor.utf8Bytes value).all isDomainByte

/-- The purpose a signature is made for, such as `nlos.receipt/v1`. -/
structure SignatureDomain where
  value : String
  isValid : isValidDomain value = true
deriving DecidableEq

def SignatureDomain.new (value : String) : Except CanonicalError SignatureDomain :=
  if h : isValidDomain value = true then .ok ⟨value, h⟩ else .error .invalidDomain

def encodeSigningPreimage (domain : SignatureDomain) (e : CanonicalDigestEnvelope) :
    Except CanonicalError (List UInt8) := do
  let body ← encode e
  let name := Cbor.utf8Bytes domain.value
  refuseIf (256 ^ 4 ≤ name.length) .lengthOverflow
  refuseIf (256 ^ 4 ≤ body.length) .lengthOverflow
  pure (beBytes 4 name.length ++ name ++ beBytes 4 body.length ++ body)

/-- The offsets are sums of two four-byte numbers and small constants, so the checked additions
of the source do not overflow. -/
def decodeSigningPreimageForDomain (preimage : List UInt8) (expectedDomain : SignatureDomain)
    (supportedCriticalExtensions : List (Word 4)) :
    Except CanonicalError CanonicalDigestEnvelope := do
  refuseIf (preimage.length < 8)
    (.malformed (.text "signing preimage is shorter than its two length prefixes"))
  let domainEnd := 4 + ofBeBytes (preimage.extract 0 4)
  let bodyLengthEnd := domainEnd + 4
  refuseIf (preimage.length < bodyLengthEnd)
    (.malformed (.text "domain length exceeds signing preimage"))
  let actualDomain ← orRefuse (Cbor.ofUtf8Bytes? (preimage.extract 4 domainEnd)) (.malformed .utf8)
  refuseIf (actualDomain ≠ expectedDomain.value)
    (.domainMismatch expectedDomain.value actualDomain)
  let bodyEnd := bodyLengthEnd + ofBeBytes (preimage.extract domainEnd bodyLengthEnd)
  refuseIf (bodyEnd ≠ preimage.length) .trailingData
  decode (preimage.extract bodyLengthEnd bodyEnd) supportedCriticalExtensions

lemma SignatureDomain.length_lt (d : SignatureDomain) :
    (Cbor.utf8Bytes d.value).length < 256 ^ 4 := by
  have hvalid := d.isValid
  simp only [isValidDomain, Bool.and_eq_true, decide_eq_true_eq] at hvalid
  exact hvalid.1.2.trans_lt (by decide)

lemma SignatureDomain.eq_of_utf8Bytes {d d' : SignatureDomain}
    (h : Cbor.utf8Bytes d.value = Cbor.utf8Bytes d'.value) : d = d' := by
  cases d
  cases d'
  cases Cbor.utf8Bytes_injective h
  rfl

/-- The length checks never refuse: a domain is short and so is an encoding. -/
lemma encodeSigningPreimage_eq_ok :
    encodeSigningPreimage domain e = .ok preimage ↔ ∃ body, encode e = .ok body ∧
        beBytes 4 (Cbor.utf8Bytes domain.value).length ++ Cbor.utf8Bytes domain.value ++
          beBytes 4 body.length ++ body = preimage := by
  simp only [encodeSigningPreimage, bind_eq_ok, refuseIf_eq_ok, pure_eq_ok, exists_const, not_le]
  refine exists_congr fun body => and_congr_right fun hbody => ?_
  have hlength := (encode_eq_ok.mp hbody).1.trans_lt (by decide : maxCanonicalBytes < 256 ^ 4)
  simp only [domain.length_lt, hlength, true_and]

lemma preimage_injective (h : encodeSigningPreimage d e = .ok preimage)
    (h' : encodeSigningPreimage d' e' = .ok preimage) : d = d' ∧ e = e' := by
  obtain ⟨body, hbody, hframe⟩ := encodeSigningPreimage_eq_ok.mp h
  obtain ⟨body', hbody', hframe'⟩ := encodeSigningPreimage_eq_ok.mp h'
  have hsame := hframe.trans hframe'.symm
  simp only [List.append_assoc] at hsame
  obtain ⟨hdomain, hrest⟩ := lengthFrame_inj d.length_lt d'.length_lt hsame
  have hlt {b : List UInt8} {f : CanonicalDigestEnvelope} (hb : encode f = .ok b) :
      b.length < 256 ^ 4 :=
    (encode_eq_ok.mp hb).1.trans_lt (by decide)
  have hbodies :
      beBytes 4 body.length ++ (body ++ []) = beBytes 4 body'.length ++ (body' ++ []) := by
    simpa using hrest
  obtain ⟨hsameBody, -⟩ := lengthFrame_inj (hlt hbody) (hlt hbody') hbodies
  exact ⟨SignatureDomain.eq_of_utf8Bytes hdomain, encode_injective hbody (hsameBody ▸ hbody')⟩

lemma encode_of_decode_preimage
    (h : decodeSigningPreimageForDomain preimage d supported = .ok e) :
    encodeSigningPreimage d e = .ok preimage := by
  simp only [decodeSigningPreimageForDomain, bind_eq_ok, refuseIf_eq_ok, orRefuse_eq_ok,
    exists_const, not_lt, not_not, ne_eq] at h
  obtain ⟨-, hbound, name, hname, rfl, hend, hbody⟩ := h
  have hdomain := Cbor.ofUtf8Bytes?_eq_some_iff.mp hname
  obtain ⟨-, -, -, hencode⟩ := decode_eq_ok.mp hbody
  refine encodeSigningPreimage_eq_ok.mpr ⟨_, hencode, ?_⟩
  -- The domain and the body each end where the length in front of them says.
  have hfirst := @take_eq_of_length_field 0 _ preimage (Nat.le_add_right _ _)
    ((Nat.le_add_right _ 4).trans hbound) rfl
  have hsecond := take_eq_of_length_field (Nat.le_add_right _ _) hend.le rfl
  rw [hend, List.take_length] at hsecond
  rw [hdomain, hend]
  rw [hfirst] at hsecond
  simpa using hsecond.symm

lemma decode_of_encode_preimage
    (h : encodeSigningPreimage d e = .ok preimage)
    (hsupported : ∀ x ∈ e.criticalExtensions, x.extensionId ∈ supported) :
    decodeSigningPreimageForDomain preimage d supported = .ok e := by
  obtain ⟨body, hbody, hframe⟩ := encodeSigningPreimage_eq_ok.mp h
  generalize hname : Cbor.utf8Bytes d.value = name at hframe
  have hnameLt : name.length < 256 ^ 4 := hname ▸ d.length_lt
  have hbodyLt : body.length < 256 ^ 4 := (encode_eq_ok.mp hbody).1.trans_lt (by decide)
  have hlength : preimage.length = 4 + name.length + 4 + body.length := by
    simp only [← hframe, List.length_append, length_beBytes]
  have hdomainLength : ofBeBytes (preimage.extract 0 4) = name.length := by
    simpa [← hframe] using length_field_eq [] (beBytes 4 body.length ++ body) hnameLt
  have hdomain : preimage.extract 4 (4 + name.length) = name := by
    simp [← hframe]
  have hbodyLength :
      ofBeBytes (preimage.extract (4 + name.length) (4 + name.length + 4)) = body.length := by
    simpa [← hframe] using length_field_eq (beBytes 4 name.length ++ name) [] hbodyLt
  have hbodyBytes : preimage.extract (4 + name.length + 4) (4 + name.length + 4 + body.length) =
      body := by
    simpa [← hframe] using body_eq (beBytes 4 name.length ++ name) body []
  simp only [decodeSigningPreimageForDomain, hdomainLength, hdomain, hbodyLength, hbodyBytes,
    bind_eq_ok, refuseIf_eq_ok, orRefuse_eq_ok, exists_const, not_lt, not_not, ne_eq]
  exact ⟨by omega, by omega, d.value, Cbor.ofUtf8Bytes?_eq_some_iff.mpr hname, rfl, hlength.symm,
    decode_of_encode hbody hsupported⟩

/-- Equal preimages have equal domains and equal envelopes, and the decoder for a domain accepts a
byte string only as the preimage of that domain and the envelope it returns. -/
theorem signing_preimage_domain_separated :
    (∀ (d₁ d₂ : SignatureDomain) (e₁ e₂ : CanonicalDigestEnvelope) (preimage : List UInt8),
      encodeSigningPreimage d₁ e₁ = .ok preimage → encodeSigningPreimage d₂ e₂ = .ok preimage →
        d₁ = d₂ ∧ e₁ = e₂) ∧
    ∀ (preimage : List UInt8) (d : SignatureDomain) (supported : List (Word 4))
      (e : CanonicalDigestEnvelope), decodeSigningPreimageForDomain preimage d supported = .ok e →
        encodeSigningPreimage d e = .ok preimage :=
  ⟨fun _ _ _ _ _ h h' => preimage_injective h h', fun _ _ _ _ h => encode_of_decode_preimage h⟩

namespace Sample

def domain : SignatureDomain := ⟨"nlos.receipt/v1", by decide +kernel⟩

def preimage : List UInt8 :=
  beBytes 4 (Cbor.utf8Bytes domain.value).length ++ Cbor.utf8Bytes domain.value ++
    beBytes 4 (encodeInto envelope).length ++ encodeInto envelope

lemma encode_preimage : encodeSigningPreimage domain envelope = .ok preimage :=
  encodeSigningPreimage_eq_ok.mpr ⟨_, encode_envelope, rfl⟩

end Sample

theorem signing_preimage_domain_separated_receipt :
    (∀ d e, encodeSigningPreimage d e = .ok Sample.preimage →
      Sample.domain = d ∧ Sample.envelope = e) ∧
    ∃ e, decodeSigningPreimageForDomain Sample.preimage Sample.domain [70000, 3] = .ok e ∧
      encodeSigningPreimage Sample.domain e = .ok Sample.preimage := by
  have hdecode : decodeSigningPreimageForDomain Sample.preimage Sample.domain [70000, 3] =
      .ok Sample.envelope :=
    decode_of_encode_preimage Sample.encode_preimage (by decide)
  exact ⟨fun d e h => signing_preimage_domain_separated.1 _ d _ e _ Sample.encode_preimage h,
    Sample.envelope, hdecode, signing_preimage_domain_separated.2 _ _ _ _ hdecode⟩

end Nlos.Canonical
