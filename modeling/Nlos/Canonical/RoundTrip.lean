import Nlos.Canonical.Envelope

/-!
# The envelope codec is a bijection

Decoding inverts encoding, because the structural reader fills every slot from the eight fields of
an encoding.
-/

namespace Nlos.Canonical

open Lib Slots Cbor

variable {cls : ExtensionClass} {e : CanonicalDigestEnvelope}

lemma reads_readDefiniteMap (hn : n < 256 ^ 8) : Reads readDefiniteMap (writeMap n) n := by
  rw [readDefiniteMap, ((reads_readMap hn).mapErr decodeError).bind_last_iff]
  exact Reads.pure n

lemma checkNext_eq_ok
    (h : ∀ p ∈ previous, p < extensionId) : checkNext cls previous extensionId = .ok () := by
  rw [checkNext, forSome_eq_ok]
  intro p hp
  rw [if_neg (h p hp).ne', if_neg (h p hp).not_gt]

lemma reads_readExtensions
    (hprevious : ∀ p ∈ previous, ∀ x ∈ extensions, p < x.extensionId)
    (hascending : extensions.Pairwise fun a b => a.extensionId < b.extensionId) :
    Reads (readExtensions cls extensions.length previous) (extensions.flatMap fun x =>
        writeUnsigned x.extensionId.val ++ writeBytes x.value) extensions := by
  induction extensions generalizing previous with
  | nil => exact Reads.pure []
  | cons x rest ih =>
    obtain ⟨hx, hrest⟩ := List.pairwise_cons.mp hascending
    have htail : Reads (readExtensions cls rest.length (some x.extensionId))
        (rest.flatMap fun y =>
          writeUnsigned y.extensionId.val ++ writeBytes y.value) rest :=
      ih (fun p hp y hy => Option.mem_some.mp hp ▸ hx y hy) hrest
    have hlength : x.value.length < 256 ^ 8 := x.length_le.trans_lt (by decide)
    rw [List.length_cons, readExtensions, List.flatMap_cons, List.append_assoc,
      ((reads_readUnsigned (by decide) x.extensionId).mapErr decodeError).bind_iff,
      reads_ofExcept_bind (checkNext_eq_ok fun p hp => hprevious p hp x List.mem_cons_self),
      ((reads_readBytes hlength).mapErr decodeError).bind_iff,
      reads_ofExcept_bind x.new_eq, htail.bind_last_iff]
    exact Reads.pure (x :: rest)

lemma reads_decodeExtensions (h : ValidExtensions extensions) :
    Reads (decodeExtensions cls) (encodeExtensions extensions) extensions := by
  have hcount : extensions.length < 256 ^ 8 := h.length_le.trans_lt (by decide)
  rw [decodeExtensions, encodeExtensions, (reads_readDefiniteMap hcount).bind_iff,
    reads_ofExcept_bind (v := ()) (refuseIf_eq_ok.mpr (not_lt.mpr h.length_le))]
  exact reads_readExtensions (fun p hp => absurd hp (Option.not_mem_none p)) h.ascending

namespace Slots

variable {s s' s'' : Slots} {bytes bytes' : List UInt8} {n : ℕ}

lemma checkKey_eq_ok : s.checkKey key = .ok u ↔
      key.val ≤ 7 ∧ s.seen &&& bit key = 0 ∧ ∀ previous ∈ s.previousKey, previous ≤ key := by
  simp only [checkKey, bind_eq_ok, refuseIf_eq_ok, forSome_eq_ok, exists_const, not_lt, ne_eq,
    not_not]

lemma reads_readField (key : Word 1) (hkey : s.checkKey key = .ok ())
    (hvalue : Reads ((s.mark key).readValue key) bytes s') :
    Reads s.readField (writeUnsigned key.val ++ bytes) s' := by
  rw [readField, ((reads_readUnsigned (by decide) key).mapErr decodeError).bind_iff,
    reads_ofExcept_bind hkey]
  exact hvalue

lemma reads_readFields_succ (hfield : Reads s.readField bytes s')
    (hrest : Reads (readFields n s') bytes' s'') :
    Reads (readFields (n + 1) s) (bytes ++ bytes') s'' := by
  rw [readFields, hfield.bind_iff]
  exact hrest

lemma reads_readFields_one (hfield : Reads s.readField bytes s') :
    Reads (readFields 1 s) bytes s' := by
  rw [readFields, hfield.bind_last_iff]
  exact Reads.pure s'

end Slots

def CanonicalDigestEnvelope.slots (e : CanonicalDigestEnvelope) (k : ℕ) : Slots where
  seen := UInt16.ofNat (2 ^ k - 1)
  previousKey := if k = 0 then none else some (Fin.ofNat _ (k - 1))
  schemaName := if 0 < k then some Canonical.schemaName else none
  major := if 1 < k then some schemaMajor else none
  minor := if 2 < k then some e.schemaMinor else none
  digestAlgorithm := if 3 < k then some payloadDigestAlgorithm else none
  objectId := if 4 < k then some e.objectId.bytes else none
  payloadDigest := if 5 < k then some e.payloadDigest.bytes else none
  criticalExtensions := if 6 < k then some e.criticalExtensions else none
  noncriticalExtensions := if 7 < k then some e.noncriticalExtensions else none

/-- After the first `k` keys the next one is neither a repetition nor out of order. -/
lemma checkKey_slots (e : CanonicalDigestEnvelope) (key : Word 1) (hkey : key.val ≤ 7) :
    (e.slots key.val).checkKey key = .ok () := by
  rw [checkKey_eq_ok]
  refine ⟨hkey, ?_, ?_⟩
  · have hbits : ∀ k ≤ 7, UInt16.ofNat (2 ^ k - 1) &&& 1 <<< UInt16.ofNat k = 0 := by decide
    exact hbits key.val hkey
  · intro previous hprevious
    change previous ∈ (if key.val = 0 then none else some (Fin.ofNat _ (key.val - 1))) at hprevious
    split_ifs at hprevious
    · cases hprevious
    · cases hprevious
      change (key.val - 1) % 256 ^ 1 ≤ key.val
      exact (Nat.mod_le _ _).trans (Nat.sub_le _ _)

lemma mark_slots (e : CanonicalDigestEnvelope) (key : Word 1) (hkey : key.val ≤ 7) :
    (e.slots key.val).mark key = { e.slots key.val with
        seen := (e.slots (key.val + 1)).seen
        previousKey := (e.slots (key.val + 1)).previousKey } := by
  have hbits : ∀ k ≤ 7, UInt16.ofNat (2 ^ k - 1) ||| 1 <<< UInt16.ofNat k =
      UInt16.ofNat (2 ^ (k + 1) - 1) := by decide
  have hprevious : key = Fin.ofNat _ (key.val + 1 - 1) := by simp
  have hseen := hbits key.val hkey
  simp only [mark, CanonicalDigestEnvelope.slots, bit, hseen, Nat.add_eq_zero_iff,
    one_ne_zero, and_false, if_false, ← hprevious]

lemma reads_encodeFields (e : CanonicalDigestEnvelope) :
    Reads (readFields fieldCount (e.slots 0)) (encodeFields e) (e.slots 8) := by
  have htext (t : String) (ht : (utf8Bytes t).length < 256 ^ 8) :=
    (reads_readText ht).mapErr decodeError
  have hunsigned (v : Word 4) := (reads_readUnsigned (by decide) v).mapErr decodeError
  have hbytes {k : ℕ} (w : Word k) (hk : k < 256 ^ 8) :=
    (reads_readBytes (w.length_bytes.trans_lt hk)).mapErr decodeError
  -- One field at a time; the key finds the slots of the keys before it.
  have hfield (key : Word 1) (hkey : key.val ≤ 7) {bytes : List UInt8}
      (hvalue : Reads (readValue { e.slots key.val with
        seen := (e.slots (key.val + 1)).seen
        previousKey := (e.slots (key.val + 1)).previousKey } key) bytes (e.slots (key.val + 1))) :=
    reads_readField key (checkKey_slots e key hkey) (mark_slots e key hkey ▸ hvalue)
  unfold encodeFields fieldCount
  refine reads_readFields_succ
    (hfield 0 (by decide) ((htext schemaName (by decide +kernel)).map_iff.mpr rfl)) ?_
  refine reads_readFields_succ
    (hfield 1 (by decide) ((hunsigned schemaMajor).map_iff.mpr rfl)) ?_
  refine reads_readFields_succ
    (hfield 2 (by decide) ((hunsigned e.schemaMinor).map_iff.mpr rfl)) ?_
  refine reads_readFields_succ
    (hfield 3 (by decide) ((htext payloadDigestAlgorithm (by decide +kernel)).map_iff.mpr rfl)) ?_
  refine reads_readFields_succ
    (hfield 4 (by decide) ((hbytes e.objectId (by decide)).map_iff.mpr rfl)) ?_
  refine reads_readFields_succ
    (hfield 5 (by decide) ((hbytes e.payloadDigest (by decide)).map_iff.mpr rfl)) ?_
  refine reads_readFields_succ
    (hfield 6 (by decide) ((reads_decodeExtensions e.critical_valid).map_iff.mpr rfl)) ?_
  exact reads_readFields_one
    (hfield 7 (by decide) ((reads_decodeExtensions e.noncritical_valid).map_iff.mpr rfl))

lemma reads_encodeInto (e : CanonicalDigestEnvelope) :
    Reads readEnvelope (encodeInto e) (e.slots 8) := by
  rw [readEnvelope, encodeInto, (reads_readDefiniteMap (by decide)).bind_iff,
    reads_ofExcept_bind (v := ()) (refuseIf_eq_ok.mpr (not_not.mpr rfl))]
  exact reads_encodeFields e

lemma fixedArray_bytes (w : Word k) (error : ℕ → CanonicalError) :
    fixedArray k w.bytes error = .ok w := by
  rw [fixedArray, if_pos w.length_bytes, Word.ofBytes_bytes]

lemma finish_slots (e : CanonicalDigestEnvelope) : (e.slots 8).finish = .ok e := by
  simp only [finish, bind_eq_ok, orRefuse_eq_ok, refuseIf_eq_ok, pure_eq_ok, exists_const]
  refine ⟨_, rfl, not_not.mpr rfl, _, rfl, not_not.mpr rfl, _, rfl, _, rfl, not_not.mpr rfl,
    _, rfl, _, fixedArray_bytes _ _, _, rfl, _, fixedArray_bytes _ _, _, rfl, _, rfl,
    _, e.new_eq_ok, rfl⟩

lemma decodeStructural_encodeInto (e : CanonicalDigestEnvelope) :
    decodeStructural (encodeInto e) = .ok e := by
  rw [decodeStructural, bind_eq_ok]
  refine ⟨_, (reads_encodeInto e).run_nil, ?_⟩
  exact bind_eq_ok.mpr ⟨(), refuseIf_eq_ok.mpr (not_not.mpr rfl), finish_slots e⟩

lemma decode_eq_ok : decode bytes supported = .ok e ↔
      bytes.length ≤ maxCanonicalBytes ∧ decodeStructural bytes = .ok e ∧
        (∀ x ∈ e.criticalExtensions, x.extensionId ∈ supported) ∧ encode e = .ok bytes := by
  simp only [decode, bind_eq_ok, refuseIf_eq_ok, exists_const, not_lt]
  refine and_congr_right fun _ => ?_
  constructor
  · rintro ⟨envelope, hstructural, h⟩
    split at h
    · cases h
    · next hfind =>
      obtain ⟨again, hagain, hsame, rfl⟩ := by
        simpa only [bind_eq_ok, refuseIf_eq_ok, exists_const, not_not, pure_eq_ok] using h
      refine ⟨hstructural, fun x hx => ?_, hsame ▸ hagain⟩
      simpa using List.find?_eq_none.mp hfind x hx
  · rintro ⟨hstructural, hsupported, hencode⟩
    refine ⟨e, hstructural, ?_⟩
    have hfind : e.criticalExtensions.find? (fun x => x.extensionId ∉ supported) = none := by
      simpa using hsupported
    simp only [hfind]
    exact bind_eq_ok.mpr
      ⟨bytes, hencode, bind_eq_ok.mpr ⟨(), refuseIf_eq_ok.mpr (not_not.mpr rfl), rfl⟩⟩

lemma decode_of_encode (hencode : encode e = .ok bytes)
    (hsupported : ∀ x ∈ e.criticalExtensions, x.extensionId ∈ supported) :
    decode bytes supported = .ok e := by
  obtain ⟨hlength, rfl⟩ := encode_eq_ok.mp hencode
  exact decode_eq_ok.mpr ⟨hlength, decodeStructural_encodeInto e, hsupported, hencode⟩

lemma encode_injective
    (h : encode e = .ok bytes) (h' : encode e' = .ok bytes) : e = e' := by
  obtain ⟨-, hbytes⟩ := encode_eq_ok.mp h
  obtain ⟨-, hbytes'⟩ := encode_eq_ok.mp h'
  have hsame := decodeStructural_encodeInto e
  rw [hbytes, ← hbytes', decodeStructural_encodeInto e'] at hsame
  exact (Except.ok.inj hsame).symm

/-- Decoding an encoding returns the envelope, whatever set of supported extensions contains its
critical ones, and every accepted input is the encoding of the envelope it decodes to. -/
theorem canonical_codec_bijective :
    (∀ (e : CanonicalDigestEnvelope) (bytes : List UInt8) (supported : List (Word 4)),
      encode e = .ok bytes → (∀ x ∈ e.criticalExtensions, x.extensionId ∈ supported) →
        decode bytes supported = .ok e) ∧
    ∀ (bytes : List UInt8) (supported : List (Word 4)) (e : CanonicalDigestEnvelope),
      decode bytes supported = .ok e → encode e = .ok bytes := by
  refine ⟨fun e bytes supported hencode hsupported => decode_of_encode hencode hsupported, ?_⟩
  intro bytes supported e hdecode
  obtain ⟨-, -, -, hencode⟩ := decode_eq_ok.mp hdecode
  exact hencode

namespace Sample

def envelope : CanonicalDigestEnvelope where
  schemaMinor := 300
  objectId := 7
  payloadDigest := 9
  criticalExtensions := [⟨3, [1, 2], by decide⟩, ⟨70000, [], by decide⟩]
  noncriticalExtensions := [⟨1, [5], by decide⟩]
  critical_valid := ⟨by decide, by decide⟩
  noncritical_valid := ⟨by decide, by decide⟩

lemma encode_envelope : encode envelope = .ok (encodeInto envelope) :=
  encode_eq_ok.mpr ⟨by decide +kernel, rfl⟩

end Sample

theorem canonical_codec_bijective_extensions :
    decode (encodeInto Sample.envelope) [70000, 3] = .ok Sample.envelope ∧
      encode Sample.envelope = .ok (encodeInto Sample.envelope) := by
  have hdecode := canonical_codec_bijective.1 Sample.envelope _ [70000, 3] Sample.encode_envelope
    (by decide)
  exact ⟨hdecode, canonical_codec_bijective.2 _ _ _ hdecode⟩

end Nlos.Canonical
