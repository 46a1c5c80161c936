import Nlos.Consensus.CommandCodec
import Nlos.Lib.ExactReader

/-!
# Proposal frames

A proposal travels as a frame with a magic header, its family tag, its idempotency key, the length
of its body, the body and a SHA-256 checksum.
-/

namespace Nlos.Consensus

open Lib ControlPlaneProposal TaskAuthorityShardCommand CommandFamilyCode

def wireMagic : List UInt8 := "NLOSCP01".toUTF8.toList

@[simp] lemma length_wireMagic : wireMagic.length = 8 := by decide +kernel

def ControlPlaneProposal.wireHeader (p : ControlPlaneProposal) : List UInt8 :=
  wireMagic ++ [p.command.familyCode.asU8] ++ p.idempotencyKey.bytes

def ControlPlaneProposal.encodeWire (p : ControlPlaneProposal) : List UInt8 :=
  let body := p.encodeCommandBody
  let frame := p.wireHeader ++ beBytes 4 body.length ++ body
  frame ++ (Sha256.digest frame).bytes

/-- Decodes a frame. The family tag is checked before the checksum, so that a data-plane
frame is always refused as such. -/
def ControlPlaneProposal.decodeWire (bytes : List UInt8) :
    Except ScopeViolationError ControlPlaneProposal :=
  if bytes.length < 8 + 1 + 16 + 4 + 32 then .error .truncatedPayload
  else if bytes.extract 0 8 ≠ wireMagic then .error .malformedWireHeader
  else
    match CommandFamilyCode.fromWireTag (bytes.getD 8 0) with
    | .error reject => .error (.rejectDataPlanePayload reject)
    | .ok familyCode =>
      let payloadEnd := bytes.length - 32
      if bytes.drop payloadEnd ≠ (Sha256.digest (bytes.take payloadEnd)).bytes then
        .error .payloadChecksumMismatch
      else
        let idempotencyKey : IdempotencyKey := Word.ofBytes 16 (bytes.extract 9 25)
        let bodyLen := ofBeBytes (bytes.extract 25 29)
        if 29 + bodyLen ≠ payloadEnd then .error .trailingBytes
        else
          ControlPlaneProposal.decodeCommandBody familyCode idempotencyKey
            (bytes.extract 29 payloadEnd)

/-! ## What the decoder accepts -/

instance : LawfulByteTag ReplicatedQuotaLeaseDisposition where
  toByte_of_ofByte {b v} h := by
    simp only [ByteTag.ofByte, ReplicatedQuotaLeaseDisposition.fromU8] at h
    split at h <;> cases h <;> rfl

instance : LawfulByteTag ReplicatedDeviceHeadState where
  toByte_of_ofByte {b v} h := by
    simp only [ByteTag.ofByte, ReplicatedDeviceHeadState.fromU8] at h
    split at h <;> cases h <;> rfl

lemma CommandFamilyCode.asU8_of_fromWireTag
    (h : fromWireTag tag = .ok family) : family.asU8 = tag := by
  simp only [fromWireTag] at h
  split at h <;> cases h <;> rfl

lemma decodes_cursorSocketAddrOpt {ε : Type} (short bad : ε) :
    Decodes (cursorSocketAddrOpt short bad) encodeSocketAddrOpt fun hint =>
      hint.map SocketAddr.onWire = hint := by
  refine decodes_of_reads_of_yields (fun hint hkept => ?_) fun input => ?_
  · have h := reads_cursorSocketAddrOpt short bad hint
    rwa [hkept] at h
  · simp only [cursorSocketAddrOpt, yields_bind_iff, yields_readByte_iff]
    rintro tag rest rfl
    split
    · simp [encodeSocketAddrOpt]
    · simp +contextual [encodeSocketAddrOpt, SocketAddr.onWire]
    · simp +contextual [encodeSocketAddrOpt, SocketAddr.onWire]
    · exact yields_throw bad

@[simp] lemma yields_cursorSocketAddrOpt_iff {ε : Type} {short bad : ε}
    {Q : Option SocketAddr → List UInt8 → Prop} :
    Yields (cursorSocketAddrOpt short bad) input Q ↔ ∀ hint rest,
      hint.map SocketAddr.onWire = hint → input = encodeSocketAddrOpt hint ++ rest → Q hint rest :=
  (decodes_cursorSocketAddrOpt short bad).yields_iff

/-- The fields of a family are accepted only as the body that the encoder writes. -/
lemma yields_cellDirectory (subTag : UInt8) (input : List UInt8) :
    Yields (CellDirectoryCommand.decodeFields subTag) input fun cmd rest =>
      subTag :: input = cmd.encodeBody ++ rest := by
  simp only [CellDirectoryCommand.decodeFields]
  split <;> simp only [yields_bind_iff, yields_pure_iff, yields_throw, yields_readWord_iff,
    yields_readNonzero_iff, yields_cursorSocketAddrOpt_iff]
  all_goals
    intros
    subst_vars
    simp [CellDirectoryCommand.encodeBody]

lemma yields_rootLeasePool (subTag : UInt8) (input : List UInt8) :
    Yields (RootLeasePoolCommand.decodeFields subTag) input fun cmd rest =>
      subTag :: input = cmd.encodeBody ++ rest := by
  simp only [RootLeasePoolCommand.decodeFields]
  split <;> simp only [yields_bind_iff, yields_pure_iff, yields_throw, yields_readWord_iff,
    yields_readNonzero_iff, yields_readOption_word_iff, yields_readTag_iff, yields_readBit_iff]
  all_goals
    intros
    subst_vars
    simp [RootLeasePoolCommand.encodeBody]

lemma yields_taskAuthorityShard (subTag : UInt8) (input : List UInt8) :
    Yields (decodeFields subTag) input fun cmd rest =>
      subTag :: input = cmd.encodeBody ++ rest := by
  simp only [decodeFields]
  split <;> simp only [yields_bind_iff, yields_pure_iff, yields_throw, yields_readWord_iff,
    yields_readNonzero_iff, yields_readOption_word_iff]
  all_goals
    intros
    subst_vars
    simp [encodeBody]

lemma yields_controlPlaneAudit (subTag : UInt8) (input : List UInt8) :
    Yields (ControlPlaneAuditCommand.decodeFields subTag) input fun cmd rest =>
      subTag :: input = cmd.encodeBody ++ rest := by
  simp only [ControlPlaneAuditCommand.decodeFields]
  split <;> simp only [yields_bind_iff, yields_pure_iff, yields_throw, yields_readWord_iff,
    yields_readNonzero_iff]
  all_goals
    intros
    subst_vars
    simp [ControlPlaneAuditCommand.encodeBody]

lemma yields_decodeCommand (family : CommandFamilyCode) (key : IdempotencyKey)
    (input : List UInt8) : Yields (decodeCommand family) input fun command rest =>
      command.familyCode = family ∧ input = encodeCommandBody ⟨key, command⟩ ++ rest := by
  rw [decodeCommand, yields_bind_iff, yields_readByte_iff]
  rintro subTag fields rfl
  cases family with
  | cellDirectory =>
    rw [yields_map_iff]
    exact (yields_cellDirectory subTag fields).imp fun cmd rest h => ⟨rfl, h⟩
  | rootLeasePool =>
    rw [yields_map_iff]
    exact (yields_rootLeasePool subTag fields).imp fun cmd rest h => ⟨rfl, h⟩
  | taskAuthorityShard =>
    rw [yields_map_iff]
    exact (yields_taskAuthorityShard subTag fields).imp fun cmd rest h => ⟨rfl, h⟩
  | controlPlaneAudit =>
    rw [yields_map_iff]
    exact (yields_controlPlaneAudit subTag fields).imp fun cmd rest h => ⟨rfl, h⟩

lemma encodeCommandBody_of_decodeCommandBody
    (h : decodeCommandBody family key body = .ok p) :
    p.idempotencyKey = key ∧ p.command.familyCode = family ∧ p.encodeCommandBody = body := by
  rw [decodeCommandBody] at h
  cases hrun : (decodeCommand family).run body with
  | error => simp [hrun, bind, Except.bind] at h
  | ok r =>
    obtain ⟨command, rest⟩ := r
    simp only [hrun, bind, Except.bind] at h
    split at h
    · next hrest =>
      cases h
      obtain ⟨hfamily, hbody⟩ := yields_decodeCommand family key body command rest hrun
      exact ⟨rfl, hfamily, by rw [hbody, hrest, List.append_nil]⟩
    · cases h

@[simp] lemma length_wireHeader (p : ControlPlaneProposal) : p.wireHeader.length = 25 := by
  simp [wireHeader]

lemma length_encodeSocketAddrOpt_le (hint : Option SocketAddr) :
    (encodeSocketAddrOpt hint).length ≤ 19 := by
  rcases hint with _ | ⟨ip, port⟩ | ⟨ip, port, flowinfo, scopeId⟩ <;> simp [encodeSocketAddrOpt]

lemma length_optionBytes_le (o : Option (Word k)) :
    (optionBytes Word.bytes o).length ≤ k + 1 := by
  cases o <;> simp [optionBytes]

lemma length_encodeCommandBody_lt (p : ControlPlaneProposal) :
    p.encodeCommandBody.length < 256 ^ 4 := by
  obtain ⟨key, command⟩ := p
  rcases command with cmd | cmd | cmd | cmd <;> cases cmd
  case cellDirectoryMutation.upsertCellEndpoint hint =>
      have := length_encodeSocketAddrOpt_le hint
      simp [encodeCommandBody, CellDirectoryCommand.encodeBody]
      omega
  case rootLeasePoolMutation.transitionExclusiveDeviceHead holder _ _ _ =>
      have := length_optionBytes_le holder
      simp [encodeCommandBody, RootLeasePoolCommand.encodeBody]
      omega
  case taskAuthorityShardMutation.recordCompletedTakeover root =>
      have := length_optionBytes_le root
      simp [encodeCommandBody, encodeBody]
      omega
  all_goals simp [encodeCommandBody, CellDirectoryCommand.encodeBody,
    RootLeasePoolCommand.encodeBody, encodeBody, ControlPlaneAuditCommand.encodeBody]

lemma decodeWire_encodeWire (p : ControlPlaneProposal) :
    decodeWire p.encodeWire = .ok p.onWire := by
  set body := p.encodeCommandBody with hbody
  set frame := p.wireHeader ++ beBytes 4 body.length ++ body with hframe
  have hwire : p.encodeWire = frame ++ (Sha256.digest frame).bytes := rfl
  have hlength : frame.length = 25 + 4 + body.length := by
    rw [hframe, List.length_append, List.length_append, length_wireHeader, length_beBytes]
  have hshort : ¬ p.encodeWire.length < 8 + 1 + 16 + 4 + 32 := by
    simp [hwire, hlength]
  have hend : p.encodeWire.length - 32 = frame.length := by simp [hwire]
  have hmagic : p.encodeWire.extract 0 8 = wireMagic := by
    simp [hwire, hframe, wireHeader, List.extract_eq_take_drop]
  have htag : p.encodeWire.getD 8 0 = p.command.familyCode.asU8 := by
    simp [hwire, hframe, wireHeader]
  have hkey : p.encodeWire.extract 9 25 = p.idempotencyKey.bytes := by
    have h := extract_append (wireMagic ++ [p.command.familyCode.asU8]) p.idempotencyKey.bytes
      (beBytes 4 body.length ++ body ++ (Sha256.digest frame).bytes)
    simpa [hwire, hframe, wireHeader] using h
  have hlen : ofBeBytes (p.encodeWire.extract 25 29) = body.length := by
    have h := length_field_eq p.wireHeader (Sha256.digest frame).bytes
      (length_encodeCommandBody_lt p)
    rwa [length_wireHeader] at h
  have hcommand : p.encodeWire.extract 29 (29 + body.length) = body := by
    have h := body_eq p.wireHeader body (Sha256.digest frame).bytes
    rwa [length_wireHeader] at h
  have htake : p.encodeWire.take frame.length = frame := by simp [hwire]
  have hdrop : p.encodeWire.drop frame.length = (Sha256.digest frame).bytes := by simp [hwire]
  rw [decodeWire, if_neg hshort, hmagic, htag, fromWireTag_asU8]
  simp only [hend, htake, hdrop, hkey, hlen, ne_eq, not_true_eq_false, if_false, Word.ofBytes_bytes]
  rw [hlength, hcommand]
  simpa using decodeCommandBody_encodeCommandBody p

/-- A frame is accepted only as the frame of the proposal it decodes to. -/
lemma encodeWire_of_decodeWire
    (h : decodeWire bytes = .ok p) : p.encodeWire = bytes := by
  unfold decodeWire at h
  split at h
  · cases h
  next hlen =>
  split at h
  · cases h
  next hmagic =>
  split at h
  · cases h
  next family hfamily =>
  dsimp only at h
  split at h
  · cases h
  next hsum =>
  split at h
  · cases h
  next hend =>
  rw [not_not] at hmagic hsum hend
  obtain ⟨hkey, hcode, hbody⟩ := encodeCommandBody_of_decodeCommandBody h
  have hheader : p.wireHeader = bytes.take 25 := by
    have hword : (bytes.extract 9 25).length = 16 := by
      rw [length_extract]
      omega
    have htag : [bytes.getD 8 0] = bytes.extract 8 9 :=
      (extract_succ (by omega) 0).symm
    have hstart : bytes.extract 0 8 = bytes.take 8 := rfl
    rw [wireHeader, ← hmagic, hcode, hkey, Word.bytes_ofBytes hword,
      asU8_of_fromWireTag hfamily, htag, hstart,
      take_append_extract (by decide), take_append_extract (by decide)]
  have hframe : bytes.take (bytes.length - 32) =
      p.wireHeader ++ beBytes 4 p.encodeCommandBody.length ++ p.encodeCommandBody := by
    rw [hheader, hbody]
    exact take_eq_of_length_field (by omega) (by omega) hend
  have hsplit := List.take_append_drop (bytes.length - 32) bytes
  rw [hsum, hframe] at hsplit
  exact hsplit

def ControlPlaneCommand.endpointHint : ControlPlaneCommand → Option SocketAddr
  | .cellDirectoryMutation (.upsertCellEndpoint _ _ _ _ _ _ endpointHint) => endpointHint
  | _ => none

/-- An address with no flow information and no scope, as every IPv4 address is. -/
def SocketAddr.Unscoped : SocketAddr → Prop
  | .v4 _ _ => True
  | .v6 _ _ flowinfo scopeId => flowinfo = 0 ∧ scopeId = 0

lemma SocketAddr.onWire_eq_self_iff (addr : SocketAddr) : addr.onWire = addr ↔ addr.Unscoped := by
  cases addr <;> simp [SocketAddr.onWire, SocketAddr.Unscoped, eq_comm]

lemma map_onWire_eq_self_iff (hint : Option SocketAddr) :
    hint.map SocketAddr.onWire = hint ↔ ∀ addr ∈ hint, addr.Unscoped := by
  cases hint <;> simp [SocketAddr.onWire_eq_self_iff]

lemma ControlPlaneProposal.onWire_eq_self_iff (p : ControlPlaneProposal) :
    p.onWire = p ↔ ∀ addr ∈ p.command.endpointHint, addr.Unscoped := by
  obtain ⟨key, command⟩ := p
  rcases command with cmd | cmd | cmd | cmd
  · cases cmd <;> simp [onWire, ControlPlaneCommand.onWire,
      ControlPlaneCommand.endpointHint, map_onWire_eq_self_iff]
  all_goals simp [onWire, ControlPlaneCommand.onWire, ControlPlaneCommand.endpointHint]

/-- A proposal survives its frame exactly when its endpoint hint has no flow information and
no scope, and a frame is accepted only as the frame of the proposal it decodes to. -/
theorem ControlPlaneProposal.wire_roundTrip (p : ControlPlaneProposal) (bytes : List UInt8) :
    (ControlPlaneProposal.decodeWire p.encodeWire = .ok p ↔
      ∀ addr ∈ p.command.endpointHint, addr.Unscoped) ∧
    (ControlPlaneProposal.decodeWire bytes = .ok p → p.encodeWire = bytes) := by
  refine ⟨?_, encodeWire_of_decodeWire⟩
  rw [decodeWire_encodeWire, Except.ok.injEq, ControlPlaneProposal.onWire_eq_self_iff]

def linkLocalUpsert : ControlPlaneProposal :=
  ⟨1, .cellDirectoryMutation (.upsertCellEndpoint 1 1 1 ⟨1, one_ne_zero_u64⟩ ⟨1, one_ne_zero_u64⟩ 0
    (some (.v6 0xfe80_0000_0000_0000_0000_0000_0000_0001 4433 0 2)))⟩

/-- The follower that decodes this proposal holds another value than the leader. -/
theorem ControlPlaneProposal.wire_drops_scope :
    ControlPlaneProposal.decodeWire linkLocalUpsert.encodeWire ≠ .ok linkLocalUpsert := by
  rw [decodeWire_encodeWire]
  decide

end Nlos.Consensus
