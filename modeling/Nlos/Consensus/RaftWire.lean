import Nlos.Consensus.LogRepr
import Nlos.Consensus.WireCodec

/-!
# Messages on the wire

A message travels as a magic header, a tag, its fields and a SHA-256 checksum. The decoder checks
what the encoder does not: identities are not zero, every log entry carries the digest of its own
body, and an append message holds at most 4096 entries.
-/

namespace Nlos.Consensus

open Lib List RaftMessage

variable {m : RaftMessage}

inductive RaftWireCodecError where
  | invalidMagic
  | truncated
  | trailingBytes
  | invalidField (field : String)
  | checksumMismatch
  | scopeViolation (violation : ScopeViolationError)
deriving DecidableEq

abbrev WireReader := Reader RaftWireCodecError

def raftWireMagic : List UInt8 := "NLOSRF01".toUTF8.toList

@[simp] lemma length_raftWireMagic : raftWireMagic.length = 8 := by decide +kernel

def u64Bytes (n : ℕ) : List UInt8 := beBytes 8 n

def RaftLogEntry.wireBytes (entry : RaftLogEntry) : List UInt8 :=
  let body := entry.proposal.encodeCommandBody
  u64Bytes entry.index ++ u64Bytes entry.term ++ [entry.proposal.command.familyCode.asU8] ++
    entry.proposal.idempotencyKey.bytes ++ beBytes 4 body.length ++ body ++
    entry.entrySha256.bytes

def RaftMessage.wireBytes : RaftMessage → List UInt8
  | .requestPreVote prospectiveTerm candidateId lastLogIndex lastLogTerm =>
    [1] ++ u64Bytes prospectiveTerm ++ candidateId.bytes ++ u64Bytes lastLogIndex ++
      u64Bytes lastLogTerm
  | .requestPreVoteResponse term prospectiveTerm voterId voteGranted =>
    [2] ++ u64Bytes term ++ u64Bytes prospectiveTerm ++ voterId.bytes ++ [voteGranted.toUInt8]
  | .requestVote term candidateId lastLogIndex lastLogTerm =>
    [3] ++ u64Bytes term ++ candidateId.bytes ++ u64Bytes lastLogIndex ++ u64Bytes lastLogTerm
  | .requestVoteResponse term voterId voteGranted =>
    [4] ++ u64Bytes term ++ voterId.bytes ++ [voteGranted.toUInt8]
  | .appendEntries term leaderId prevLogIndex prevLogTerm entries leaderCommit quorumRoundId =>
    [5] ++ u64Bytes term ++ leaderId.bytes ++ u64Bytes prevLogIndex ++
      u64Bytes prevLogTerm ++ u64Bytes leaderCommit ++ u64Bytes quorumRoundId ++
      beBytes 4 entries.length ++ entries.flatMap RaftLogEntry.wireBytes
  | .appendEntriesResponse term followerId success matchIndex conflictTerm conflictIndex
      quorumRoundId =>
      [6] ++ u64Bytes term ++ followerId.bytes ++ [success.toUInt8] ++ u64Bytes matchIndex ++
        optionBytes u64Bytes conflictTerm ++ u64Bytes conflictIndex ++ u64Bytes quorumRoundId
  | .installSnapshotChunk term leaderId lastIncludedIndex lastIncludedTerm stateRootDigest
      snapshotSha256 totalBytes offset chunkData done =>
      [7] ++ u64Bytes term ++ leaderId.bytes ++ u64Bytes lastIncludedIndex ++
        u64Bytes lastIncludedTerm ++ stateRootDigest.bytes ++ snapshotSha256.bytes ++
        u64Bytes totalBytes ++ u64Bytes offset ++ [done.toUInt8] ++
        beBytes 4 chunkData.length ++ chunkData
  | .installSnapshotResponse term followerId lastIncludedIndex nextOffset installed =>
    [8] ++ u64Bytes term ++ followerId.bytes ++ u64Bytes lastIncludedIndex ++
      u64Bytes nextOffset ++ [installed.toUInt8]

def RaftMessage.countField : RaftMessage → ℕ
  | .appendEntries _ _ _ _ entries _ _ => entries.length
  | .installSnapshotChunk _ _ _ _ _ _ _ _ chunkData _ => chunkData.length
  | _ => 0

/-- Encodes a message. A count that does not fit its field makes the source panic. -/
def encodeRaftMessage (message : RaftMessage) : Option (List UInt8) :=
  if message.countField < 256 ^ 4 then
    let out := raftWireMagic ++ message.wireBytes
    some (out ++ (Sha256.digest out).bytes)
  else none

namespace WireReader

def readU64 : WireReader ℕ := Fin.val <$> readWord .truncated 8

def readBool : WireReader Bool := readBit .truncated (.invalidField "bool")

def readCell : WireReader CellIdentity :=
  Subtype.val <$> readNonzero .truncated (.invalidField "zero CellIdentity") 16

def readEntry : WireReader RaftLogEntry := do
  let index ← readU64
  let entryTerm ← readU64
  let rawFamily ← readByte .truncated
  match CommandFamilyCode.fromWireTag rawFamily with
  | .error reject => throw (.scopeViolation (.rejectDataPlanePayload reject))
  | .ok family => do
    let idemBytes ← readWord .truncated 16
    let bodyLen ← readWord .truncated 4
    let body ← readSlice .truncated bodyLen.val
    let entrySha256 ← readWord .truncated 32
    if entrySha256 ≠ computeLogEntrySha256 index entryTerm family.asU8 idemBytes body then
      throw .checksumMismatch
    else
      match ControlPlaneProposal.decodeCommandBody family idemBytes body with
      | .error violation => throw (.scopeViolation violation)
      | .ok proposal => pure ⟨index, entryTerm, proposal, entrySha256⟩

def readMessage : WireReader RaftMessage := do
  let tag ← readByte .truncated
  match tag with
  | 1 => do
    let prospectiveTerm ← readU64
    let candidateId ← readCell
    let lastLogIndex ← readU64
    let lastLogTerm ← readU64
    pure (.requestPreVote prospectiveTerm candidateId lastLogIndex lastLogTerm)
  | 2 => do
    let term ← readU64
    let prospectiveTerm ← readU64
    let voterId ← readCell
    let voteGranted ← readBool
    pure (.requestPreVoteResponse term prospectiveTerm voterId voteGranted)
  | 3 => do
    let term ← readU64
    let candidateId ← readCell
    let lastLogIndex ← readU64
    let lastLogTerm ← readU64
    pure (.requestVote term candidateId lastLogIndex lastLogTerm)
  | 4 => do
    let term ← readU64
    let voterId ← readCell
    let voteGranted ← readBool
    pure (.requestVoteResponse term voterId voteGranted)
  | 5 => do
    let term ← readU64
    let leaderId ← readCell
    let prevLogIndex ← readU64
    let prevLogTerm ← readU64
    let leaderCommit ← readU64
    let quorumRoundId ← readU64
    let count ← readWord .truncated 4
    if 4096 < count.val then throw (.invalidField "AppendEntries count > 4096")
    else do
      let entries ← readMany readEntry count.val
      pure (.appendEntries term leaderId prevLogIndex prevLogTerm entries leaderCommit
        quorumRoundId)
  | 6 => do
    let term ← readU64
    let followerId ← readCell
    let success ← readBool
    let matchIndex ← readU64
    let conflictTerm ← readOption .truncated (.invalidField "conflict_term flag") readU64
    let conflictIndex ← readU64
    let quorumRoundId ← readU64
    pure (.appendEntriesResponse term followerId success matchIndex conflictTerm conflictIndex
      quorumRoundId)
  | 7 => do
    let term ← readU64
    let leaderId ← readCell
    let lastIncludedIndex ← readU64
    let lastIncludedTerm ← readU64
    let stateRootDigest ← readWord .truncated 32
    let snapshotSha256 ← readWord .truncated 32
    let totalBytes ← readU64
    let offset ← readU64
    let done ← readBool
    let chunkLen ← readWord .truncated 4
    let chunkData ← readSlice .truncated chunkLen.val
    pure (.installSnapshotChunk term leaderId lastIncludedIndex lastIncludedTerm
      stateRootDigest snapshotSha256 totalBytes offset chunkData done)
  | 8 => do
    let term ← readU64
    let followerId ← readCell
    let lastIncludedIndex ← readU64
    let nextOffset ← readU64
    let installed ← readBool
    pure (.installSnapshotResponse term followerId lastIncludedIndex nextOffset installed)
  | _ => throw (.invalidField "unknown RaftMessage tag")

end WireReader

def decodeRaftMessage (bytes : List UInt8) : Except RaftWireCodecError RaftMessage :=
  if bytes.length < 8 + 1 + 32 then .error .truncated
  else if bytes.extract 0 8 ≠ raftWireMagic then .error .invalidMagic
  else
    let payloadEnd := bytes.length - 32
    if bytes.drop payloadEnd ≠ (Sha256.digest (bytes.take payloadEnd)).bytes then
      .error .checksumMismatch
    else do
      let (message, rest) ← WireReader.readMessage.run (bytes.extract 8 payloadEnd)
      if rest = [] then pure message else throw .trailingBytes

/-! ## What the decoder accepts -/

namespace WireReader

lemma decodes_readU64 : Decodes readU64 u64Bytes fun n => n < 256 ^ 8 := by
  refine decodes_of_reads_of_yields (fun n hn => ?_) fun input => ?_
  · exact (reads_readWord .truncated (⟨n, hn⟩ : Word 8)).map
  · rw [readU64, yields_map_iff, yields_readWord_iff]
    rintro w rest rfl
    exact ⟨w.isLt, rfl⟩

lemma decodes_readCell : Decodes readCell Word.bytes fun cell => cell ≠ 0 := by
  refine decodes_of_reads_of_yields (fun cell hcell => ?_) fun input => ?_
  · exact (reads_readNonzero _ _ (⟨cell, hcell⟩ : { w : Word 16 // w ≠ 0 })).map
  · rw [readCell, yields_map_iff, yields_readNonzero_iff]
    rintro w rest rfl
    exact ⟨w.property, rfl⟩

@[simp] lemma yields_readU64_iff {Q : ℕ → List UInt8 → Prop} :
    Yields readU64 input Q ↔ ∀ n rest, n < 256 ^ 8 → input = u64Bytes n ++ rest → Q n rest :=
  decodes_readU64.yields_iff

@[simp] lemma yields_readBool_iff {Q : Bool → List UInt8 → Prop} :
    Yields readBool input Q ↔ ∀ b rest, input = b.toUInt8 :: rest → Q b rest :=
  yields_readBit_iff

@[simp] lemma yields_readCell_iff
    {Q : CellIdentity → List UInt8 → Prop} : Yields readCell input Q ↔
      ∀ cell rest, cell ≠ 0 → input = Word.bytes cell ++ rest → Q cell rest :=
  decodes_readCell.yields_iff

end WireReader

/-- An entry the wire can carry: it has its own digest and its proposal survives its codec. -/
structure RaftLogEntry.Wireable (entry : RaftLogEntry) : Prop where
  index_lt : entry.index < 256 ^ 8
  term_lt : entry.term < 256 ^ 8
  intact : entry.verifyIntegrity = true
  kept : entry.proposal.onWire = entry.proposal

/-- The reader of an entry accepts the bytes of wireable entries and no others. -/
lemma WireReader.decodes_readEntry :
    Decodes readEntry RaftLogEntry.wireBytes RaftLogEntry.Wireable := by
  refine decodes_of_reads_of_yields (fun entry hentry => ?_) fun input => ?_
  · obtain ⟨index, term, proposal, sha⟩ := entry
    obtain ⟨hindex, hterm, hintact, hkept⟩ := hentry
    have hbody := decodeCommandBody_encodeCommandBody proposal
    rw [hkept] at hbody
    have hlen : Reads (readWord RaftWireCodecError.truncated 4)
        (beBytes 4 proposal.encodeCommandBody.length)
        ⟨proposal.encodeCommandBody.length, length_encodeCommandBody_lt proposal⟩ :=
      reads_readWord _ ⟨_, length_encodeCommandBody_lt proposal⟩
    have hsha : sha = computeLogEntrySha256 index term proposal.command.familyCode.asU8
        proposal.idempotencyKey proposal.encodeCommandBody :=
      of_decide_eq_true hintact
    simp only [readEntry, RaftLogEntry.wireBytes, append_assoc]
    rw [(decodes_readU64.reads hindex).bind_iff, (decodes_readU64.reads hterm).bind_iff,
      (reads_readByte _ _).bind_iff, CommandFamilyCode.fromWireTag_asU8]
    dsimp only
    rw [reads_readWord_bind, hlen.bind_iff, (reads_readSlice _ _).bind_iff,
      (reads_readWord _ sha).bind_last_iff, if_neg (not_not.mpr hsha), hbody]
    exact Reads.pure _
  · simp only [readEntry, yields_bind_iff, yields_readU64_iff, yields_readByte_iff]
    rintro index mid hindex rfl term mid' hterm rfl tag mid'' rfl
    split
    · exact yields_throw _
    next family hfamily =>
    simp only [yields_bind_iff, yields_readWord_iff, (decodes_readSlice _ _).yields_iff, id_eq]
    intro key mid hmid len mid' hmid' body mid'' hlen hmid'' sha rest hrest
    split
    · exact yields_throw _
    next hsha =>
    split
    · exact yields_throw _
    next proposal hproposal =>
    rw [yields_pure_iff]
    obtain ⟨hkey, hcode, hbody⟩ := encodeCommandBody_of_decodeCommandBody hproposal
    have hkept := decodeCommandBody_encodeCommandBody proposal
    rw [hkey, hcode, hbody, hproposal] at hkept
    refine ⟨⟨hindex, hterm, ?_, (Except.ok.inj hkept).symm⟩, ?_⟩
    · rw [not_not] at hsha
      exact decide_eq_true (by rw [hsha, RaftLogEntry.expectedSha256, hkey, hcode, hbody])
    · rw [hmid, hmid', hmid'', hrest, RaftLogEntry.wireBytes]
      dsimp only
      rw [hkey, hcode, hbody, hlen, CommandFamilyCode.asU8_of_fromWireTag hfamily]
      simp [Word.bytes]

namespace RaftMessage

def logEntries : RaftMessage → List RaftLogEntry
  | .appendEntries _ _ _ _ entries _ _ => entries
  | _ => []

def numbers : RaftMessage → List ℕ
  | .requestPreVote prospectiveTerm _ lastLogIndex lastLogTerm =>
    [prospectiveTerm, lastLogIndex, lastLogTerm]
  | .requestPreVoteResponse term prospectiveTerm _ _ => [term, prospectiveTerm]
  | .requestVote term _ lastLogIndex lastLogTerm => [term, lastLogIndex, lastLogTerm]
  | .requestVoteResponse term _ _ => [term]
  | .appendEntries term _ prevLogIndex prevLogTerm _ leaderCommit quorumRoundId =>
    [term, prevLogIndex, prevLogTerm, leaderCommit, quorumRoundId]
  | .appendEntriesResponse term _ _ matchIndex conflictTerm conflictIndex quorumRoundId =>
    [term, matchIndex, conflictIndex, quorumRoundId] ++ conflictTerm.toList
  | .installSnapshotChunk term _ lastIncludedIndex lastIncludedTerm _ _ totalBytes offset _ _ =>
    [term, lastIncludedIndex, lastIncludedTerm, totalBytes, offset]
  | .installSnapshotResponse term _ lastIncludedIndex nextOffset _ =>
    [term, lastIncludedIndex, nextOffset]

/-- The limits on counts: 4096 entries, and a chunk whose length fits four bytes. -/
def WithinLimits : RaftMessage → Prop
  | .appendEntries _ _ _ _ entries _ _ => entries.length ≤ 4096
  | .installSnapshotChunk _ _ _ _ _ _ _ _ chunkData _ => chunkData.length < 256 ^ 4
  | _ => True

structure Wireable (m : RaftMessage) : Prop where
  sender_ne : m.claimedSender ≠ 0
  numbers_lt : ∀ n ∈ m.numbers, n < 256 ^ 8
  entries : ∀ e ∈ m.logEntries, e.Wireable
  limits : m.WithinLimits

lemma WithinLimits.countField_lt (h : m.WithinLimits) : m.countField < 256 ^ 4 := by
  cases m with
  | appendEntries =>
    simp only [WithinLimits, countField] at h ⊢
    omega
  | installSnapshotChunk => exact h
  | _ => exact Nat.pow_pos (by decide)

end RaftMessage

namespace WireReader

section Run

variable {β : Type} {b : List UInt8} {w : β}

lemma reads_readU64_bind (hn : n < 256 ^ 8) :
    Reads (readU64 >>= f) (u64Bytes n ++ b) w ↔ Reads (f n) b w :=
  (decodes_readU64.reads hn).bind_iff

lemma reads_readU64_last (hn : n < 256 ^ 8) :
    Reads (readU64 >>= f) (u64Bytes n) w ↔ Reads (f n) [] w :=
  (decodes_readU64.reads hn).bind_last_iff

lemma reads_readCell_bind (hcell : cell ≠ 0) :
    Reads (readCell >>= f) (Word.bytes cell ++ b) w ↔ Reads (f cell) b w :=
  (decodes_readCell.reads hcell).bind_iff

lemma reads_readBool_bind (v : Bool) :
    Reads (readBool >>= f) (v.toUInt8 :: b) w ↔ Reads (f v) b w :=
  (reads_readBit _ _ v).bind_iff

lemma reads_conflictTerm_bind (ho : ∀ n ∈ o.toList, n < 256 ^ 8) :
    Reads (readOption .truncated bad readU64 >>= f) (optionBytes u64Bytes o ++ b) w ↔
      Reads (f o) b w :=
  ((decodes_readOption decodes_readU64).reads fun n hn => ho n (by simpa using hn)).bind_iff

end Run

/-- Every wireable message is read back. -/
lemma reads_readMessage (h : m.Wireable) : Reads readMessage m.wireBytes m := by
  obtain ⟨hsender, hnumbers, hentries, hlimits⟩ := h
  cases m with
  | appendEntries term leaderId prevLogIndex prevLogTerm entries =>
    simp only [claimedSender] at hsender
    simp only [numbers, forall_mem_cons] at hnumbers
    obtain ⟨hterm, hprev, hprevTerm, hcommit, hround, -⟩ := hnumbers
    simp only [RaftMessage.WithinLimits] at hlimits
    have hcount : Reads (readWord RaftWireCodecError.truncated 4) (beBytes 4 entries.length)
        ⟨entries.length, by omega⟩ := reads_readWord _ ⟨_, _⟩
    simp (disch := assumption) only [readMessage, wireBytes, append_assoc,
      cons_append, nil_append, reads_readByte_bind, reads_readU64_bind, reads_readCell_bind]
    rw [hcount.bind_iff, if_neg (not_lt.mpr hlimits),
      ((decodes_readMany decodes_readEntry entries.length).reads ⟨rfl, hentries⟩).bind_last_iff]
    exact Reads.pure _
  | installSnapshotChunk _ _ _ _ _ _ _ _ chunkData =>
    simp only [claimedSender] at hsender
    simp only [numbers, forall_mem_cons] at hnumbers
    obtain ⟨hterm, hindex, hincluded, htotal, hoffset, -⟩ := hnumbers
    simp only [RaftMessage.WithinLimits] at hlimits
    have hcount : Reads (readWord RaftWireCodecError.truncated 4)
        (beBytes 4 chunkData.length) ⟨chunkData.length, hlimits⟩ := reads_readWord _ ⟨_, _⟩
    simp (disch := assumption) only [readMessage, wireBytes, append_assoc,
      cons_append, nil_append, reads_readByte_bind, reads_readU64_bind,
      reads_readCell_bind, reads_readWord_bind, reads_readBool_bind]
    rw [hcount.bind_iff, (reads_readSlice _ _).bind_last_iff]
    exact Reads.pure _
  | appendEntriesResponse =>
    simp only [claimedSender] at hsender
    simp only [numbers, cons_append, nil_append, forall_mem_cons] at hnumbers
    obtain ⟨hterm, hmatch, hconflict, hround, hconflictTerm⟩ := hnumbers
    simp (disch := assumption) only [readMessage, wireBytes, append_assoc,
      cons_append, nil_append, reads_readByte_bind, reads_readU64_bind,
      reads_readCell_bind, reads_readBool_bind, reads_conflictTerm_bind, reads_readU64_last,
      reads_pure_nil_iff]
  | _ =>
    simp only [claimedSender] at hsender
    simp only [numbers, forall_mem_cons] at hnumbers
    simp (disch := first | assumption | omega) only [readMessage, wireBytes, append_assoc,
      cons_append, nil_append, reads_readByte_bind, reads_readU64_bind,
      reads_readCell_bind, reads_readBool_bind, reads_readU64_last, reads_pure_nil_iff]

/-- Whatever the bytes, a message that is read keeps the limits. -/
lemma yields_readMessage (input : List UInt8) :
    Yields readMessage input fun m _ => m.WithinLimits := by
  simp only [readMessage, yields_bind_iff, yields_readByte_iff]
  intro tag rest _
  split
  case h_5 =>
      simp only [yields_bind_iff, yields_readU64_iff, yields_readCell_iff, yields_readWord_iff,
        yields_ite_iff, yields_throw, (decodes_readMany decodes_readEntry _).yields_iff,
        yields_pure_iff, RaftMessage.WithinLimits, implies_true, true_and, not_lt]
      intros
      omega
  case h_7 =>
      simp only [yields_bind_iff, yields_readU64_iff, yields_readCell_iff, yields_readWord_iff,
        yields_readBool_iff, (decodes_readSlice _ _).yields_iff, yields_pure_iff,
        RaftMessage.WithinLimits]
      intros
      omega
  all_goals simp only [yields_bind_iff, yields_readU64_iff, yields_readCell_iff,
    yields_readBool_iff, (decodes_readOption decodes_readU64).yields_iff, yields_pure_iff,
    yields_throw, RaftMessage.WithinLimits, implies_true]

end WireReader

lemma run_of_decodeRaftMessage (h : decodeRaftMessage bytes = .ok m) :
    WireReader.readMessage.run (bytes.extract 8 (bytes.length - 32)) = .ok (m, []) := by
  unfold decodeRaftMessage at h
  split at h
  · cases h
  split at h
  · cases h
  dsimp only at h
  split at h
  · cases h
  cases hrun : WireReader.readMessage.run (bytes.extract 8 (bytes.length - 32)) with
  | error => simp [hrun, bind, Except.bind] at h
  | ok r =>
    obtain ⟨message, rest⟩ := r
    simp only [hrun, bind, Except.bind] at h
    split at h
    · next hrest =>
      cases h
      rw [hrest]
    · cases h

lemma RaftMessage.length_wireBytes_pos (m : RaftMessage) : 0 < m.wireBytes.length := by
  cases m <;> simp [wireBytes]

lemma decodeRaftMessage_frame (h : m.Wireable) :
    decodeRaftMessage (raftWireMagic ++ m.wireBytes ++
      (Sha256.digest (raftWireMagic ++ m.wireBytes)).bytes) = .ok m := by
  set out := raftWireMagic ++ m.wireBytes with hout
  set sum := (Sha256.digest out).bytes with hsum
  have hshort : ¬ (out ++ sum).length < 8 + 1 + 32 := by
    have hpos := m.length_wireBytes_pos
    simp [hout, hsum]
    omega
  have hend : (out ++ sum).length - 32 = out.length := by simp [hsum]
  have hmagic : (out ++ sum).extract 0 8 = raftWireMagic := by
    simp [hout, extract_eq_take_drop]
  have hfields : (out ++ sum).extract 8 out.length = m.wireBytes := by
    have h := extract_append raftWireMagic m.wireBytes sum
    rwa [← length_append, length_raftWireMagic] at h
  have htake : (out ++ sum).take out.length = out := by simp
  have hdrop : (out ++ sum).drop out.length = sum := by simp
  rw [decodeRaftMessage, if_neg hshort, hmagic, if_neg (not_not.mpr rfl)]
  dsimp only
  rw [hend, htake, hdrop, hfields, if_neg (not_not.mpr hsum),
    (WireReader.reads_readMessage h).run_nil]
  rfl

/-- The frame of a well-typed message decodes to it exactly within the limits. -/
lemma decodeRaftMessage_encodeRaftMessage_iff (hsender : m.claimedSender ≠ 0)
    (hnumbers : ∀ n ∈ m.numbers, n < 256 ^ 8) (hentries : ∀ e ∈ m.logEntries, e.Wireable) :
    (∃ bytes, encodeRaftMessage m = some bytes ∧ decodeRaftMessage bytes = .ok m) ↔
      m.WithinLimits := by
  constructor
  · rintro ⟨bytes, -, hdecode⟩
    exact WireReader.yields_readMessage _ _ _ (run_of_decodeRaftMessage hdecode)
  · intro hlimits
    refine ⟨_, if_pos hlimits.countField_lt, ?_⟩
    exact decodeRaftMessage_frame ⟨hsender, hnumbers, hentries, hlimits⟩

end Nlos.Consensus
