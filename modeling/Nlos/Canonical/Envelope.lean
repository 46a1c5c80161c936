import Nlos.Lib.Cbor
import Nlos.Lib.Guarded

/-!
# Canonical digest envelopes

The envelope whose encoding NLOS signs: an object id, a payload digest and two classes of opaque
extensions, as a CBOR map with the keys `0` to `7`. `encode` writes the one accepted representation.
-/

namespace Nlos.Canonical

open Lib

def schemaName : String := "nlos.canonical.DigestEnvelope"
def schemaMajor : Word 4 := 1
def schemaMinor : Word 4 := 0
def payloadDigestAlgorithm : String := "sha-256"
def maxCanonicalBytes : ℕ := 4096
def maxDomainBytes : ℕ := 96
def maxExtensionsPerClass : ℕ := 16
def maxExtensionValueBytes : ℕ := 256
def fieldCount : ℕ := 8

inductive ExtensionClass where
  | critical
  | noncritical
deriving DecidableEq

def className : ExtensionClass → String
  | .critical => "critical"
  | .noncritical => "noncritical"

/-- What a `Malformed` error reports: a text of this crate, or a failure of the CBOR reader or of
the UTF-8 check, whose texts are not this crate's. -/
inductive Malformation where
  | text (message : String)
  | cbor (fault : Cbor.Fault)
  | utf8
deriving DecidableEq

inductive CanonicalError where
  | frameTooLarge (actual maximum : ℕ)
  | malformed (what : Malformation)
  | indefiniteLength
  | wrongFieldCount (actual expected : ℕ)
  | duplicateField (key : Word 1)
  | fieldOrder (previous current : Word 1)
  | unknownField (key : Word 1)
  | missingField (key : Word 1)
  | wrongSchema (name : String)
  | unsupportedMajor (major : Word 4)
  | unsupportedDigestAlgorithm (name : String)
  | invalidDomain
  | domainMismatch (expected actual : String)
  | invalidObjectIdLength (actual : ℕ)
  | invalidPayloadDigestLength (actual : ℕ)
  | tooManyExtensions (cls : String) (actual : ℕ)
  | duplicateExtension (cls : String) (extensionId : Word 4)
  | extensionOrder (cls : String) (previous current : Word 4)
  | extensionValueTooLarge (extensionId : Word 4) (actual : ℕ)
  | unsupportedCriticalExtension (extensionId : Word 4)
  | trailingData
  | nonCanonicalEncoding
  | lengthOverflow
deriving DecidableEq

structure Extension where
  extensionId : Word 4
  value : List UInt8
  length_le : value.length ≤ maxExtensionValueBytes
deriving DecidableEq

def Extension.new (extensionId : Word 4) (value : List UInt8) : Except CanonicalError Extension :=
  if h : value.length ≤ maxExtensionValueBytes then .ok ⟨extensionId, value, h⟩
  else .error (.extensionValueTooLarge extensionId value.length)

lemma Extension.new_eq (x : Extension) : Extension.new x.extensionId x.value = .ok x :=
  dif_pos x.length_le

/-- The pairwise comparison of neighbours in `validate_extensions`. -/
def checkOrder (cls : ExtensionClass) : List Extension → Except CanonicalError Unit
  | a :: b :: rest =>
    if a.extensionId = b.extensionId then
      .error (.duplicateExtension (className cls) a.extensionId)
    else if b.extensionId < a.extensionId then
      .error (.extensionOrder (className cls) a.extensionId b.extensionId)
    else checkOrder cls (b :: rest)
  | _ => .ok ()

def validateExtensions (extensions : List Extension) (cls : ExtensionClass) :
    Except CanonicalError Unit :=
  if maxExtensionsPerClass < extensions.length then
    .error (.tooManyExtensions (className cls) extensions.length)
  else checkOrder cls extensions

/-- Few enough extensions, in strictly ascending order of their ids. -/
structure ValidExtensions (extensions : List Extension) : Prop where
  length_le : extensions.length ≤ maxExtensionsPerClass
  ascending : extensions.Pairwise fun a b => a.extensionId < b.extensionId

lemma checkOrder_eq_ok : checkOrder cls extensions = .ok u ↔
      extensions.Pairwise fun a b => a.extensionId < b.extensionId := by
  have htrans : IsTrans Extension fun a b => a.extensionId < b.extensionId :=
    ⟨fun _ _ _ hab hbc => hab.trans hbc⟩
  rw [← List.isChain_iff_pairwise]
  fun_induction checkOrder cls extensions with
  | case1 a b rest heq => simp [heq]
  | case2 a b rest hne hlt => simp [hlt.le]
  | case3 a b rest hne hle ih =>
    have hab : a.extensionId < b.extensionId := lt_of_le_of_ne (not_lt.mp hle) hne
    simp [hab, ih]
  | case4 extensions hshort =>
    match extensions with
    | [] => simp
    | [a] => simp
    | a :: b :: rest => exact absurd rfl (hshort a b rest)

lemma validateExtensions_eq_ok :
    validateExtensions extensions cls = .ok u ↔ ValidExtensions extensions := by
  rw [validateExtensions, ite_error_eq_ok, checkOrder_eq_ok, not_lt]
  exact ⟨fun h => ⟨h.1, h.2⟩, fun h => ⟨h.length_le, h.ascending⟩⟩

structure CanonicalDigestEnvelope where
  schemaMinor : Word 4
  objectId : Word 16
  payloadDigest : Word 32
  (criticalExtensions noncriticalExtensions : List Extension)
  critical_valid : ValidExtensions criticalExtensions
  noncritical_valid : ValidExtensions noncriticalExtensions
deriving DecidableEq

def CanonicalDigestEnvelope.new (objectId : Word 16) (payloadDigest : Word 32)
    (criticalExtensions noncriticalExtensions : List Extension) :
    Except CanonicalError CanonicalDigestEnvelope :=
  match hc : validateExtensions criticalExtensions .critical with
  | .error e => .error e
  | .ok () =>
    match hn : validateExtensions noncriticalExtensions .noncritical with
    | .error e => .error e
    | .ok () => .ok {
        schemaMinor := Canonical.schemaMinor
        objectId, payloadDigest, criticalExtensions, noncriticalExtensions
        critical_valid := validateExtensions_eq_ok.mp hc
        noncritical_valid := validateExtensions_eq_ok.mp hn }

lemma CanonicalDigestEnvelope.new_eq_ok (e : CanonicalDigestEnvelope) :
    new e.objectId e.payloadDigest e.criticalExtensions e.noncriticalExtensions =
      .ok { e with schemaMinor := Canonical.schemaMinor } := by
  have hc : validateExtensions e.criticalExtensions .critical = .ok () :=
    validateExtensions_eq_ok.mpr e.critical_valid
  have hn : validateExtensions e.noncriticalExtensions .noncritical = .ok () :=
    validateExtensions_eq_ok.mpr e.noncritical_valid
  unfold new
  split
  · next hbad => rw [hc] at hbad; cases hbad
  · split
    · next hbad => rw [hn] at hbad; cases hbad
    · rfl

def encodeExtensions (extensions : List Extension) : List UInt8 :=
  Cbor.writeMap extensions.length ++
    extensions.flatMap fun x => Cbor.writeUnsigned x.extensionId.val ++ Cbor.writeBytes x.value

/-- The eight fields of the map, each key with its value. -/
def encodeFields (e : CanonicalDigestEnvelope) : List UInt8 :=
  (Cbor.writeUnsigned 0 ++ Cbor.writeText schemaName) ++
  ((Cbor.writeUnsigned 1 ++ Cbor.writeUnsigned schemaMajor.val) ++
  ((Cbor.writeUnsigned 2 ++ Cbor.writeUnsigned e.schemaMinor.val) ++
  ((Cbor.writeUnsigned 3 ++ Cbor.writeText payloadDigestAlgorithm) ++
  ((Cbor.writeUnsigned 4 ++ Cbor.writeBytes e.objectId.bytes) ++
  ((Cbor.writeUnsigned 5 ++ Cbor.writeBytes e.payloadDigest.bytes) ++
  ((Cbor.writeUnsigned 6 ++ encodeExtensions e.criticalExtensions) ++
  (Cbor.writeUnsigned 7 ++ encodeExtensions e.noncriticalExtensions)))))))

def encodeInto (e : CanonicalDigestEnvelope) : List UInt8 :=
  Cbor.writeMap fieldCount ++ encodeFields e

def encode (e : CanonicalDigestEnvelope) : Except CanonicalError (List UInt8) :=
  let bytes := encodeInto e
  if maxCanonicalBytes < bytes.length then
    .error (.frameTooLarge bytes.length maxCanonicalBytes)
  else .ok bytes

lemma encode_eq_ok :
    encode e = .ok bytes ↔ bytes.length ≤ maxCanonicalBytes ∧ encodeInto e = bytes := by
  simp only [encode, ite_error_eq_ok, not_lt, Except.ok.injEq]
  constructor
  · rintro ⟨hlen, rfl⟩
    exact ⟨hlen, rfl⟩
  · rintro ⟨hlen, rfl⟩
    exact ⟨hlen, rfl⟩

def decodeError (fault : Cbor.Fault) : CanonicalError := .malformed (.cbor fault)

def readDefiniteMap : Reader CanonicalError ℕ := do
  let length ← mapErr decodeError Cbor.readMap
  ofExcept (orRefuse length .indefiniteLength)

def checkNext (cls : ExtensionClass) (previous : Option (Word 4)) (extensionId : Word 4) :
    Except CanonicalError Unit :=
  forSome previous fun p =>
    if extensionId = p then .error (.duplicateExtension (className cls) extensionId)
    else if extensionId < p then .error (.extensionOrder (className cls) p extensionId)
    else .ok ()

def readExtensions (cls : ExtensionClass) :
    ℕ → Option (Word 4) → Reader CanonicalError (List Extension)
  | 0, _ => pure []
  | n + 1, previous => do
    let extensionId ← mapErr decodeError (Cbor.readUnsigned 4)
    let _ ← ofExcept (checkNext cls previous extensionId)
    let value ← mapErr decodeError Cbor.readBytes
    let extension ← ofExcept (Extension.new extensionId value)
    let rest ← readExtensions cls n (some extensionId)
    pure (extension :: rest)

def decodeExtensions (cls : ExtensionClass) : Reader CanonicalError (List Extension) := do
  let count ← readDefiniteMap
  let _ ← ofExcept
    (refuseIf (maxExtensionsPerClass < count) (.tooManyExtensions (className cls) count))
  readExtensions cls count none

/-- The variables `decode_structural` fills while it reads the fields. -/
structure Slots where
  seen : UInt16
  previousKey : Option (Word 1)
  schemaName : Option String
  (major minor : Option (Word 4))
  digestAlgorithm : Option String
  (objectId payloadDigest : Option (List UInt8))
  (criticalExtensions noncriticalExtensions : Option (List Extension))

namespace Slots

def empty : Slots := ⟨0, none, none, none, none, none, none, none, none, none⟩

def bit (key : Word 1) : UInt16 := 1 <<< UInt16.ofNat key.val

def checkKey (s : Slots) (key : Word 1) : Except CanonicalError Unit := do
  refuseIf (7 < key.val) (.unknownField key)
  refuseIf (s.seen &&& bit key ≠ 0) (.duplicateField key)
  forSome s.previousKey fun previous => refuseIf (key < previous) (.fieldOrder previous key)

def mark (s : Slots) (key : Word 1) : Slots :=
  { s with seen := s.seen ||| bit key, previousKey := some key }

def readValue (s : Slots) (key : Word 1) : Reader CanonicalError Slots :=
  match key.val with
  | 0 => (fun v => { s with schemaName := some v }) <$> mapErr decodeError Cbor.readText
  | 1 => (fun v => { s with major := some v }) <$> mapErr decodeError (Cbor.readUnsigned 4)
  | 2 => (fun v => { s with minor := some v }) <$> mapErr decodeError (Cbor.readUnsigned 4)
  | 3 => (fun v => { s with digestAlgorithm := some v }) <$> mapErr decodeError Cbor.readText
  | 4 => (fun v => { s with objectId := some v }) <$> mapErr decodeError Cbor.readBytes
  | 5 => (fun v => { s with payloadDigest := some v }) <$> mapErr decodeError Cbor.readBytes
  | 6 => (fun v => { s with criticalExtensions := some v }) <$> decodeExtensions .critical
  | 7 => (fun v => { s with noncriticalExtensions := some v }) <$> decodeExtensions .noncritical
  | _ => throw (.unknownField key)

def readField (s : Slots) : Reader CanonicalError Slots := do
  let key ← mapErr decodeError (Cbor.readUnsigned 1)
  let _ ← ofExcept (s.checkKey key)
  (s.mark key).readValue key

def readFields : ℕ → Slots → Reader CanonicalError Slots
  | 0, s => pure s
  | n + 1, s => do
    let s' ← readField s
    readFields n s'

end Slots

def fixedArray (k : ℕ) (value : List UInt8) (error : ℕ → CanonicalError) :
    Except CanonicalError (Word k) :=
  if value.length = k then .ok (Word.ofBytes k value) else .error (error value.length)

/-- The checks of `decode_structural` after the last field. -/
def Slots.finish (s : Slots) : Except CanonicalError CanonicalDigestEnvelope := do
  let name ← orRefuse s.schemaName (.missingField 0)
  refuseIf (name ≠ Canonical.schemaName) (.wrongSchema name)
  let major ← orRefuse s.major (.missingField 1)
  refuseIf (major ≠ schemaMajor) (.unsupportedMajor major)
  let minor ← orRefuse s.minor (.missingField 2)
  let algorithm ← orRefuse s.digestAlgorithm (.missingField 3)
  refuseIf (algorithm ≠ payloadDigestAlgorithm) (.unsupportedDigestAlgorithm algorithm)
  let objectId ← orRefuse s.objectId (.missingField 4)
  let objectId ← fixedArray 16 objectId .invalidObjectIdLength
  let payloadDigest ← orRefuse s.payloadDigest (.missingField 5)
  let payloadDigest ← fixedArray 32 payloadDigest .invalidPayloadDigestLength
  let critical ← orRefuse s.criticalExtensions (.missingField 6)
  let noncritical ← orRefuse s.noncriticalExtensions (.missingField 7)
  let envelope ← CanonicalDigestEnvelope.new objectId payloadDigest critical noncritical
  pure { envelope with schemaMinor := minor }

/-- The fields of the map, up to the end of the loop. -/
def readEnvelope : Reader CanonicalError Slots := do
  let fields ← readDefiniteMap
  let _ ← ofExcept (refuseIf (fields ≠ fieldCount) (.wrongFieldCount fields fieldCount))
  Slots.readFields fields .empty

def decodeStructural (bytes : List UInt8) : Except CanonicalError CanonicalDigestEnvelope := do
  let (s, rest) ← readEnvelope.run bytes
  refuseIf (rest ≠ []) .trailingData
  s.finish

def decode (bytes : List UInt8) (supportedCriticalExtensions : List (Word 4)) :
    Except CanonicalError CanonicalDigestEnvelope := do
  refuseIf (maxCanonicalBytes < bytes.length) (.frameTooLarge bytes.length maxCanonicalBytes)
  let envelope ← decodeStructural bytes
  match envelope.criticalExtensions.find?
      (fun x => x.extensionId ∉ supportedCriticalExtensions) with
  | some x => .error (.unsupportedCriticalExtension x.extensionId)
  | none =>
    let again ← encode envelope
    refuseIf (again ≠ bytes) .nonCanonicalEncoding
    pure envelope

end Nlos.Canonical
