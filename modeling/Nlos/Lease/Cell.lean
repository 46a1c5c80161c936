import Nlos.Lib.Calls
import Nlos.Lib.ByteReader

/-!
# The Cell authority

The authority of a Cell holds the current epoch and fencing token. Every lease operation presents
a fence, which is accepted only if it is exactly the current one.
-/

namespace Nlos.Lease

open Lib

abbrev CellIdentity := Word 16
abbrev ReceiptId := Word 16

structure CellFence where
  identity : CellIdentity
  (nodeBootGeneration epoch fencingToken : ℕ)
deriving DecidableEq

structure CellAuthority where
  identity : CellIdentity
  (nodeBootGeneration epoch fencingToken : ℕ)
deriving DecidableEq

inductive CellAdmitError where
  | staleEpoch (presented current : ℕ)
  | epochMismatch (presented current : ℕ)
  | bootGenerationMismatch (presented current : ℕ)
  | identityMismatch (presented current : CellIdentity)
  | fencingTokenMismatch (presented current : ℕ)
deriving DecidableEq

inductive CellError where
  | generationExhausted
deriving DecidableEq

namespace CellAuthority

variable (authority : CellAuthority)

def fence : CellFence where
  identity := authority.identity
  nodeBootGeneration := authority.nodeBootGeneration
  epoch := authority.epoch
  fencingToken := authority.fencingToken

def admitFence (presented : CellFence) : Call CellAdmitError Unit := do
  refuse (presented.identity ≠ authority.identity)
    (.identityMismatch presented.identity authority.identity)
  refuse (presented.nodeBootGeneration ≠ authority.nodeBootGeneration)
    (.bootGenerationMismatch presented.nodeBootGeneration authority.nodeBootGeneration)
  refuse (presented.epoch < authority.epoch) (.staleEpoch presented.epoch authority.epoch)
  refuse (presented.epoch ≠ authority.epoch) (.epochMismatch presented.epoch authority.epoch)
  refuse (presented.fencingToken ≠ authority.fencingToken)
    (.fencingTokenMismatch presented.fencingToken authority.fencingToken)

def advanceEpoch : Call CellError CellAuthority := do
  let epoch ← expect (next64 authority.epoch) .generationExhausted
  let fencingToken ← expect (next64 authority.fencingToken) .generationExhausted
  pure { authority with epoch := epoch, fencingToken := fencingToken }

variable {authority}

lemma admitFence_eq_ok :
    authority.admitFence presented = .ok u ↔ presented = authority.fence := by
  simp only [admitFence, bind_eq_ok, refuse_eq_ok, not_not, Nat.not_lt]
  constructor
  · rintro ⟨-, hidentity, -, hboot, -, -, -, hepoch, htoken⟩
    cases presented
    simp_all [fence]
  · rintro rfl
    exact ⟨(), rfl, (), rfl, (), le_rfl, (), rfl, rfl⟩

lemma admitFence_ne_overflow : authority.admitFence presented ≠ .error .overflow := by
  simp [admitFence, bind_eq_overflow, refuse_ne_overflow]

end CellAuthority

end Nlos.Lease
