import Maco.Base.Result
import Maco.Base.Text

/-!
# Run and owner identities

The identifiers that bind a claim to a run: `RunId`, the bounded identifiers of the coordination
records, and the global owner identity made of a run identity and an activation nonce.
-/

namespace Maco.Publication

open Maco.Base

/-- `RunId::new`: the trimmed run id. -/
def runIdNew (value : String) : Except String String := do
  let trimmed := trim value
  refuseIf (trimmed = "") "run id cannot be empty"
  refuseIf (trimmed = "." ∨ trimmed = "..") "run id cannot be '.' or '..'"
  refuseIf (allChars isNameChar trimmed = false)
    "run id may only contain ASCII letters, digits, '.', '_' and '-'"
  pure trimmed

/-- `MAX_ID_BYTES` of the coordination records. -/
def maxIdBytes : ℕ := 96

/-- The characters of a canonical bounded identifier. -/
def isIdChar (c : Char) : Bool :=
  isAsciiLowercase c || isAsciiDigit c || c == '-' || c == '_' || c == '.' || c == ':'

/-- `validate_id`. -/
def validateId (value label : String) : Except String Unit :=
  refuseIf (value = "" ∨ maxIdBytes < byteLength value ∨ value = "." ∨ value = ".." ∨
    allChars isIdChar value = false) (label ++ " is not a canonical bounded identifier")

/-- `MAX_RUN_ID_BYTES` of the coordination journal. -/
def maxRunIdentityBytes : ℕ := 256

/-- `CoordinationOwnerIdentity`: a run identity and the nonce of one activation. -/
structure CoordinationOwnerIdentity where
  runIdentity : String
  activationNonce : String
deriving DecidableEq, Repr

/-- The fields of an owner identity in the order they are compared. -/
def CoordinationOwnerIdentity.sortKey (owner : CoordinationOwnerIdentity) : Lex (String × String) :=
  toLex (owner.runIdentity, owner.activationNonce)

/-- An owner identity is determined by its compared fields. -/
theorem CoordinationOwnerIdentity.sortKey_injective :
    Function.Injective CoordinationOwnerIdentity.sortKey := by
  rintro ⟨run, nonce⟩ ⟨run', nonce'⟩ same
  simpa [sortKey] using same

instance : LinearOrder CoordinationOwnerIdentity :=
  LinearOrder.lift' CoordinationOwnerIdentity.sortKey CoordinationOwnerIdentity.sortKey_injective

/-- `CoordinationOwnerIdentity::validate`. -/
def CoordinationOwnerIdentity.validate (owner : CoordinationOwnerIdentity) : Except String Unit :=
  validateId owner.activationNonce "owner activation nonce"

/-- `CoordinationOwnerIdentity::new`. -/
def CoordinationOwnerIdentity.new (runIdentity activationNonce : String) :
    Except String CoordinationOwnerIdentity := do
  refuseIf (maxRunIdentityBytes < byteLength runIdentity)
    "coordination run identity exceeds its byte limit"
  let _ ← context (runIdNew runIdentity) "coordination run identity is invalid"
  let owner : CoordinationOwnerIdentity := ⟨runIdentity, activationNonce⟩
  owner.validate
  pure owner

end Maco.Publication
