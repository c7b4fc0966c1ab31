import OpenIdConnect.Json.Reader

/-!
# Faults of claims requests

Why a claims request is refused.  Two faults only say where their cause lies; `root` is the
cause itself.
-/

namespace OpenIdConnect

namespace Claims

/-- What is wrong with a member of the request for one claim. -/
inductive MemberDefect where
  | essentialNotBoolean
  | valuesNotArray
  | valuesBesideValue
  | purposeNotString
deriving DecidableEq

namespace MemberDefect

/-- The member that the defect is found at. -/
def member : MemberDefect → String
  | essentialNotBoolean => "essential"
  | valuesNotArray | valuesBesideValue => "values"
  | purposeNotString => "purpose"

/-- The wording of the defect. -/
def reason : MemberDefect → String
  | essentialNotBoolean => "must be a boolean"
  | valuesNotArray => "must be a JSON array"
  | valuesBesideValue => "must not be combined with \"value\""
  | purposeNotString => "must be a string"

end MemberDefect

/-- Why a claims request is refused. -/
inductive Fault where
  | inClaims (cause : Fault)
  | inVerifiedClaims (cause : Fault)
  | nothingToVerify
  | emptyVerifiedClaims
  | missingVerification
  | notAnObject (member : String)
  | unnamedClaim
  | invalidMember (claim : String) (defect : MemberDefect)
  | reservedMember (name : String)
  | purposeLength (found : Nat)
  | notJson (defect : Json.Misread)
deriving DecidableEq

/-- The least number of characters of a purpose. -/
def minPurposeLength : Nat := 3

/-- The greatest number of characters of a purpose. -/
def maxPurposeLength : Nat := 300

namespace Fault

/-- The cause, without the faults around it. -/
def root : Fault → Fault
  | inClaims cause => cause.root
  | inVerifiedClaims cause => cause.root
  | cause => cause

/-- The wording of a fault, its cause included. -/
def message : Fault → String
  | inClaims cause => "Invalid claims object: " ++ cause.message
  | inVerifiedClaims cause => "Invalid verified claims request: " ++ cause.message
  | nothingToVerify => "Empty verification claims object"
  | emptyVerifiedClaims => "Empty verified claims object"
  | missingVerification => "Missing verification object"
  | notAnObject member => "The " ++ member ++ " member must be a JSON object"
  | unnamedClaim => "Empty claim name"
  | invalidMember claim defect =>
    "Invalid \"" ++ defect.member ++ "\" member of claim " ++ claim ++ ": " ++ defect.reason
  | reservedMember name =>
    "\"" ++ name ++ "\" is a reserved member and cannot be set as additional information"
  | purposeLength found =>
    "The purpose must be between " ++ toString minPurposeLength ++ " and "
      ++ toString maxPurposeLength ++ " characters long, found " ++ toString found
  | notJson defect => "Invalid JSON: " ++ defect.message

end Fault

end Claims

end OpenIdConnect
