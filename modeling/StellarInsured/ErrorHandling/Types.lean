import StellarInsured.Host

/-
  StellarInsured.ErrorHandling.Types — the error codes shared by the insurance contracts
  (error_handling/src/codes.rs) and the records of the on-chain error log
  (error_handling/src/types.rs).
-/

namespace StellarInsured.ErrorHandling

/-- `InsuranceError`; its `u32` discriminants are `code`. -/
inductive InsuranceError where
  | unauthorized
  | insufficientPermissions
  | authExpired
  | alreadyInitialized
  | policyNotFound
  | policyInvalidState
  | policyExpired
  | policyAlreadyCancelled
  | policyCoverageOutOfRange
  | claimNotFound
  | claimExceedsLimit
  | claimDuplicate
  | claimDeadlineExceeded
  | claimInvalidState
  | claimMissingDocuments
  | paymentInvalidAmount
  | paymentUnsupportedAsset
  | premiumPaymentOverdue
  | refundExceedsBalance
  | kycNotVerified
  | kycExpired
  | kycDocumentRejected
  | complianceViolation
  | recordNotFound
  | invalidData
  | storageExpired
  | oracleDataMissing
  | oracleDataStale
  | externalCallFailed
  | contractPaused
  | notImplemented
  | arithmeticOverflow
  | limitExceeded
  deriving DecidableEq, Repr

namespace InsuranceError

def code : InsuranceError → Nat
  | unauthorized => 1
  | insufficientPermissions => 2
  | authExpired => 3
  | alreadyInitialized => 4
  | policyNotFound => 100
  | policyInvalidState => 101
  | policyExpired => 102
  | policyAlreadyCancelled => 103
  | policyCoverageOutOfRange => 104
  | claimNotFound => 200
  | claimExceedsLimit => 201
  | claimDuplicate => 202
  | claimDeadlineExceeded => 203
  | claimInvalidState => 204
  | claimMissingDocuments => 205
  | paymentInvalidAmount => 300
  | paymentUnsupportedAsset => 301
  | premiumPaymentOverdue => 302
  | refundExceedsBalance => 303
  | kycNotVerified => 400
  | kycExpired => 401
  | kycDocumentRejected => 402
  | complianceViolation => 403
  | recordNotFound => 500
  | invalidData => 501
  | storageExpired => 502
  | oracleDataMissing => 600
  | oracleDataStale => 601
  | externalCallFailed => 602
  | contractPaused => 700
  | notImplemented => 701
  | arithmeticOverflow => 702
  | limitExceeded => 703

def message : InsuranceError → String
  | unauthorized => "Caller is not authorized on this contract"
  | insufficientPermissions => "Caller\x27s role does not allow this action"
  | authExpired => "Authorization has expired; please re-authenticate"
  | alreadyInitialized => "Contract has already been initialized"
  | policyNotFound => "No policy found with the given ID"
  | policyInvalidState => "Policy is in a state that does not permit this action"
  | policyExpired => "Policy coverage period has ended"
  | policyAlreadyCancelled => "Policy has already been cancelled"
  | policyCoverageOutOfRange => "Coverage amount is outside the permitted range"
  | claimNotFound => "No claim found with the given ID"
  | claimExceedsLimit => "Claim amount exceeds the policy coverage limit"
  | claimDuplicate => "A claim for this event already exists"
  | claimDeadlineExceeded => "Claim was submitted past the filing deadline"
  | claimInvalidState => "Claim is in a state that does not permit this action"
  | claimMissingDocuments => "Required documentation for the claim is missing"
  | paymentInvalidAmount => "Payment amount must be greater than zero"
  | paymentUnsupportedAsset => "This asset type is not accepted for payment"
  | premiumPaymentOverdue => "Premium payment is past the due date"
  | refundExceedsBalance => "Refund amount exceeds the available balance"
  | kycNotVerified => "Policy holder has not completed identity verification"
  | kycExpired => "Identity verification has expired and must be renewed"
  | kycDocumentRejected => "Submitted KYC documents were not accepted"
  | complianceViolation => "Operation is blocked by a regulatory restriction"
  | recordNotFound => "The requested record does not exist in storage"
  | invalidData => "Provided data is malformed or out of range"
  | storageExpired => "Storage entry has expired; re-submit the data"
  | oracleDataMissing => "Oracle has not published data for this feed"
  | oracleDataStale => "Oracle data is too old to be used for this operation"
  | externalCallFailed => "A required external contract call failed"
  | contractPaused => "Contract is paused; try again later"
  | notImplemented => "This feature is not yet available"
  | arithmeticOverflow => "Calculation resulted in an overflow"
  | limitExceeded => "Value exceeds the maximum allowed limit"

def hint : InsuranceError → String
  | unauthorized => "Request access from the contract admin"
  | insufficientPermissions => "Check which role is required and request it from admin"
  | authExpired => "Re-authenticate and retry the operation"
  | alreadyInitialized => "No action needed; contract is ready"
  | policyNotFound => "Verify the policy ID and try again"
  | policyInvalidState => "Check the policy lifecycle state before retrying"
  | policyExpired => "Renew the policy before attempting this action"
  | policyAlreadyCancelled => "Create a new policy if coverage is still required"
  | policyCoverageOutOfRange => "Adjust the coverage amount to within allowed limits"
  | claimNotFound => "Verify the claim ID and try again"
  | claimExceedsLimit => "Reduce the claim amount to within coverage limits"
  | claimDuplicate => "Retrieve the existing claim instead of submitting a new one"
  | claimDeadlineExceeded => "Contact support for late-filing assistance"
  | claimInvalidState => "Check the claim status before retrying"
  | claimMissingDocuments => "Upload the required documents and resubmit"
  | paymentInvalidAmount => "Provide a positive payment amount"
  | paymentUnsupportedAsset => "Use an accepted asset (e.g., USDC)"
  | premiumPaymentOverdue => "Pay the overdue premium to reinstate the policy"
  | refundExceedsBalance => "Request a refund of at most the paid balance"
  | kycNotVerified => "Complete KYC verification to proceed"
  | kycExpired => "Renew identity verification to continue"
  | kycDocumentRejected => "Resubmit corrected documents for review"
  | complianceViolation => "Contact compliance team to resolve the restriction"
  | recordNotFound => "Confirm the ID is correct and retry"
  | invalidData => "Validate all field formats and ranges before retrying"
  | storageExpired => "Re-submit the data to refresh the storage entry"
  | oracleDataMissing => "Wait for the oracle to publish and retry"
  | oracleDataStale => "Wait for a fresh oracle update and retry"
  | externalCallFailed => "Check the external contract status and retry"
  | contractPaused => "Monitor for a resume announcement and retry later"
  | notImplemented => "Use an alternative method or wait for the next release"
  | arithmeticOverflow => "Reduce the input values and retry"
  | limitExceeded => "Reduce the value to within the allowed limit"

def isRetryable : InsuranceError → Bool
  | oracleDataMissing | oracleDataStale | externalCallFailed | contractPaused => true
  | _ => false

def requiresManualAction : InsuranceError → Bool
  | kycNotVerified | kycExpired | kycDocumentRejected | complianceViolation
  | claimMissingDocuments | claimDeadlineExceeded => true
  | _ => false

end InsuranceError

inductive ErrorSeverity where
  | info
  | warning
  | error
  | critical
  deriving DecidableEq, Repr

inductive RecoveryAction where
  | none
  | autoRetried
  | stateRolledBack
  | contractPaused
  | fundsEscrowed
  | manualInterventionRequired
  deriving DecidableEq, Repr

inductive RecoveryStatus where
  | pending
  | resolved
  | failed
  | escalatedToOperator
  deriving DecidableEq, Repr

/-- One record of the on-chain error log. -/
structure ErrorEntry where
  entryId : Nat
  errorCode : Nat
  severity : ErrorSeverity
  sourceContract : Address
  caller : Address
  ledger : Nat
  timestamp : Nat
  message : String
  hint : String
  recoveryAction : RecoveryAction
  recoveryStatus : RecoveryStatus
  subjectId : Option Nat
  deriving DecidableEq, Repr

end StellarInsured.ErrorHandling
