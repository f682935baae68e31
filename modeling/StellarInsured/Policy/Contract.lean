import StellarInsured.Authorization.Library

/-
  StellarInsured.Policy.Contract — `PolicyContract` (contracts/policy/lib.rs).

  The contract keeps the authorization module's role keys, a pause flag, its config
  (the risk pool), the policies by id and the policy counter. `initialize` makes the
  caller the admin and trusts the risk pool; a policy manager (or the admin) issues
  policies of 1 to 365 days; the admin pauses, unpauses, and grants and revokes the
  policy manager role. `validate_address` accepts every address.

  The role wrappers touch only the role keys: `grantManagerRoleKeys` and
  `revokeManagerRoleKeys` are their work on those keys, which the role-table runs of
  `StellarInsured.Authorization.Roles` use.
-/

namespace StellarInsured.PolicyContract

open Authorization

inductive PolicyStatus where
  | active
  | expired
  | cancelled
  | claimed
  deriving DecidableEq, Repr

structure Policy where
  holder : Address
  coverageAmount : Int
  premiumAmount : Int
  startTime : Nat
  endTime : Nat
  status : PolicyStatus
  createdAt : Nat
  deriving DecidableEq, Repr

structure Config where
  riskPool : Address
  deriving DecidableEq, Repr

inductive ContractError where
  | unauthorized
  | paused
  | invalidInput
  | insufficientFunds
  | notFound
  | alreadyExists
  | invalidState
  | overflow
  | notInitialized
  | alreadyInitialized
  | invalidRole
  | roleNotFound
  | notTrustedContract
  deriving DecidableEq, Repr

/-- `From<AuthError>`. -/
def ContractError.ofAuth : AuthError → ContractError
  | .unauthorized => .unauthorized
  | .invalidRole => .invalidRole
  | .roleNotFound => .roleNotFound
  | .notTrustedContract => .notTrustedContract

/-- The contract's persistent storage: the role keys and the `DataKey` entries. -/
structure State where
  auth : AuthStore
  paused : Option Bool
  config : Option Config
  policies : Nat → Option Policy
  policyCounter : Option Nat

def isPaused (s : State) : Bool := s.paused.getD false

/-- `initialize` (a keyword of Lean). -/
def init (host : Host) (admin riskPool : Address) (s : State) :
    Outcome ContractError Unit State :=
  if (getAdmin s.auth).isSome then .ret (.error .alreadyInitialized) s
  else if !host.authorizes admin then .abort
  else
    match registerTrustedContract admin riskPool (initializeAdmin admin s.auth) with
    | .abort => .abort
    | .ret (.error e) a => .ret (.error (.ofAuth e)) { s with auth := a }
    | .ret (.ok ()) a =>
      .ret (.ok ()) { s with
        auth := a
        config := some ⟨riskPool⟩
        policyCounter := some 0
        paused := some false }

def issuePolicy (host : Host) (manager holder : Address) (coverageAmount premiumAmount : Int)
    (durationDays : Nat) (s : State) : Outcome ContractError Nat State :=
  if !host.authorizes manager then .abort
  else
    match requirePolicyManagement s.auth manager with
    | .error e => .ret (.error (.ofAuth e)) s
    | .ok () =>
      if isPaused s then .ret (.error .paused) s
      else if coverageAmount ≤ 0 ∨ premiumAmount ≤ 0 then .ret (.error .invalidInput) s
      else if durationDays = 0 ∨ durationDays > 365 then .ret (.error .invalidInput) s
      else
        match addU 64 (s.policyCounter.getD 0) 1, addU 64 host.timestamp (durationDays * 86400) with
        | some policyId, some endTime =>
          .ret (.ok policyId) { s with
            policyCounter := some policyId
            policies := Function.update s.policies policyId
              (some ⟨holder, coverageAmount, premiumAmount, host.timestamp, endTime, .active,
                host.timestamp⟩) }
        | _, _ => .abort

/-- `get_policy_holder` and its siblings: a field of the stored policy. -/
def getPolicyField {α : Type} (field : Policy → α) (s : State) (policyId : Nat) :
    Except ContractError α :=
  match s.policies policyId with
  | some p => .ok (field p)
  | none => .error .notFound

def getPolicy : State → Nat → Except ContractError Policy := getPolicyField id

def getPolicyHolder : State → Nat → Except ContractError Address := getPolicyField Policy.holder

def getCoverageAmount : State → Nat → Except ContractError Int := getPolicyField Policy.coverageAmount

def getPremiumAmount : State → Nat → Except ContractError Int := getPolicyField Policy.premiumAmount

def getPolicyStatus : State → Nat → Except ContractError PolicyStatus := getPolicyField Policy.status

def getPolicyDates : State → Nat → Except ContractError (Nat × Nat) :=
  getPolicyField fun p => (p.startTime, p.endTime)

def getConfig (s : State) : Except ContractError Config :=
  match s.config with
  | some c => .ok c
  | none => .error .notInitialized

def getRiskPool (s : State) : Except ContractError Address := (getConfig s).map Config.riskPool

def getPolicyCount (s : State) : Nat := s.policyCounter.getD 0

/-- `pause` and `unpause`: the admin sets the flag. -/
def setPausedBy (host : Host) (admin : Address) (paused : Bool) (s : State) :
    Outcome ContractError Unit State :=
  if !host.authorizes admin then .abort
  else
    match requireAdmin s.auth admin with
    | .error e => .ret (.error (.ofAuth e)) s
    | .ok () => .ret (.ok ()) { s with paused := some paused }

def pause (host : Host) (admin : Address) : State → Outcome ContractError Unit State :=
  setPausedBy host admin true

def unpause (host : Host) (admin : Address) : State → Outcome ContractError Unit State :=
  setPausedBy host admin false

/-- `grant_manager_role` on the role keys. -/
def grantManagerRoleKeys (host : Host) (admin manager : Address) (a : AuthStore) :
    Outcome ContractError Unit AuthStore :=
  if !host.authorizes admin then .abort
  else
    match requireAdmin a admin with
    | .error e => .ret (.error (.ofAuth e)) a
    | .ok () =>
      match grantRole admin manager .policyManager a with
      | .ret (.error e) a' => .ret (.error (.ofAuth e)) a'
      | .ret (.ok ()) a' => .ret (.ok ()) a'
      | .abort => .abort

/-- `revoke_manager_role` on the role keys. -/
def revokeManagerRoleKeys (host : Host) (admin manager : Address) (a : AuthStore) :
    Outcome ContractError Unit AuthStore :=
  if !host.authorizes admin then .abort
  else
    match requireAdmin a admin with
    | .error e => .ret (.error (.ofAuth e)) a
    | .ok () =>
      match revokeRole admin manager a with
      | .ret (.error e) a' => .ret (.error (.ofAuth e)) a'
      | .ret (.ok ()) a' => .ret (.ok ()) a'
      | .abort => .abort

def grantManagerRole (host : Host) (admin manager : Address) (s : State) :
    Outcome ContractError Unit State :=
  (grantManagerRoleKeys host admin manager s.auth).mapState fun a => { s with auth := a }

def revokeManagerRole (host : Host) (admin manager : Address) (s : State) :
    Outcome ContractError Unit State :=
  (revokeManagerRoleKeys host admin manager s.auth).mapState fun a => { s with auth := a }

def getUserRole (s : State) (a : Address) : Role := getRole s.auth a

end StellarInsured.PolicyContract
