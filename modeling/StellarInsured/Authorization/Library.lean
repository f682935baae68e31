import StellarInsured.Host

/-
  StellarInsured.Authorization.Library — the role-based access control module
  (contracts/authorization/src/lib.rs) that the policy and cross-chain contracts call.

  A contract's storage holds a role per address (`UserRole`; an absent one reads as
  `User`), the contract admin (`ContractAdmin`) and the trusted contracts
  (`TrustedContract`). `grant_role` and `revoke_role` need the caller to hold `Admin`,
  and `revoke_role` refuses the caller as target. `delegate_role` needs the caller's
  signature and a role that may hand out the target role (`delegatePermission`);
  `revoke_delegated_role` needs the signature and `Admin`. None of them reads the role
  the target holds.

  Proved: what each call writes to the role table and what it required of the caller
  first (`grantRole_eq`, `revokeRole_eq`, `delegateRole_eq`, `revokeDelegatedRole_eq`);
  `delegate_role`'s check is the one `can_delegate_role` answers
  (`delegatePermission_eq_ok`). The four `require_*` permission checks are one check
  over the role's permission (`requirePermission`).
-/

namespace StellarInsured.Authorization

inductive Role where
  | admin
  | governance
  | riskPoolManager
  | policyManager
  | claimProcessor
  | auditor
  | user
  deriving DecidableEq, Repr

namespace Role

def canAdmin : Role → Bool
  | admin => true
  | _ => false

def canManagePolicies : Role → Bool
  | admin | policyManager => true
  | _ => false

def canProcessClaims : Role → Bool
  | admin | claimProcessor => true
  | _ => false

def canManageRiskPool : Role → Bool
  | admin | riskPoolManager => true
  | _ => false

def canGovern : Role → Bool
  | admin | governance => true
  | _ => false

/-- Claim processors cannot submit their own claims. -/
def canSubmitClaim : Role → Bool
  | claimProcessor => false
  | _ => true

def canAudit : Role → Bool
  | admin | auditor => true
  | _ => false

def canRead : Role → Bool
  | admin | auditor | user => true
  | _ => false

def hasElevatedPermissions : Role → Bool
  | admin | governance => true
  | _ => false

end Role

inductive AuthError where
  | unauthorized
  | invalidRole
  | roleNotFound
  | notTrustedContract
  deriving DecidableEq, Repr

/-- The `RoleKey` entries of a contract's persistent storage. -/
structure AuthStore where
  userRole : Address → Option Role
  contractAdmin : Option Address
  trustedContract : Address → Option Bool

def AuthStore.empty : AuthStore := ⟨fun _ => none, none, fun _ => none⟩

/-- `set(&RoleKey::UserRole(a), &r)`. -/
def AuthStore.setRole (s : AuthStore) (a : Address) (r : Role) : AuthStore :=
  { s with userRole := Function.update s.userRole a (some r) }

@[simp] theorem AuthStore.setRole_userRole (s : AuthStore) (a : Address) (r : Role) :
    (s.setRole a r).userRole = Function.update s.userRole a (some r) := rfl

def initializeAdmin (admin : Address) (s : AuthStore) : AuthStore :=
  { s with contractAdmin := some admin }.setRole admin .admin

def getAdmin (s : AuthStore) : Option Address := s.contractAdmin

def getRole (s : AuthStore) (a : Address) : Role := (s.userRole a).getD .user

def hasRole (s : AuthStore) (a : Address) (requiredRole : Role) : Bool := getRole s a = requiredRole

def requireRole (s : AuthStore) (a : Address) (requiredRole : Role) : Except AuthError Unit :=
  if getRole s a = requiredRole then .ok () else .error .unauthorized

def requireAdmin (s : AuthStore) (a : Address) : Except AuthError Unit := requireRole s a .admin

def hasAnyRole (s : AuthStore) (a : Address) (roles : List Role) : Bool := roles.contains (getRole s a)

def requireAnyRole (s : AuthStore) (a : Address) (roles : List Role) : Except AuthError Unit :=
  if hasAnyRole s a roles then .ok () else .error .unauthorized

def grantRole (caller target : Address) (role : Role) (s : AuthStore) :
    Outcome AuthError Unit AuthStore :=
  match requireRole s caller .admin with
  | .error e => .ret (.error e) s
  | .ok () => .ret (.ok ()) (s.setRole target role)

def revokeRole (caller target : Address) (s : AuthStore) : Outcome AuthError Unit AuthStore :=
  match requireRole s caller .admin with
  | .error e => .ret (.error e) s
  | .ok () =>
    if caller = target then .ret (.error .unauthorized) s
    else .ret (.ok ()) (s.setRole target .user)

/-- The check of `delegate_role`'s `match role`. -/
def delegatePermission (s : AuthStore) (caller : Address) : Role → Except AuthError Unit
  | .admin => requireAdmin s caller
  | .policyManager =>
    match getRole s caller with
    | .admin | .policyManager => .ok ()
    | _ => .error .unauthorized
  | .claimProcessor | .riskPoolManager | .auditor =>
    match getRole s caller with
    | .admin | .governance => .ok ()
    | _ => .error .unauthorized
  | .governance => requireAdmin s caller
  | .user => .ok ()

def delegateRole (host : Host) (caller target : Address) (role : Role) (s : AuthStore) :
    Outcome AuthError Unit AuthStore :=
  if !host.authorizes caller then .abort
  else
    match delegatePermission s caller role with
    | .error e => .ret (.error e) s
    | .ok () => .ret (.ok ()) (s.setRole target role)

def canDelegateRole (s : AuthStore) (a : Address) : Role → Bool
  | .admin => getRole s a = .admin
  | .policyManager => getRole s a = .admin || getRole s a = .policyManager
  | .claimProcessor | .riskPoolManager | .auditor =>
    getRole s a = .admin || getRole s a = .governance
  | .governance => getRole s a = .admin
  | .user => true

def revokeDelegatedRole (host : Host) (caller target : Address) (s : AuthStore) :
    Outcome AuthError Unit AuthStore :=
  if !host.authorizes caller then .abort
  else if getRole s caller ≠ .admin then .ret (.error .unauthorized) s
  else .ret (.ok ()) (s.setRole target .user)

/-- `require_policy_management` and its three siblings: the caller's role must have
    the permission `check`. -/
def requirePermission (check : Role → Bool) (s : AuthStore) (a : Address) : Except AuthError Unit :=
  if check (getRole s a) then .ok () else .error .unauthorized

def requirePolicyManagement : AuthStore → Address → Except AuthError Unit :=
  requirePermission Role.canManagePolicies

def requireClaimProcessing : AuthStore → Address → Except AuthError Unit :=
  requirePermission Role.canProcessClaims

def requireRiskPoolManagement : AuthStore → Address → Except AuthError Unit :=
  requirePermission Role.canManageRiskPool

def requireGovernancePermission : AuthStore → Address → Except AuthError Unit :=
  requirePermission Role.canGovern

def registerTrustedContract (caller contractAddress : Address) (s : AuthStore) :
    Outcome AuthError Unit AuthStore :=
  match requireAdmin s caller with
  | .error e => .ret (.error e) s
  | .ok () => .ret (.ok ())
    { s with trustedContract := Function.update s.trustedContract contractAddress (some true) }

def unregisterTrustedContract (caller contractAddress : Address) (s : AuthStore) :
    Outcome AuthError Unit AuthStore :=
  match requireAdmin s caller with
  | .error e => .ret (.error e) s
  | .ok () => .ret (.ok ())
    { s with trustedContract := Function.update s.trustedContract contractAddress none }

def isTrustedContract (s : AuthStore) (contractAddress : Address) : Bool :=
  (s.trustedContract contractAddress).getD false

def requireTrustedContract (s : AuthStore) (contractAddress : Address) : Except AuthError Unit :=
  if isTrustedContract s contractAddress then .ok () else .error .notTrustedContract

/-- `none`: the caller's `require_auth` aborted the invocation. -/
def verifyAndRequireRole (host : Host) (caller : Address) (requiredRole : Role) (s : AuthStore) :
    Option (Except AuthError Unit) :=
  if host.authorizes caller then some (requireRole s caller requiredRole) else none

def verifyAndCheckPermission (host : Host) (caller : Address) (permissionCheck : Role → Bool)
    (s : AuthStore) : Option (Except AuthError Unit) :=
  if host.authorizes caller then some (requirePermission permissionCheck s caller) else none

/-! ## What each call writes to the role table -/

theorem requireRole_eq_ok (s : AuthStore) (a : Address) (r : Role) :
    requireRole s a r = .ok () ↔ getRole s a = r := by
  unfold requireRole; split <;> simp_all

theorem grantRole_eq (caller target : Address) (role : Role) (s : AuthStore) :
    grantRole caller target role s =
      if getRole s caller = .admin then .ret (.ok ()) (s.setRole target role)
      else .ret (.error .unauthorized) s := by
  unfold grantRole requireRole; split_ifs <;> rfl

theorem revokeRole_eq (caller target : Address) (s : AuthStore) :
    revokeRole caller target s =
      if getRole s caller = .admin ∧ caller ≠ target then .ret (.ok ()) (s.setRole target .user)
      else .ret (.error .unauthorized) s := by
  unfold revokeRole requireRole; by_cases h : getRole s caller = .admin <;> simp [h]

/-- `delegate_role`'s check is what `can_delegate_role` answers, and it fails with
    `Unauthorized`. -/
theorem delegatePermission_eq (s : AuthStore) (caller : Address) (role : Role) :
    delegatePermission s caller role =
      if canDelegateRole s caller role then .ok () else .error .unauthorized := by
  cases role <;> cases h : getRole s caller <;>
    simp [delegatePermission, canDelegateRole, requireAdmin, requireRole, h]

theorem delegatePermission_eq_ok (s : AuthStore) (caller : Address) (role : Role) :
    delegatePermission s caller role = .ok () ↔ canDelegateRole s caller role = true := by
  rw [delegatePermission_eq]
  split <;> simp [*]

theorem delegateRole_eq (host : Host) (caller target : Address) (role : Role) (s : AuthStore) :
    delegateRole host caller target role s =
      if host.authorizes caller then
        if canDelegateRole s caller role then .ret (.ok ()) (s.setRole target role)
        else .ret (.error .unauthorized) s
      else .abort := by
  unfold delegateRole
  rw [delegatePermission_eq]
  cases host.authorizes caller <;> cases canDelegateRole s caller role <;> rfl

theorem revokeDelegatedRole_eq (host : Host) (caller target : Address) (s : AuthStore) :
    revokeDelegatedRole host caller target s =
      if host.authorizes caller then
        if getRole s caller = .admin then .ret (.ok ()) (s.setRole target .user)
        else .ret (.error .unauthorized) s
      else .abort := by
  unfold revokeDelegatedRole
  by_cases ha : host.authorizes caller <;> by_cases h : getRole s caller = .admin <;> simp [ha, h]

theorem registerTrustedContract_userRole (caller c : Address) (s : AuthStore) :
    ((registerTrustedContract caller c s).after s).userRole = s.userRole := by
  unfold registerTrustedContract; split <;> rfl

theorem unregisterTrustedContract_userRole (caller c : Address) (s : AuthStore) :
    ((unregisterTrustedContract caller c s).after s).userRole = s.userRole := by
  unfold unregisterTrustedContract; split <;> rfl

end StellarInsured.Authorization
