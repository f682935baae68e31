import StellarInsured.Policy.Contract
import StellarInsured.CrossChain.Contract

/-
  StellarInsured.Authorization.Roles — one contract's role table over whole runs: the
  authorization module's calls and the contracts' role wrappers
  (`CrossChainContract::grant_role`, `PolicyContract::grant_manager_role` and
  `revoke_manager_role`) in any order, from `initialize_admin(a)` on empty storage.

  Every call writes at most one role, to its target (`apply_userRole`). Proved:
  - `role_grant_needs_permission`: a call after which an address holds a role other
    than `User` that it did not hold before was made by an `Admin`, by `Governance` for
    the claim processor, risk pool manager and auditor roles, or by a `PolicyManager`
    for the policy manager role; from every state, reachable or not.
  - `roles_stay_within`: over every run of these calls, in any order, the roles held stay
    inside any set of roles that holds `User` and is closed under handing out
    (`GrantClosed`). So once no address holds `Admin`, none ever does again, and
    `Governance` never appears where no `Admin` is left.
  As built, `delegate_role` never reads the role its target holds, and
  `revoke_delegated_role` lacks `revoke_role`'s self-revocation safeguard:
  - `user_delegation_revokes_admin`: any address hands `User` to the admin, which
    takes the admin's role away;
  - `admin_locked_out`: after `revoke_delegated_role(a, a)` no address holds `Admin`.
-/

namespace StellarInsured.Authorization

inductive RoleCall where
  | grantRole (caller target : Address) (role : Role)
  | revokeRole (caller target : Address)
  | delegateRole (caller target : Address) (role : Role)
  | revokeDelegatedRole (caller target : Address)
  | registerTrustedContract (caller contractAddress : Address)
  | unregisterTrustedContract (caller contractAddress : Address)
  | crossChainGrantRole (admin account : Address) (roleId : Nat)
  | grantManagerRole (admin manager : Address)
  | revokeManagerRole (admin manager : Address)
  deriving DecidableEq, Repr

namespace RoleCall

def caller : RoleCall → Address
  | grantRole c _ _ | revokeRole c _ | delegateRole c _ _ | revokeDelegatedRole c _
  | registerTrustedContract c _ | unregisterTrustedContract c _ | crossChainGrantRole c _ _
  | grantManagerRole c _ | revokeManagerRole c _ => c

/-- The role keys a call leaves, run from `s`. -/
def apply (host : Host) : RoleCall → AuthStore → AuthStore
  | grantRole c t r, s => (Authorization.grantRole c t r s).after s
  | revokeRole c t, s => (Authorization.revokeRole c t s).after s
  | delegateRole c t r, s => (Authorization.delegateRole host c t r s).after s
  | revokeDelegatedRole c t, s => (Authorization.revokeDelegatedRole host c t s).after s
  | registerTrustedContract c a, s => (Authorization.registerTrustedContract c a s).after s
  | unregisterTrustedContract c a, s => (Authorization.unregisterTrustedContract c a s).after s
  | crossChainGrantRole c a r, s => (CrossChain.grantRoleKeys host c a r s).after s
  | grantManagerRole c m, s => (PolicyContract.grantManagerRoleKeys host c m s).after s
  | revokeManagerRole c m, s => (PolicyContract.revokeManagerRoleKeys host c m s).after s

end RoleCall

/-- The role tables reachable after `initialize_admin(a)`. -/
inductive RoleReach : AuthStore → Prop
  | init (a : Address) : RoleReach (initializeAdmin a AuthStore.empty)
  | step {s : AuthStore} (host : Host) (c : RoleCall) : RoleReach s → RoleReach (c.apply host s)

/-- A holder of `holder` may hand out `r`: `Admin` anything, `Governance` the claim
    processor, risk pool manager and auditor roles, `PolicyManager` its own. -/
def MayGrant (holder r : Role) : Prop :=
  holder = .admin ∨
    (holder = .governance ∧ (r = .claimProcessor ∨ r = .riskPoolManager ∨ r = .auditor)) ∨
    (holder = .policyManager ∧ r = .policyManager)

theorem mayGrant_of_canDelegateRole {s : AuthStore} {a : Address} {r : Role}
    (h : canDelegateRole s a r = true) : r = .user ∨ MayGrant (getRole s a) r := by
  cases r <;> cases hr : getRole s a <;> simp_all [canDelegateRole, MayGrant]

/-- What a call may do to the role table: nothing, or give its target one role, which
    is `User` or one the caller's role may hand out. -/
def WritesPermitted (s : AuthStore) (caller : Address) (s' : AuthStore) : Prop :=
  s'.userRole = s.userRole ∨
    ∃ t r, s'.userRole = Function.update s.userRole t (some r) ∧
      (r = .user ∨ MayGrant (getRole s caller) r)

theorem writesPermitted_self (s : AuthStore) (caller : Address) : WritesPermitted s caller s :=
  .inl rfl

theorem writesPermitted_setRole (s : AuthStore) {caller : Address} (t : Address) {r : Role}
    (h : r = .user ∨ MayGrant (getRole s caller) r) : WritesPermitted s caller (s.setRole t r) :=
  .inr ⟨t, r, rfl, h⟩

theorem writesPermitted_admin {s : AuthStore} {caller : Address} (h : getRole s caller = .admin)
    (t : Address) (r : Role) : WritesPermitted s caller (s.setRole t r) :=
  writesPermitted_setRole s t (.inr (.inl h))

theorem apply_userRole (host : Host) (c : RoleCall) (s : AuthStore) :
    WritesPermitted s c.caller (c.apply host s) := by
  cases c with
  | grantRole c t r =>
    simp only [RoleCall.apply, RoleCall.caller, grantRole_eq]
    split_ifs with h
    · exact writesPermitted_admin h t r
    · exact writesPermitted_self s c
  | revokeRole c t =>
    simp only [RoleCall.apply, RoleCall.caller, revokeRole_eq]
    split_ifs
    · exact writesPermitted_setRole s t (.inl rfl)
    · exact writesPermitted_self s c
  | delegateRole c t r =>
    simp only [RoleCall.apply, RoleCall.caller, delegateRole_eq]
    split_ifs with _ h
    · exact writesPermitted_setRole s t (mayGrant_of_canDelegateRole h)
    · exact writesPermitted_self s c
    · exact writesPermitted_self s c
  | revokeDelegatedRole c t =>
    simp only [RoleCall.apply, RoleCall.caller, revokeDelegatedRole_eq]
    split_ifs
    · exact writesPermitted_setRole s t (.inl rfl)
    · exact writesPermitted_self s c
    · exact writesPermitted_self s c
  | registerTrustedContract c a => exact .inl (registerTrustedContract_userRole c a s)
  | unregisterTrustedContract c a => exact .inl (unregisterTrustedContract_userRole c a s)
  | crossChainGrantRole c a r =>
    simp only [RoleCall.apply, RoleCall.caller, CrossChain.grantRoleKeys]
    split
    · exact writesPermitted_self s c
    · split
      · exact writesPermitted_self s c
      · rename_i h
        have h := (requireRole_eq_ok s c .admin).1 h
        split
        · exact writesPermitted_self s c
        · rw [grantRole_eq, if_pos h]
          exact writesPermitted_admin h a _
  | grantManagerRole c m =>
    simp only [RoleCall.apply, RoleCall.caller, PolicyContract.grantManagerRoleKeys]
    split
    · exact writesPermitted_self s c
    · split
      · exact writesPermitted_self s c
      · rename_i h
        have h := (requireRole_eq_ok s c .admin).1 h
        rw [grantRole_eq, if_pos h]
        exact writesPermitted_admin h m _
  | revokeManagerRole c m =>
    simp only [RoleCall.apply, RoleCall.caller, PolicyContract.revokeManagerRoleKeys]
    split
    · exact writesPermitted_self s c
    · split
      · exact writesPermitted_self s c
      · rw [revokeRole_eq]
        split_ifs
        · exact writesPermitted_setRole s m (.inl rfl)
        · exact writesPermitted_self s c

/-- No privilege escalation: whoever a call leaves holding a role other than `User`
    that it did not hold, the caller's role could hand that role out. -/
theorem role_grant_needs_permission (host : Host) (c : RoleCall) (s : AuthStore) {x : Address}
    {r : Role} (hr : r ≠ .user) (hset : (c.apply host s).userRole x = some r)
    (hnew : s.userRole x ≠ some r) : MayGrant (getRole s c.caller) r := by
  rcases apply_userRole host c s with h | ⟨t, r', h, hp⟩
  · rw [h] at hset; exact absurd hset hnew
  · rw [h] at hset
    by_cases hx : x = t
    · subst hx
      simp only [Function.update_same, Option.some.injEq] at hset
      subst hset
      exact hp.resolve_left hr
    · rw [Function.update_noteq hx] at hset
      exact absurd hset hnew

theorem admin_grants_auditor :
    let s := initializeAdmin ⟨0⟩ AuthStore.empty
    let c := RoleCall.grantRole ⟨0⟩ ⟨1⟩ .auditor
    ((.auditor : Role) ≠ .user ∧ (c.apply ⟨0, fun _ => true⟩ s).userRole ⟨1⟩ = some .auditor ∧
      s.userRole ⟨1⟩ ≠ some .auditor) ∧ MayGrant (getRole s c.caller) .auditor :=
  ⟨⟨by decide, by decide, by decide⟩,
    @role_grant_needs_permission ⟨0, fun _ => true⟩ _ _ ⟨1⟩ _ (by decide) (by decide) (by decide)⟩

/-! ## The roles held over every run -/

/-- The role table a list of calls leaves, run in order from `s`. -/
def RoleCall.run : AuthStore → List (Host × RoleCall) → AuthStore
  | s, [] => s
  | s, (host, c) :: cs => RoleCall.run (c.apply host s) cs

/-- `R` holds `User`, and every role a holder of a role of `R` may hand out. -/
def GrantClosed (R : Role → Prop) : Prop :=
  R .user ∧ ∀ holder r, R holder → MayGrant holder r → R r

/-- Every address holds a role of `R`; an address with no `UserRole` key holds `User`. -/
def RolesWithin (R : Role → Prop) (s : AuthStore) : Prop := ∀ a, R (getRole s a)

theorem RolesWithin.apply {R : Role → Prop} (hR : GrantClosed R) {s : AuthStore}
    (hs : RolesWithin R s) (host : Host) (c : RoleCall) : RolesWithin R (c.apply host s) := by
  intro a
  rcases apply_userRole host c s with h | ⟨t, r, h, hp⟩
  · simpa only [getRole, h] using hs a
  · by_cases ha : a = t
    · subst ha
      simp only [getRole, h, Function.update_same, Option.getD_some]
      exact hp.elim (fun hr => hr ▸ hR.1) (hR.2 _ _ (hs _))
    · simpa only [getRole, h, Function.update_noteq ha] using hs a

/-- No run leaves a set of roles closed under handing out. -/
theorem roles_stay_within {R : Role → Prop} (hR : GrantClosed R) {s : AuthStore}
    (hs : RolesWithin R s) (cs : List (Host × RoleCall)) : RolesWithin R (RoleCall.run s cs) := by
  induction cs generalizing s with
  | nil => exact hs
  | cons hc cs ih => exact ih (hs.apply hR hc.1 hc.2)

/-- Once the admin has revoked its own role, neither a grant by the former admin nor a
    delegation of `Admin` by another address brings `Admin` back. -/
theorem admin_stays_revoked :
    let s : AuthStore := (RoleCall.revokeDelegatedRole ⟨0⟩ ⟨0⟩).apply ⟨0, fun _ => true⟩
      (initializeAdmin ⟨0⟩ AuthStore.empty)
    let cs : List (Host × RoleCall) := [(⟨0, fun _ => true⟩, .grantRole ⟨0⟩ ⟨0⟩ .admin),
      (⟨0, fun _ => true⟩, .delegateRole ⟨1⟩ ⟨1⟩ .admin)]
    (GrantClosed (· ≠ .admin) ∧ RolesWithin (· ≠ .admin) s) ∧
      RolesWithin (· ≠ .admin) (RoleCall.run s cs) := by
  intro s cs
  have hR : GrantClosed (· ≠ .admin) := ⟨nofun, fun holder r hh hm => by
    rcases hm with rfl | ⟨-, rfl | rfl | rfl⟩ | ⟨-, rfl⟩ <;> first | exact absurd rfl hh | nofun⟩
  have hs : RolesWithin (· ≠ .admin) s := fun x => by
    by_cases h : x = ⟨0⟩ <;>
      simp [s, h, RoleCall.apply, revokeDelegatedRole_eq, initializeAdmin, AuthStore.empty,
        AuthStore.setRole, getRole]
  exact ⟨⟨hR, hs⟩, roles_stay_within hR hs cs⟩

/-! ## As built: the admin's role can be taken away -/

/-- Any address hands `User` to the admin, and the admin's role is gone. -/
theorem user_delegation_revokes_admin :
    let s : AuthStore := initializeAdmin ⟨0⟩ AuthStore.empty
    let s' := (RoleCall.delegateRole ⟨1⟩ ⟨0⟩ .user).apply ⟨0, fun _ => true⟩ s
    RoleReach s' ∧ getRole s ⟨0⟩ = .admin ∧ getRole s ⟨1⟩ = .user ∧ getRole s' ⟨0⟩ = .user :=
  ⟨.step _ _ (.init _), by decide, by decide, by decide⟩

/-- After the admin revokes its own delegated role, no address holds `Admin`. -/
theorem admin_locked_out :
    let s' : AuthStore := (RoleCall.revokeDelegatedRole ⟨0⟩ ⟨0⟩).apply ⟨0, fun _ => true⟩
      (initializeAdmin ⟨0⟩ AuthStore.empty)
    RoleReach s' ∧ ∀ x, s'.userRole x ≠ some .admin := by
  refine ⟨.step _ _ (.init _), fun x => ?_⟩
  by_cases h : x = ⟨0⟩ <;>
    simp [h, RoleCall.apply, revokeDelegatedRole_eq, initializeAdmin, AuthStore.empty,
      AuthStore.setRole, getRole]

end StellarInsured.Authorization
