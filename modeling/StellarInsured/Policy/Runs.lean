import StellarInsured.Policy.Contract

/-
  StellarInsured.Policy.Runs — runs of `PolicyContract` (contracts/policy/lib.rs): its
  six entry points that write storage, in any order, each at its own ledger time and by
  any caller, from a freshly deployed contract (`Reachable`).

  What a call can do to the policies, the policy counter and the role keys is said once,
  in `PolicyStep` (`policyStep_apply`): `initialize` sets the admin and the counter on
  storage with no admin; `issue_policy` stores a new policy under the next id;
  `grant_manager_role` and `revoke_manager_role` write roles for a caller holding `Admin`;
  every other call, and every call that fails, leaves the three alone.

  Proved:
  - `policy_store_wf`: in every reachable state the policies stored are exactly those under
    `1, …, PolicyCounter`, each as `issue_policy` checked it: active, with a positive
    coverage and premium, starting when it was created and ending 1 to 365 whole days
    later (`Policy.Issued`); before `initialize` no role but `User` and no counter exist.
  - `policies_immutable`: over every run from a reachable state, no stored policy is ever
    rewritten or removed, and the counter never goes down.
  - `policy_issuers`: a call that changes the policies or the counter is `issue_policy`,
    signed by a caller whose role may manage policies (`Admin` or `PolicyManager`), on an
    unpaused contract, and it adds one policy under the next id.
-/

namespace StellarInsured.PolicyContract

open Authorization

inductive Call where
  | init (admin riskPool : Address)
  | issuePolicy (manager holder : Address) (coverageAmount premiumAmount : Int) (durationDays : Nat)
  | pause (admin : Address)
  | unpause (admin : Address)
  | grantManagerRole (admin manager : Address)
  | revokeManagerRole (admin manager : Address)
  deriving DecidableEq, Repr

/-- The storage a call leaves, run from `s`. -/
def Call.apply (host : Host) : Call → State → State
  | .init a r, s => (PolicyContract.init host a r s).after s
  | .issuePolicy m h c p d, s => (PolicyContract.issuePolicy host m h c p d s).after s
  | .pause a, s => (PolicyContract.pause host a s).after s
  | .unpause a, s => (PolicyContract.unpause host a s).after s
  | .grantManagerRole a m, s => (PolicyContract.grantManagerRole host a m s).after s
  | .revokeManagerRole a m, s => (PolicyContract.revokeManagerRole host a m s).after s

/-- A freshly deployed contract: no key is set. -/
def State.empty : State := ⟨AuthStore.empty, none, none, fun _ => none, none⟩

/-- The states a deployed contract reaches, each call at its own ledger time. -/
inductive Reachable : State → Prop
  | empty : Reachable State.empty
  | step {s : State} (host : Host) (c : Call) : Reachable s → Reachable (c.apply host s)

/-- The state a list of calls leaves, run in order from `s`. -/
def exec : State → List (Host × Call) → State
  | s, [] => s
  | s, (host, c) :: cs => exec (c.apply host s) cs

theorem reachable_exec {s : State} (hs : Reachable s) (cs : List (Host × Call)) :
    Reachable (exec s cs) := by
  induction cs generalizing s with
  | nil => exact hs
  | cons hc cs ih => exact ih (.step hc.1 hc.2 hs)

/-! ## What a call does to the policies -/

/-- The policy `issue_policy` stores, issued at `now` for `durationDays` days. -/
def newPolicy (holder : Address) (coverageAmount premiumAmount : Int) (now durationDays : Nat) :
    Policy :=
  ⟨holder, coverageAmount, premiumAmount, now, now + durationDays * 86400, .active, now⟩

/-- What one call can do to the policies, the counter and the role keys, guards included. -/
inductive PolicyStep (host : Host) (s : State) : Call → State → Prop
  /-- The call leaves the role keys, the policies and the counter as they were. -/
  | keep {c : Call} {s' : State} :
      s'.auth = s.auth → s'.policies = s.policies → s'.policyCounter = s.policyCounter →
      PolicyStep host s c s'
  /-- A caller holding `Admin` writes roles; the admin key stays. -/
  | roles {c : Call} {s' : State} (admin : Address) :
      getRole s.auth admin = .admin → getAdmin s'.auth = getAdmin s.auth →
      s'.policies = s.policies → s'.policyCounter = s.policyCounter → PolicyStep host s c s'
  /-- `initialize` on storage with no admin sets the admin and a zero counter. -/
  | init {s' : State} (admin riskPool : Address) :
      getAdmin s.auth = none → getAdmin s'.auth = some admin →
      s'.policies = s.policies → s'.policyCounter = some 0 →
      PolicyStep host s (.init admin riskPool) s'
  /-- `issue_policy` stores a new policy under the next id. -/
  | issue {s' : State} (manager holder : Address) (coverageAmount premiumAmount : Int)
      (durationDays : Nat) :
      host.authorizes manager = true → (getRole s.auth manager).canManagePolicies = true →
      isPaused s = false → 0 < coverageAmount → 0 < premiumAmount → 1 ≤ durationDays →
      durationDays ≤ 365 → host.timestamp + durationDays * 86400 < 2 ^ 64 →
      s'.auth = s.auth → s'.policyCounter = some (s.policyCounter.getD 0 + 1) →
      s'.policies = Function.update s.policies (s.policyCounter.getD 0 + 1)
        (some (newPolicy holder coverageAmount premiumAmount host.timestamp durationDays)) →
      PolicyStep host s (.issuePolicy manager holder coverageAmount premiumAmount durationDays) s'

section Steps

variable {host : Host} {s : State}

/-- `register_trusted_contract` by the admin `initialize_admin` just set never fails. -/
theorem registerTrustedContract_initializeAdmin (admin riskPool : Address) (a : AuthStore) :
    registerTrustedContract admin riskPool (initializeAdmin admin a) =
      .ret (.ok ()) { initializeAdmin admin a with
        trustedContract := Function.update a.trustedContract riskPool (some true) } := by
  simp [registerTrustedContract, requireAdmin, requireRole, initializeAdmin, getRole,
    AuthStore.setRole]

theorem init_step (admin riskPool : Address) :
    PolicyStep host s (.init admin riskPool) ((init host admin riskPool s).after s) := by
  unfold init
  rw [registerTrustedContract_initializeAdmin]
  split_ifs with hadm
  · exact .keep rfl rfl rfl
  · exact .keep rfl rfl rfl
  · exact .init admin riskPool (by simpa using hadm) rfl rfl rfl

theorem issuePolicy_step (m h : Address) (cov prem : Int) (d : Nat) :
    PolicyStep host s (.issuePolicy m h cov prem d) ((issuePolicy host m h cov prem d s).after s) := by
  unfold issuePolicy
  split
  · exact .keep rfl rfl rfl
  rename_i ha
  split
  · exact .keep rfl rfl rfl
  rename_i hpm
  have hrole : (getRole s.auth m).canManagePolicies = true := by
    unfold requirePolicyManagement requirePermission at hpm
    split_ifs at hpm with hc
    exact hc
  split
  · exact .keep rfl rfl rfl
  rename_i hp
  split
  · exact .keep rfl rfl rfl
  rename_i hamt
  split
  · exact .keep rfl rfl rfl
  rename_i hd
  split
  · rename_i hid hend
    obtain ⟨-, rfl⟩ := addU_eq_some.1 hid
    obtain ⟨hlt, rfl⟩ := addU_eq_some.1 hend
    exact .issue m h cov prem d (by simpa using ha) hrole (by simpa using hp) (by omega) (by omega)
      (by omega) (by omega) hlt rfl rfl rfl
  · exact .keep rfl rfl rfl

theorem setPausedBy_step {c : Call} (admin : Address) (p : Bool) :
    PolicyStep host s c ((setPausedBy host admin p s).after s) := by
  unfold setPausedBy
  split_ifs
  · exact .keep rfl rfl rfl
  split <;> exact .keep rfl rfl rfl

/-- A role wrapper either writes nothing or is made by an `Admin`, and keeps the admin key. -/
theorem roleKeys_step {c : Call} {k : Outcome ContractError Unit AuthStore}
    (hk : k.after s.auth = s.auth ∨
      ∃ admin, getRole s.auth admin = .admin ∧ getAdmin (k.after s.auth) = getAdmin s.auth) :
    PolicyStep host s c ((k.mapState fun a => { s with auth := a }).after s) := by
  have hafter : (k.mapState fun a => { s with auth := a }).after s = { s with auth := k.after s.auth } := by
    cases k <;> rfl
  rw [hafter]
  rcases hk with h | ⟨admin, hr, h⟩
  · exact .keep h rfl rfl
  · exact .roles admin hr h rfl rfl

theorem grantManagerRole_step {c : Call} (admin manager : Address) :
    PolicyStep host s c ((grantManagerRole host admin manager s).after s) := by
  refine roleKeys_step ?_
  unfold grantManagerRoleKeys
  split_ifs
  · exact .inl rfl
  split
  · exact .inl rfl
  rename_i h
  have hr : getRole s.auth admin = .admin := (requireRole_eq_ok _ _ _).1 h
  rw [grantRole_eq, if_pos hr]
  exact .inr ⟨admin, hr, rfl⟩

theorem revokeManagerRole_step {c : Call} (admin manager : Address) :
    PolicyStep host s c ((revokeManagerRole host admin manager s).after s) := by
  refine roleKeys_step ?_
  unfold revokeManagerRoleKeys
  split_ifs
  · exact .inl rfl
  split
  · exact .inl rfl
  rename_i h
  have hr : getRole s.auth admin = .admin := (requireRole_eq_ok _ _ _).1 h
  rw [revokeRole_eq]
  split_ifs
  · exact .inr ⟨admin, hr, rfl⟩
  · exact .inl rfl

/-- Every call takes one of the steps of `PolicyStep`. -/
theorem policyStep_apply (host : Host) (c : Call) (s : State) :
    PolicyStep host s c (c.apply host s) := by
  cases c with
  | init a r => exact init_step a r
  | issuePolicy m h c p d => exact issuePolicy_step m h c p d
  | pause a => exact setPausedBy_step a true
  | unpause a => exact setPausedBy_step a false
  | grantManagerRole a m => exact grantManagerRole_step a m
  | revokeManagerRole a m => exact revokeManagerRole_step a m

end Steps

/-! ## The policy store -/

/-- What `issue_policy` checked of a policy it stored. -/
structure Policy.Issued (p : Policy) : Prop where
  active : p.status = .active
  coverage_pos : 0 < p.coverageAmount
  premium_pos : 0 < p.premiumAmount
  starts_at_creation : p.startTime = p.createdAt
  /-- `end_time = start_time + duration_days * 86400`, the duration 1 to 365 days, and the
      sum a `u64`. -/
  duration : ∃ d, 1 ≤ d ∧ d ≤ 365 ∧ p.endTime = p.startTime + d * 86400
  end_fits : p.endTime < 2 ^ 64

/-- The policy store agrees with the counter, and every policy with `issue_policy`. -/
structure PolicyInv (s : State) : Prop where
  /-- Before `initialize` no address holds a role but `User`, -/
  roles_need_admin : getAdmin s.auth = none → ∀ x, getRole s.auth x = .user
  /-- and no counter is set. -/
  counter_needs_admin : getAdmin s.auth = none → s.policyCounter = none
  /-- The policies stored are those under `1, …, PolicyCounter`. -/
  stored : ∀ id, (s.policies id).isSome ↔ 1 ≤ id ∧ id ≤ s.policyCounter.getD 0
  issued : ∀ id p, s.policies id = some p → p.Issued

theorem policyInv_empty : PolicyInv State.empty where
  roles_need_admin _ _ := rfl
  counter_needs_admin _ := rfl
  stored id := by simp [State.empty]; omega
  issued _ _ h := by cases h

section Inv

variable {host : Host} {s s' : State} {c : Call}

/-- An address whose role may manage policies shows an admin was set. -/
theorem PolicyInv.admin_of_role (hi : PolicyInv s) {x : Address} (hx : getRole s.auth x ≠ .user) :
    getAdmin s.auth ≠ none :=
  fun h => hx (hi.roles_need_admin h x)

theorem PolicyStep.policyInv (h : PolicyStep host s c s') (hi : PolicyInv s) : PolicyInv s' := by
  cases h with
  | keep ha hp hc =>
    exact ⟨ha ▸ hi.roles_need_admin, ha ▸ hc ▸ hi.counter_needs_admin, hp ▸ hc ▸ hi.stored,
      hp ▸ hi.issued⟩
  | roles admin hr hadm hp hc =>
    have hsome : getAdmin s'.auth ≠ none := hadm ▸ hi.admin_of_role (x := admin) (by simp [hr])
    exact ⟨fun h => absurd h hsome, fun h => absurd h hsome, hp ▸ hc ▸ hi.stored, hp ▸ hi.issued⟩
  | init admin _ hnone hadm hp hc =>
    refine ⟨by simp [hadm], by simp [hadm], fun id => ?_, hp ▸ hi.issued⟩
    rw [hp, hc, hi.stored, hi.counter_needs_admin hnone]
    rfl
  | issue m holder cov prem d _ hrole _ hcov hprem hd1 hd2 hlt hauth hc hps =>
    have hsome : getAdmin s'.auth ≠ none :=
      hauth ▸ hi.admin_of_role (x := m) fun h => by simp [h, Role.canManagePolicies] at hrole
    refine ⟨fun h => absurd h hsome, fun h => absurd h hsome, fun id => ?_, fun id p h => ?_⟩
    · rw [hps, hc, Function.update_apply]
      split_ifs with hid
      · simp [hid]
      · simp only [hi.stored, Option.getD_some]
        omega
    · rw [hps, Function.update_apply] at h
      split_ifs at h
      · cases h
        exact ⟨rfl, hcov, hprem, rfl, ⟨d, hd1, hd2, rfl⟩, hlt⟩
      · exact hi.issued id p h

theorem reachable_policyInv {s : State} (hs : Reachable s) : PolicyInv s := by
  induction hs with
  | empty => exact policyInv_empty
  | step host c _ ih => exact (policyStep_apply host c _).policyInv ih

/-- In every reachable state the policies stored are those under `1, …, PolicyCounter`, each
    as `issue_policy` checked it, and before `initialize` no role but `User` exists. -/
theorem policy_store_wf {s : State} (hs : Reachable s) : PolicyInv s :=
  reachable_policyInv hs

end Inv

/-- A contract with a policy manager, which issued one 30-day policy. -/
def policySetup : State :=
  exec State.empty [(⟨0, fun _ => true⟩, .init ⟨0⟩ ⟨1⟩), (⟨0, fun _ => true⟩, .grantManagerRole ⟨0⟩ ⟨2⟩),
    (⟨100, fun _ => true⟩, .issuePolicy ⟨2⟩ ⟨3⟩ 1000 10 30)]

theorem policySetup_reachable : Reachable policySetup := reachable_exec .empty _

theorem policy_store_wf_setup :
    Reachable policySetup ∧ policySetup.policyCounter = some 1 ∧ PolicyInv policySetup :=
  ⟨policySetup_reachable, rfl, policy_store_wf policySetup_reachable⟩

/-! ## Policies are never rewritten -/

/-- From `s` to `s'` every stored policy stays as it was, and the counter does not go down. -/
def PolicyKept (s s' : State) : Prop :=
  (∀ id p, s.policies id = some p → s'.policies id = some p) ∧
    s.policyCounter.getD 0 ≤ s'.policyCounter.getD 0

theorem PolicyStep.kept {host : Host} {s s' : State} {c : Call} (h : PolicyStep host s c s')
    (hi : PolicyInv s) : PolicyKept s s' := by
  cases h with
  | keep _ hp hc => exact ⟨fun _ _ h => hp ▸ h, hc ▸ le_rfl⟩
  | roles _ _ _ hp hc => exact ⟨fun _ _ h => hp ▸ h, hc ▸ le_rfl⟩
  | init _ _ hnone _ hp hc => exact ⟨fun _ _ h => hp ▸ h, by simp [hc, hi.counter_needs_admin hnone]⟩
  | issue _ _ _ _ _ _ _ _ _ _ _ _ _ _ hc hps =>
    refine ⟨fun id p h => ?_, by simp [hc]⟩
    have hle := ((hi.stored id).1 (by simp [h])).2
    rw [hps, Function.update_noteq (by omega), h]

/-- Over every run from a reachable state, no stored policy is rewritten or removed, and the
    policy counter never goes down. -/
theorem policies_immutable {s : State} (hs : Reachable s) (cs : List (Host × Call)) :
    PolicyKept s (exec s cs) := by
  induction cs generalizing s with
  | nil => exact ⟨fun _ _ h => h, le_rfl⟩
  | cons hc cs ih =>
    have h1 := (policyStep_apply hc.1 hc.2 s).kept (reachable_policyInv hs)
    have h2 := ih (.step hc.1 hc.2 hs)
    exact ⟨fun id p h => h2.1 id p (h1.1 id p h), Nat.le_trans h1.2 h2.2⟩

/-- The manager revoked, the contract paused, a second `initialize` tried: the policy stays. -/
theorem policies_immutable_setup :
    Reachable policySetup ∧ PolicyKept policySetup (exec policySetup
      [(⟨200, fun _ => true⟩, .revokeManagerRole ⟨0⟩ ⟨2⟩), (⟨200, fun _ => true⟩, .pause ⟨0⟩),
        (⟨200, fun _ => true⟩, .init ⟨5⟩ ⟨5⟩)]) :=
  ⟨policySetup_reachable, policies_immutable policySetup_reachable _⟩

/-! ## Who issues policies -/

/-- A call that changes the stored policies is `issue_policy`, signed by a caller whose role
    may manage policies, on an unpaused contract, and it adds exactly one policy, under the
    id after the counter. -/
theorem policy_issuers (host : Host) (c : Call) (s : State)
    (h : (c.apply host s).policies ≠ s.policies) :
    ∃ manager holder coverageAmount premiumAmount durationDays,
      c = .issuePolicy manager holder coverageAmount premiumAmount durationDays ∧
      host.authorizes manager = true ∧ (getRole s.auth manager).canManagePolicies = true ∧
      isPaused s = false ∧
      (c.apply host s).policies = Function.update s.policies (s.policyCounter.getD 0 + 1)
        (some (newPolicy holder coverageAmount premiumAmount host.timestamp durationDays)) := by
  cases policyStep_apply host c s with
  | keep _ hp _ => exact absurd hp h
  | roles _ _ _ hp _ => exact absurd hp h
  | init _ _ _ _ hp _ => exact absurd hp h
  | issue m holder cov prem d ha hrole hp _ _ _ _ _ _ _ hps => exact ⟨m, holder, cov, prem, d, rfl, ha, hrole, hp, hps⟩

theorem policy_issuers_setup :
    let host : Host := ⟨300, fun _ => true⟩
    let c : Call := .issuePolicy ⟨2⟩ ⟨4⟩ 500 5 365
    (c.apply host policySetup).policies ≠ policySetup.policies ∧
      ∃ manager holder coverageAmount premiumAmount durationDays,
        c = .issuePolicy manager holder coverageAmount premiumAmount durationDays ∧
        host.authorizes manager = true ∧ (getRole policySetup.auth manager).canManagePolicies = true ∧
        isPaused policySetup = false ∧
        (c.apply host policySetup).policies = Function.update policySetup.policies
          (policySetup.policyCounter.getD 0 + 1)
          (some (newPolicy holder coverageAmount premiumAmount host.timestamp durationDays)) :=
  have h : (Call.apply ⟨300, fun _ => true⟩ (.issuePolicy ⟨2⟩ ⟨4⟩ 500 5 365) policySetup).policies ≠
      policySetup.policies := fun h => by
    have h2 := congrFun h 2
    exact Option.noConfusion (h2.symm.trans rfl : policySetup.policies 2 = some _)
  ⟨h, policy_issuers _ _ _ h⟩

end StellarInsured.PolicyContract
