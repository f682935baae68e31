import StellarInsured.Staking.Runs

/-
  StellarInsured.Staking.Pool — the reward pool of `GovernanceStakingContract` over whole
  runs: the reward config's `total_reward_pool` and `remaining_rewards`, and the
  accumulator `acc_reward_per_share`.

  What a call can do to them (`poolKeys`) is said once, in `PoolStep`: `initialize` fills
  a fresh pool; `update_pool_rewards`, which `stake`, `initiate_unstake`,
  `complete_unstake`, `claim_rewards`, `set_reward_rate` and `get_pending_rewards` run
  first, releases part of what remains and raises the accumulator; `add_rewards`, by the
  stored admin, adds one amount to the pool and to what remains (`poolStep_apply`).

  Proved:
  - `pool_bounded`: in every reachable state `0 ≤ remaining_rewards ≤ total_reward_pool`.
    `update_pool_rewards` clamps its release to `remaining_rewards as u128`; a release of
    `2^127` or more, which `as i128` would make negative, leaves a remainder outside
    `i128`, and the checked subtraction traps.
  - `pool_monotone`: over every run from a reachable state the reward config, once set,
    stays, and the pool, what it has released (`total_reward_pool - remaining_rewards`)
    and the accumulator never go down.
  - `pool_funded_by_admin`: from a reachable state, a call that raises
    `total_reward_pool` is `add_rewards` by the stored admin, raising `remaining_rewards`
    by the same amount.
-/

namespace StellarInsured.Staking

/-! ## The pool keys -/

/-- The keys the pool invariant reads: the stored admin, the pool's total and remaining
    rewards, and the accumulator. -/
structure PoolKeys where
  admin : Option Address
  pool : Option (Int × Int)
  acc : Nat

def poolKeys (s : State) : PoolKeys :=
  ⟨s.admin, s.rewardConfig.map fun c => (c.totalRewardPool, c.remainingRewards),
    getAccRewardPerShare s⟩

/-- What one call can do to the pool keys, guards included. -/
inductive PoolStep (s : State) : Call → State → Prop
  /-- The call leaves the pool keys as they were. -/
  | keep {c : Call} {s' : State} : poolKeys s' = poolKeys s → PoolStep s c s'
  /-- `initialize` on a fresh contract: a pool of `pool`, all of it remaining. -/
  | init {s' : State} (admin g r : Address) (rate : Nat) (m : Int) (p cd : Nat) (pool : Int) :
      s.admin = none → 0 ≤ pool → poolKeys s' = ⟨some admin, some (pool, pool), 0⟩ →
      PoolStep s (.init admin g r rate m p cd pool) s'
  /-- `update_pool_rewards` releases `released` of what remains and adds `accrual` to the
      accumulator. -/
  | release {c : Call} {s' : State} (config : RewardConfig) (released accrual : Nat) :
      s.rewardConfig = some config → 0 < released → (released : Int) ≤ config.remainingRewards →
      poolKeys s' = ⟨s.admin, some (config.totalRewardPool, config.remainingRewards - released),
        getAccRewardPerShare s + accrual⟩ →
      PoolStep s c s'
  /-- `add_rewards` by the stored admin adds `amount` to the pool and to what remains. -/
  | add {s' : State} (admin : Address) (amount : Int) (config : RewardConfig) :
      s.admin = some admin → s.rewardConfig = some config → 0 < amount →
      poolKeys s' = ⟨s.admin, some (config.totalRewardPool + amount,
        config.remainingRewards + amount), getAccRewardPerShare s⟩ →
      PoolStep s (.addRewards admin amount) s'

section Steps

variable {host : Host} {s : State}

/-- Steps read only the pool keys: to a state with the same keys, the same step. -/
theorem PoolStep.of_keys {s₁ s' : State} {c : Call} (h : PoolStep s c s₁)
    (hk : poolKeys s' = poolKeys s₁) : PoolStep s c s' := by
  cases h with
  | keep h => exact .keep (hk.trans h)
  | init a g r rate m p cd pool h0 hp h => exact .init a g r rate m p cd pool h0 hp (hk.trans h)
  | release config r x hc hr hle h => exact .release config r x hc hr hle (hk.trans h)
  | add admin amount config ha hc hpos h => exact .add admin amount config ha hc hpos (hk.trans h)

theorem PoolStep.of_authorized {β : Type} {c : Call} {caller : Address}
    {k : Outcome ContractError β State} (h : PoolStep s c (k.after s)) :
    PoolStep s c ((authorized host caller k).after s) := by
  unfold authorized
  split
  · exact h
  · exact .keep rfl

theorem PoolStep.of_checked {α β : Type} {c : Call} {checks : Except ContractError α}
    {writes : α → Option (β × State)}
    (h : ∀ a b s', checks = .ok a → writes a = some (b, s') → PoolStep s c s') :
    PoolStep s c ((checked s checks writes).after s) := by
  unfold checked
  split
  · exact .keep rfl
  · rename_i a
    cases hw : writes a with
    | none => exact .keep rfl
    | some p => exact h a p.1 p.2 rfl hw

theorem PoolStep.of_trapping {β : Type} {c : Call} {x : Option (β × State)}
    (h : ∀ b s', x = some (b, s') → PoolStep s c s') :
    PoolStep s c ((trapping x : Outcome ContractError β State).after s) := by
  cases hx : x with
  | none => exact .keep rfl
  | some p => exact h p.1 p.2 hx

/-- `remaining_rewards as u128` is at most `remaining_rewards` when that is not negative. -/
theorem i128AsU128_le {x : Int} (hx : 0 ≤ x) : (i128AsU128 x : Int) ≤ x := by
  unfold i128AsU128
  omega

/-- `remaining - actual_reward as i128` with `actual_reward ≤ remaining`: a release of `2^127`
    or more would turn negative and leave a remainder outside `i128`, so the checked
    subtraction gives `remaining - actual_reward`. -/
theorem subI128_u128AsI128 {a b : Int} {r : Nat} (hr : (r : Int) ≤ a)
    (h : subI128 a (u128AsI128 r) = some b) : b = a - r := by
  unfold subI128 at h
  split_ifs at h with hfit
  cases h
  unfold u128AsI128 at hfit ⊢
  unfold fitsI128 i128Min i128Max at hfit
  split_ifs at hfit ⊢
  · rfl
  · simp at hfit
    omega

theorem updatePoolRewards_poolStep {c : Call} {s₁ : State} (h : updatePoolRewards host s = some s₁) :
    PoolStep s c s₁ := by
  simp only [updatePoolRewards] at h
  split at h
  · cases h
    exact .keep rfl
  rename_i config hconfig
  split_ifs at h with hen htime hstaked hrew
  · cases h; exact .keep rfl
  · cases h; exact .keep rfl
  · cases h; exact .keep (by simp [poolKeys, getAccRewardPerShare])
  · simp only [Option.bind_eq_bind, Option.bind_eq_some] at h
    obtain ⟨scaled, -, acc, hacc, _, hrem, h⟩ := h
    obtain ⟨-, rfl⟩ := addU_eq_some.1 hacc
    cases h
    have hpos : 0 < config.remainingRewards := by simp at hen; omega
    have hle (n : Nat) : ((min n (i128AsU128 config.remainingRewards) : Nat) : Int) ≤
        config.remainingRewards :=
      le_trans (Int.ofNat_le.2 (min_le_right _ _)) (i128AsU128_le hpos.le)
    refine .release config _ (scaled / i128AsU128 (getStakingStats host s).totalStaked) hconfig hrew
      (hle _) ?_
    simp [poolKeys, getAccRewardPerShare, subI128_u128AsI128 (hle _) hrem]
  · cases h; exact .keep (by simp [poolKeys, getAccRewardPerShare])

/-! ### The writes after the pool update -/

theorem recordStake_poolKeys {user : Address} {amount : Int} {u : Unit} {s' : State}
    (h : recordStake host user amount s = some (u, s')) : poolKeys s' = poolKeys s := by
  simp only [recordStake, Option.bind_eq_bind, Option.bind_eq_some] at h
  obtain ⟨_, -, _, -, _, -, _, -, _, -, _, -, h⟩ := h
  cases h
  rfl

theorem recordClaim_poolKeys {user : Address} {position : StakingPosition} {total r : Int}
    {s' : State} (h : recordClaim host user position total s = some (r, s')) :
    poolKeys s' = poolKeys s := by
  simp only [recordClaim, Option.bind_eq_bind, Option.bind_eq_some] at h
  obtain ⟨_, -, h⟩ := h
  cases h
  rfl

theorem recordUnstake_poolStep {c : Call} {user : Address} {config : RewardConfig}
    {position : StakingPosition} {unlockAt : Nat} {s' : State}
    (h : recordUnstake host user config position s = some (unlockAt, s')) : PoolStep s c s' := by
  simp only [recordUnstake, Option.bind_eq_bind, Option.bind_eq_some] at h
  obtain ⟨s₁, hs₁, _, -, _, -, h⟩ := h
  cases h
  exact (updatePoolRewards_poolStep hs₁).of_keys rfl

theorem recordCompleteUnstake_poolStep {c : Call} {user : Address} {position : StakingPosition}
    {r : Int} {s' : State} (h : recordCompleteUnstake host user position s = some (r, s')) :
    PoolStep s c s' := by
  simp only [recordCompleteUnstake, Option.bind_eq_bind, Option.bind_eq_some] at h
  obtain ⟨s₁, hs₁, _, -, _, -, _, -, _, -, _, -, h⟩ := h
  cases h
  exact (updatePoolRewards_poolStep hs₁).of_keys rfl

/-! ### The entry points -/

theorem init_poolStep (a g r : Address) (rate : Nat) (m : Int) (p cd : Nat) (pool : Int) :
    PoolStep s (.init a g r rate m p cd pool) ((init host a g r rate m p cd pool s).after s) := by
  unfold init
  split_ifs with ha _ _ hpool
  · exact .keep rfl
  all_goals refine .of_authorized ?_
  iterate 3 exact .keep rfl
  exact .init a g r rate m p cd pool (by simpa using ha) (by omega) rfl

theorem stake_poolStep (user : Address) (amount : Int) :
    PoolStep s (.stake user amount) ((stake host user amount s).after s) :=
  .of_authorized <| .of_checked fun _ _ _ _ h => by
    obtain ⟨s₁, hs₁, h⟩ := Option.bind_eq_some.1 h
    exact (updatePoolRewards_poolStep hs₁).of_keys (recordStake_poolKeys h)

theorem initiateUnstake_poolStep (user : Address) (amount : Int) :
    PoolStep s (.initiateUnstake user amount) ((initiateUnstake host user amount s).after s) := by
  refine .of_authorized ?_
  split; · exact .keep rfl
  split; · exact .keep rfl
  split; · exact .keep rfl
  split; · exact .keep rfl
  split; · exact .keep rfl
  split; · exact .keep rfl
  exact .of_trapping fun _ _ h => recordUnstake_poolStep h

theorem completeUnstake_poolStep (user : Address) :
    PoolStep s (.completeUnstake user) ((completeUnstake host user s).after s) :=
  .of_authorized <| .of_checked fun _ _ _ _ h => recordCompleteUnstake_poolStep h

theorem claimRewards_poolStep (user : Address) :
    PoolStep s (.claimRewards user) ((claimRewards host user s).after s) := by
  refine .of_authorized ?_
  split; · exact .keep rfl
  split; · exact .keep rfl
  split; · exact .keep rfl
  rename_i s₁ hs₁
  have hk : PoolStep s (.claimRewards user) s₁ := updatePoolRewards_poolStep hs₁
  split; · exact hk
  split; · exact .keep rfl
  split; · exact hk
  exact .of_trapping fun _ _ h => hk.of_keys (recordClaim_poolKeys h)

theorem addRewards_poolStep (admin : Address) (amount : Int) :
    PoolStep s (.addRewards admin amount) ((addRewards host admin amount s).after s) :=
  .of_authorized <| .of_checked fun config _ _ hc h => by
    simp only [checkAdmin, Except.bind_eq_ok, okOr_eq_ok, Except.throw_eq, Except.pure_eq,
      Except.error_bind, Except.ok_bind, Except.ite_error_eq_ok] at hc
    obtain ⟨_, hadmin, hpos, hconfig⟩ := hc
    have ha : s.admin = some admin := by
      revert hadmin
      cases s.admin with
      | none => simp
      | some stored => by_cases h : admin = stored <;> simp [h]
    simp only [Option.bind_eq_bind, Option.bind_eq_some] at h
    obtain ⟨_, htot, _, hrem, h⟩ := h
    obtain ⟨-, rfl⟩ := addI128_eq_some.1 htot
    obtain ⟨-, rfl⟩ := addI128_eq_some.1 hrem
    cases h
    exact .add admin amount config ha hconfig (by omega) (by simp [poolKeys, getAccRewardPerShare])

theorem setRewardRate_poolStep (admin : Address) (rate : Nat) :
    PoolStep s (.setRewardRate admin rate) ((setRewardRate host admin rate s).after s) := by
  refine .of_authorized ?_
  split; · exact .keep rfl
  split; · exact .keep rfl
  split; · exact .keep rfl
  rename_i s₁ hs₁
  have hk : PoolStep s (.setRewardRate admin rate) s₁ := updatePoolRewards_poolStep hs₁
  split
  · exact hk
  · exact hk.of_keys (by simp [poolKeys, getAccRewardPerShare, *])

theorem getPendingRewards_poolStep (user : Address) :
    PoolStep s (.getPendingRewards user) ((getPendingRewards host user s).after s) := by
  unfold getPendingRewards
  split
  · exact .keep rfl
  · exact updatePoolRewards_poolStep ‹_›

/-- Every call steps as `PoolStep` says. -/
theorem poolStep_apply (host : Host) (c : Call) (s : State) : PoolStep s c (c.apply host s) := by
  cases c with
  | init a g r rate m p cd pool => exact init_poolStep a g r rate m p cd pool
  | stake user amount => exact stake_poolStep user amount
  | initiateUnstake user amount => exact initiateUnstake_poolStep user amount
  | completeUnstake user => exact completeUnstake_poolStep user
  | claimRewards user => exact claimRewards_poolStep user
  | delegate => exact .of_authorized <| .of_checked fun _ _ _ _ h => by cases h; exact .keep rfl
  | undelegate => exact .of_authorized <| .of_checked fun _ _ _ _ h => by cases h; exact .keep rfl
  | addRewards admin amount => exact addRewards_poolStep admin amount
  | setRewardRate admin rate => exact setRewardRate_poolStep admin rate
  | setPaused => exact .of_authorized <| .of_checked fun _ _ _ _ h => by cases h; exact .keep rfl
  | getPendingRewards user => exact getPendingRewards_poolStep user

end Steps

/-! ## The pool stays within bounds -/

/-- Before `initialize` there is no pool and the accumulator is zero; after it, what
    remains is between zero and the pool. -/
structure PoolInv (k : PoolKeys) : Prop where
  fresh : k.admin = none → k.pool = none ∧ k.acc = 0
  bounded : ∀ total remaining, k.pool = some (total, remaining) → 0 ≤ remaining ∧ remaining ≤ total

theorem poolInv_empty : PoolInv (poolKeys State.empty) where
  fresh _ := ⟨rfl, rfl⟩
  bounded _ _ h := by cases h

theorem PoolStep.poolInv {s s' : State} {c : Call} (h : PoolStep s c s') (hi : PoolInv (poolKeys s)) :
    PoolInv (poolKeys s') := by
  cases h with
  | keep h => exact h ▸ hi
  | init _ _ _ _ _ _ _ _ _ hpool h =>
    rw [h]
    exact ⟨fun h => (by cases h), fun _ _ h => by cases h; exact ⟨hpool, le_rfl⟩⟩
  | release config r _ hc _ hle h =>
    have hb := hi.bounded config.totalRewardPool config.remainingRewards (by simp [poolKeys, hc])
    rw [h]
    refine ⟨fun ha => absurd (hi.fresh ha).1 (by simp [poolKeys, hc]), fun _ _ h => ?_⟩
    cases h
    omega
  | add _ _ config ha hc hpos h =>
    have hb := hi.bounded config.totalRewardPool config.remainingRewards (by simp [poolKeys, hc])
    rw [h]
    refine ⟨fun h => by simp [poolKeys, ha] at h, fun _ _ h => ?_⟩
    cases h
    omega

theorem reachable_poolInv {t : Nat} {s : State} (hs : Reachable t s) : PoolInv (poolKeys s) := by
  induction hs with
  | empty => exact poolInv_empty
  | step host c _ _ ih => exact (poolStep_apply host c _).poolInv ih

/-- In every reachable state the rewards that remain are between zero and the pool. -/
theorem pool_bounded {t : Nat} {s : State} (hs : Reachable t s) {config : RewardConfig}
    (hc : s.rewardConfig = some config) :
    0 ≤ config.remainingRewards ∧ config.remainingRewards ≤ config.totalRewardPool :=
  (reachable_poolInv hs).bounded config.totalRewardPool config.remainingRewards
    (by simp [poolKeys, hc])

/-- A pool of 1000 at the full rate, a stake of one year's seconds, so the pool releases
    one unit a second, 500 added by the admin at time 100, and a claim at time 200. -/
def poolRun : List (Host × Call) :=
  [(⟨0, fun _ => true⟩, .init ⟨0⟩ ⟨8⟩ ⟨9⟩ 10000 1 0 0 1000),
   (⟨0, fun _ => true⟩, .stake ⟨1⟩ 31536000),
   (⟨100, fun _ => true⟩, .addRewards ⟨0⟩ 500),
   (⟨200, fun _ => true⟩, .claimRewards ⟨1⟩)]

theorem poolRun_reachable : Reachable 200 (exec State.empty poolRun) :=
  reachable_exec .empty poolRun (by simp [poolRun])

/-- After `poolRun` 200 of the 1500 are released. -/
theorem pool_bounded_after_run :
    Reachable 200 (exec State.empty poolRun) ∧
      (exec State.empty poolRun).rewardConfig.map (fun c => (c.totalRewardPool, c.remainingRewards)) =
        some (1500, 1300) ∧
      ∃ config, (exec State.empty poolRun).rewardConfig = some config ∧
        0 ≤ config.remainingRewards ∧ config.remainingRewards ≤ config.totalRewardPool :=
  ⟨poolRun_reachable, rfl, _, rfl, pool_bounded poolRun_reachable rfl⟩

/-! ## The pool never shrinks -/

/-- From `k` to `k'` the pool, once set, stays, and neither it, nor what it has released, nor
    the accumulator goes down. -/
structure PoolGrows (k k' : PoolKeys) : Prop where
  pool : ∀ total remaining, k.pool = some (total, remaining) →
    ∃ total' remaining', k'.pool = some (total', remaining') ∧ total ≤ total' ∧
      total - remaining ≤ total' - remaining'
  acc : k.acc ≤ k'.acc

namespace PoolGrows

variable {k k' k'' : PoolKeys}

theorem refl (k : PoolKeys) : PoolGrows k k :=
  ⟨fun t r h => ⟨t, r, h, le_rfl, le_rfl⟩, Nat.le_refl _⟩

theorem trans (h₁ : PoolGrows k k') (h₂ : PoolGrows k' k'') : PoolGrows k k'' where
  pool t r h :=
    let ⟨t', r', h', ht, hr⟩ := h₁.pool t r h
    let ⟨t'', r'', h'', ht', hr'⟩ := h₂.pool t' r' h'
    ⟨t'', r'', h'', ht.trans ht', hr.trans hr'⟩
  acc := Nat.le_trans h₁.acc h₂.acc

end PoolGrows

theorem PoolStep.grows {s s' : State} {c : Call} (h : PoolStep s c s') (hi : PoolInv (poolKeys s)) :
    PoolGrows (poolKeys s) (poolKeys s') := by
  cases h with
  | keep h => exact h ▸ .refl _
  | init _ _ _ _ _ _ _ _ h0 _ h =>
    obtain ⟨hp, ha⟩ := hi.fresh h0
    rw [h]
    exact ⟨fun _ _ h => by simp [hp] at h, by simp [ha]⟩
  | release config r x hc _ _ h =>
    rw [h]
    refine ⟨fun t rem hp => ?_, Nat.le_add_right _ _⟩
    simp only [poolKeys, hc, Option.map_some', Option.some.injEq, Prod.mk.injEq] at hp
    obtain ⟨rfl, rfl⟩ := hp
    exact ⟨_, _, rfl, le_rfl, by omega⟩
  | add _ amount config _ hc hpos h =>
    rw [h]
    refine ⟨fun t rem hp => ?_, Nat.le_refl _⟩
    simp only [poolKeys, hc, Option.map_some', Option.some.injEq, Prod.mk.injEq] at hp
    obtain ⟨rfl, rfl⟩ := hp
    exact ⟨_, _, rfl, by omega, by omega⟩

theorem poolGrows_exec {s : State} (hi : PoolInv (poolKeys s)) (cs : List (Host × Call)) :
    PoolGrows (poolKeys s) (poolKeys (exec s cs)) := by
  induction cs generalizing s with
  | nil => exact .refl _
  | cons hc cs ih =>
    have h := poolStep_apply hc.1 hc.2 s
    exact (h.grows hi).trans (ih (h.poolInv hi))

/-- Over every run from a reachable state, in any order of calls, the reward config once set
    stays, and the pool, what it has released and the accumulator never go down. -/
theorem pool_monotone {t : Nat} {s : State} (hs : Reachable t s) (cs : List (Host × Call)) :
    PoolGrows (poolKeys s) (poolKeys (exec s cs)) :=
  poolGrows_exec (reachable_poolInv hs) cs

theorem pool_monotone_after_run :
    Reachable 200 (exec State.empty poolRun) ∧
      PoolGrows (poolKeys (exec State.empty poolRun)) (poolKeys (exec (exec State.empty poolRun)
        [(⟨300, fun _ => true⟩, .setRewardRate ⟨0⟩ 0), (⟨400, fun _ => true⟩, .initiateUnstake ⟨1⟩ 1),
          (⟨50, fun _ => true⟩, .claimRewards ⟨1⟩)])) :=
  ⟨poolRun_reachable, pool_monotone poolRun_reachable _⟩

/-! ## Who funds the pool -/

/-- From a reachable state, a call that raises `total_reward_pool` is `add_rewards` by the
    stored admin, which raises `remaining_rewards` by the same amount. -/
theorem pool_funded_by_admin {t : Nat} {s : State} (hs : Reachable t s) (host : Host) (c : Call)
    {config config' : RewardConfig} (hc : s.rewardConfig = some config)
    (hc' : (c.apply host s).rewardConfig = some config')
    (hgrow : config.totalRewardPool < config'.totalRewardPool) :
    ∃ admin amount, c = .addRewards admin amount ∧ s.admin = some admin ∧
      config'.totalRewardPool = config.totalRewardPool + amount ∧
      config'.remainingRewards = config.remainingRewards + amount := by
  have hk : (poolKeys (c.apply host s)).pool = some (config'.totalRewardPool, config'.remainingRewards) := by
    simp [poolKeys, hc']
  cases poolStep_apply host c s with
  | keep h =>
    rw [h] at hk
    simp only [poolKeys, hc, Option.map_some', Option.some.injEq, Prod.mk.injEq] at hk
    omega
  | init _ _ _ _ _ _ _ _ h0 _ _ =>
    have := ((reachable_poolInv hs).fresh h0).1
    simp [poolKeys, hc] at this
  | release config₀ _ _ hc₀ _ _ h =>
    rw [hc] at hc₀
    cases hc₀
    simp [h] at hk
    omega
  | add admin amount config₀ ha hc₀ _ h =>
    rw [hc] at hc₀
    cases hc₀
    simp only [h, Option.some.injEq, Prod.mk.injEq] at hk
    exact ⟨admin, amount, rfl, ha, hk.1.symm, hk.2.symm⟩

theorem pool_funded_by_admin_after_run :
    let host : Host := ⟨300, fun _ => true⟩
    let c : Call := .addRewards ⟨0⟩ 250
    Reachable 200 (exec State.empty poolRun) ∧
      ∃ config config', (exec State.empty poolRun).rewardConfig = some config ∧
        (c.apply host (exec State.empty poolRun)).rewardConfig = some config' ∧
        config.totalRewardPool < config'.totalRewardPool ∧
        ∃ admin amount, c = .addRewards admin amount ∧
          (exec State.empty poolRun).admin = some admin ∧
          config'.totalRewardPool = config.totalRewardPool + amount ∧
          config'.remainingRewards = config.remainingRewards + amount :=
  ⟨poolRun_reachable, _, _, rfl, rfl, by decide,
    pool_funded_by_admin poolRun_reachable ⟨300, fun _ => true⟩ (.addRewards ⟨0⟩ 250) rfl rfl
      (by decide)⟩

end StellarInsured.Staking
