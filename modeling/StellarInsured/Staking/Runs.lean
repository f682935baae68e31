import StellarInsured.Staking.Contract

/-
  StellarInsured.Staking.Runs — runs of `GovernanceStakingContract`, each call at a
  ledger time no earlier than the one before, and the contract's reward accounting.

  Rewards are conserved when what was paid (`total_rewards_distributed`) and what the
  stakers are still owed (each position's set-aside `pending_rewards`, plus what its
  stake has accrued beyond its debt) is at most what the pool has released
  (`total_reward_pool - remaining_rewards`).

  Proved:
  - `updatePoolRewards_spec`: bringing the pool up to date writes only the
    accumulator, the reward config, which stays present or absent, and the reward time.
  - `initiateUnstake_owed`: every successful `initiate_unstake` sets what the stake has
    accrued aside in `pending_rewards` and leaves `reward_debt` as it was, so the
    position is owed its accrued rewards twice.
  - `rewards_overpaid`: from a fresh contract, `initialize`, `stake`,
    `initiate_unstake` and `claim_rewards` pay out 198 of the 100 the pool released.
  - `pool_update_overflows`: with a pool and a stake of `10^27`, the unchecked
    `actual_reward * REWARD_PRECISION` passes `u128::MAX` and every call that updates
    the pool traps.
  - `claim_pays_once`: from every state, a successful `claim_rewards` leaves its caller
    nothing to claim in the same ledger. The pool update it runs settles the pool at that
    time (`poolSettled`), and the claim zeroes the position's `pending_rewards` and sets
    its debt to what its stake has accrued, so a second claim at that time is refused
    with `NoRewardsToClaim`.
-/

namespace StellarInsured.Staking

/-- The entry points that write storage. -/
inductive Call where
  | init (admin governanceToken rewardToken : Address) (baseRewardRateBps : Nat)
      (minStakeAmount : Int) (minStakePeriod unstakeCooldown : Nat) (initialRewardPool : Int)
  | stake (user : Address) (amount : Int)
  | initiateUnstake (user : Address) (amount : Int)
  | completeUnstake (user : Address)
  | claimRewards (user : Address)
  | delegate (delegator delegatee : Address) (amount : Int)
  | undelegate (delegator : Address)
  | addRewards (admin : Address) (amount : Int)
  | setRewardRate (admin : Address) (newRateBps : Nat)
  | setPaused (admin : Address) (paused : Bool)
  | getPendingRewards (user : Address)
  deriving DecidableEq, Repr

/-- The storage a call leaves, run from `s`. -/
def Call.apply (host : Host) : Call → State → State
  | .init a g r rate m p c pool, s => (Staking.init host a g r rate m p c pool s).after s
  | .stake u x, s => (Staking.stake host u x s).after s
  | .initiateUnstake u x, s => (Staking.initiateUnstake host u x s).after s
  | .completeUnstake u, s => (Staking.completeUnstake host u s).after s
  | .claimRewards u, s => (Staking.claimRewards host u s).after s
  | .delegate d e x, s => (Staking.delegate host d e x s).after s
  | .undelegate d, s => (Staking.undelegate host d s).after s
  | .addRewards a x, s => (Staking.addRewards host a x s).after s
  | .setRewardRate a r, s => (Staking.setRewardRate host a r s).after s
  | .setPaused a p, s => (Staking.setPaused host a p s).after s
  | .getPendingRewards u, s => (Staking.getPendingRewards host u s).after s

/-- A freshly deployed contract: no key is set. -/
def State.empty : State :=
  ⟨none, none, none, none, none, none, none, fun _ => none, ∅, fun _ => none⟩

/-- The states a deployed contract reaches by ledger time `t`, each call made no
    earlier than the one before. -/
inductive Reachable : Nat → State → Prop
  | empty : Reachable 0 State.empty
  | step {t : Nat} {s : State} (host : Host) (c : Call) :
      Reachable t s → t ≤ host.timestamp → Reachable host.timestamp (c.apply host s)

/-- The state a list of calls leaves, run in order from `s`. -/
def exec : State → List (Host × Call) → State
  | s, [] => s
  | s, (host, c) :: cs => exec (c.apply host s) cs

/-- Calls made at non-decreasing times from a reachable state reach the state `exec` leaves,
    at the time of the last call. -/
theorem reachable_exec {t : Nat} {s : State} (hs : Reachable t s) (cs : List (Host × Call))
    (h : List.Chain (· ≤ ·) t (cs.map (·.1.timestamp))) :
    Reachable ((cs.map (·.1.timestamp)).getLast?.getD t) (exec s cs) := by
  induction cs generalizing t s with
  | nil => exact hs
  | cons hc cs ih =>
    obtain ⟨hle, hcs⟩ := List.chain_cons.1 h
    simpa [List.getLast?_cons] using ih (.step hc.1 hc.2 hs hle) hcs

/-! ## Reward accounting -/

/-- `stats.total_rewards_distributed`. -/
def rewardsDistributed (s : State) : Int := (s.stats.map (·.totalRewardsDistributed)).getD 0

/-- What a position is owed: the rewards it has set aside and what its stake has accrued
    beyond its debt. -/
def owed (s : State) (user : Address) (position : StakingPosition) : Int :=
  position.pendingRewards + pendingRewards s user

/-- What all positions are owed. -/
def rewardsOwed (s : State) : Int := (s.positions.entries.map fun e => owed s e.1 e.2).sum

/-- `total_reward_pool - remaining_rewards`: what the pool has released. -/
def rewardsReleased (s : State) : Int :=
  match s.rewardConfig with
  | none => 0
  | some config => config.totalRewardPool - config.remainingRewards

/-- Paid and owed rewards together within what the pool released. -/
def RewardsConserved (s : State) : Prop :=
  rewardsDistributed s + rewardsOwed s ≤ rewardsReleased s

instance : DecidablePred RewardsConserved := fun s =>
  inferInstanceAs (Decidable (rewardsDistributed s + rewardsOwed s ≤ rewardsReleased s))

/-! ## What a call writes -/

section Writes

variable {host : Host} {user : Address} {s s' : State}

/-- Bringing the pool up to date writes only the accumulator, the reward config, which
    stays present or absent, and the reward time. -/
theorem updatePoolRewards_spec {s₁ : State} (h : updatePoolRewards host s = some s₁) :
    ∃ acc config t, config.isSome = s.rewardConfig.isSome ∧ s₁ = { s with
      accRewardPerShare := acc, rewardConfig := config, lastRewardTime := t } := by
  simp only [updatePoolRewards] at h
  repeat' split at h
  -- the accrual writes the accumulator and the config, every other branch at most the time
  case' h_2.isFalse.isFalse.isFalse.isTrue =>
    simp only [Option.bind_eq_bind, Option.bind_eq_some] at h
    obtain ⟨_, -, _, -, _, -, h⟩ := h
  all_goals cases h; exact ⟨_, _, _, by simp [*], rfl⟩

/-- Bringing the pool up to date writes only the accumulator, the reward config and the
    reward time. -/
theorem updatePoolRewards_eq_some {s₁ : State} (h : updatePoolRewards host s = some s₁) :
    ∃ acc config t, s₁ = { s with
      accRewardPerShare := acc, rewardConfig := config, lastRewardTime := t } :=
  let ⟨acc, config, t, _, h⟩ := updatePoolRewards_spec h
  ⟨acc, config, t, h⟩

theorem updatePoolRewards_positions {s₁ : State} (h : updatePoolRewards host s = some s₁) :
    s₁.positions = s.positions := by
  obtain ⟨_, _, _, rfl⟩ := updatePoolRewards_eq_some h
  rfl

@[simp] theorem pendingRewards_of_lookup {position : StakingPosition}
    (h : s.positions.lookup user = some position) :
    pendingRewards s user = saturatingSubI128
      (accrued position.stakedAmount (getAccRewardPerShare s)) position.rewardDebt := by
  simp [pendingRewards, h]

/-- A successful `initiate_unstake` found the caller's position and the config, and made
    its writes. -/
theorem initiateUnstake_eq_ok {amount : Int} {unlockAt : Nat}
    (h : initiateUnstake host user amount s = .ret (.ok unlockAt) s') :
    ∃ position config, s.positions.lookup user = some position ∧ s.rewardConfig = some config ∧
      recordUnstake host user config position s = some (unlockAt, s') := by
  simp only [initiateUnstake, authorized_eq_ret] at h
  obtain ⟨-, h⟩ := h
  repeat' split at h
  all_goals try cases h
  exact ⟨_, _, ‹_›, ‹_›, trapping_eq_ok.1 h⟩

/-- `initiate_unstake`'s writes: after the pool update, the position keeps its stake and
    its debt, and sets its accrued rewards aside. -/
theorem recordUnstake_eq_some {config : RewardConfig} {position : StakingPosition} {unlockAt : Nat}
    (h : recordUnstake host user config position s = some (unlockAt, s')) :
    ∃ s₁, updatePoolRewards host s = some s₁ ∧ s'.rewardConfig = s₁.rewardConfig ∧
      s'.accRewardPerShare = s₁.accRewardPerShare ∧
      s'.positions = s₁.positions.insert user { position with
        pendingRewards := position.pendingRewards + pendingRewards s₁ user
        lockEndTime := unlockAt } := by
  simp only [recordUnstake, Option.bind_eq_bind, Option.bind_eq_some] at h
  obtain ⟨s₁, hs₁, p, hp, u, hu, h⟩ := h
  obtain ⟨-, rfl⟩ := addI128_eq_some.1 hp
  obtain ⟨-, rfl⟩ := addU_eq_some.1 hu
  cases h
  exact ⟨s₁, hs₁, rfl, rfl, rfl⟩

/-- `initiate_unstake` sets what the stake has accrued aside in `pending_rewards` and keeps
    `reward_debt`, from which the accrual is measured: the position is then owed its accrued
    rewards twice, while the call releases nothing beyond the pool update. -/
theorem initiateUnstake_owed {amount : Int} {unlockAt : Nat}
    (h : initiateUnstake host user amount s = .ret (.ok unlockAt) s') :
    ∃ s₁ position position', updatePoolRewards host s = some s₁ ∧
      s₁.positions.lookup user = some position ∧ s'.positions.lookup user = some position' ∧
      position'.rewardDebt = position.rewardDebt ∧ rewardsReleased s' = rewardsReleased s₁ ∧
      owed s' user position' = owed s₁ user position + pendingRewards s₁ user := by
  obtain ⟨position, config, hpos, -, hw⟩ := initiateUnstake_eq_ok h
  obtain ⟨s₁, hs₁, hcfg, hacc, hpositions⟩ := recordUnstake_eq_some hw
  have hpos₁ : s₁.positions.lookup user = some position := by
    rw [updatePoolRewards_positions hs₁, hpos]
  have hlookup := (congrArg (Finmap.lookup user) hpositions).trans (Finmap.lookup_insert _)
  have hacc' : getAccRewardPerShare s' = getAccRewardPerShare s₁ :=
    congrArg (Option.getD · 0) hacc
  -- the stake and the debt are kept, so the accrual is still there to be counted again
  have hP : pendingRewards s' user = pendingRewards s₁ user := by
    rw [pendingRewards_of_lookup hlookup, pendingRewards_of_lookup hpos₁, hacc']
  refine ⟨s₁, position, _, hs₁, hpos₁, hlookup, rfl, by simp only [rewardsReleased, hcfg], ?_⟩
  simp only [owed, hP]

end Writes

/-! ## One claim per ledger time -/

section Claims

variable {host : Host} {user : Address} {s s' s₁ : State}

/-- The pool needs no update at the time of `host`: no config, rewards off or used up,
    or the reward time not behind the ledger's, the three early returns of
    `update_pool_rewards`. -/
def poolSettled (host : Host) (s : State) : Bool :=
  match s.rewardConfig with
  | none => true
  | some config => (!config.rewardsEnabled || config.remainingRewards ≤ 0) ||
      host.timestamp ≤ getLastRewardTime host s

theorem updatePoolRewards_of_poolSettled (h : poolSettled host s = true) :
    updatePoolRewards host s = some s := by
  cases hc : s.rewardConfig with
  | none => simp [updatePoolRewards, hc]
  | some config =>
    simp only [poolSettled, hc] at h
    simp only [updatePoolRewards, hc]
    by_cases h₁ : (!config.rewardsEnabled || decide (config.remainingRewards ≤ 0)) = true
    · rw [if_pos h₁]
    · rw [if_neg h₁, if_pos (of_decide_eq_true ((Bool.or_eq_true_iff.1 h).resolve_left h₁))]

theorem poolSettled_of_lastRewardTime (h : s.lastRewardTime = some host.timestamp) :
    poolSettled host s = true := by
  unfold poolSettled
  split <;> simp [getLastRewardTime, h]

/-- Bringing the pool up to date settles it at that time, and keeps `rewards_enabled`. -/
theorem updatePoolRewards_settles (h : updatePoolRewards host s = some s₁) :
    poolSettled host s₁ = true ∧
      s₁.rewardConfig.map (·.rewardsEnabled) = s.rewardConfig.map (·.rewardsEnabled) := by
  simp only [updatePoolRewards] at h
  split at h
  · cases h
    simp [poolSettled, *]
  rename_i config hc
  split_ifs at h with h₁ h₂
  · cases h
    simp [poolSettled, hc, h₁]
  · cases h
    simp [poolSettled, hc, h₂]
  all_goals first
    | (cases h; exact ⟨poolSettled_of_lastRewardTime rfl, rfl⟩)
    | (simp only [Option.bind_eq_bind, Option.bind_eq_some] at h
       obtain ⟨_, -, _, -, _, -, h⟩ := h
       cases h
       exact ⟨poolSettled_of_lastRewardTime rfl, by simp [hc]⟩)

/-- A successful `claim_rewards` found the config with rewards on, brought the pool up to
    date, found the caller's position and made its writes. -/
theorem claimRewards_eq_ok {r : Int} (h : claimRewards host user s = .ret (.ok r) s') :
    ∃ config s₁ position total, s.rewardConfig = some config ∧ config.rewardsEnabled = true ∧
      updatePoolRewards host s = some s₁ ∧ s₁.positions.lookup user = some position ∧
      recordClaim host user position total s₁ = some (r, s') := by
  simp only [claimRewards, authorized_eq_ret] at h
  obtain ⟨-, h⟩ := h
  split at h; · cases h
  rename_i config hc
  split at h; · cases h
  rename_i hen
  split at h; · cases h
  rename_i s₁ hs₁
  split at h; · cases h
  rename_i position hpos
  split at h; · cases h
  split at h; · cases h
  exact ⟨config, s₁, position, _, hc, by simpa using hen, hs₁, hpos, trapping_eq_ok.1 h⟩

/-- `claim_rewards`' writes: the position owes nothing more at the accumulator it leaves,
    and the config, the reward time and the accumulator are kept. -/
theorem recordClaim_eq_some {position : StakingPosition} {total r : Int}
    (h : recordClaim host user position total s = some (r, s')) :
    s'.rewardConfig = s.rewardConfig ∧ s'.lastRewardTime = s.lastRewardTime ∧
      getAccRewardPerShare s' = getAccRewardPerShare s ∧
      s'.positions.lookup user = some { position with
        pendingRewards := 0, rewardDebt := accrued position.stakedAmount (getAccRewardPerShare s) } := by
  simp only [recordClaim, Option.bind_eq_bind, Option.bind_eq_some] at h
  obtain ⟨_, -, h⟩ := h
  cases h
  exact ⟨rfl, rfl, rfl, Finmap.lookup_insert _⟩

/-- With the pool settled, a position owed nothing is refused its claim, which writes
    nothing. -/
theorem claimRewards_of_settled (ha : host.authorizes user = true) {config : RewardConfig}
    (hc : s.rewardConfig = some config) (hen : config.rewardsEnabled = true)
    (hp : poolSettled host s = true) {position : StakingPosition}
    (hpos : s.positions.lookup user = some position) (hz : position.pendingRewards = 0)
    (hd : position.rewardDebt = accrued position.stakedAmount (getAccRewardPerShare s)) :
    claimRewards host user s = .ret (.error .noRewardsToClaim) s := by
  have hpend : pendingRewards s user = 0 := by
    rw [pendingRewards_of_lookup hpos, hd]
    unfold saturatingSubI128 i128Min i128Max
    omega
  have hsum : addI128 position.pendingRewards (pendingRewards s user) = some 0 := by
    rw [hz, hpend]
    rfl
  simp only [claimRewards, authorized, ha, hc, hen, updatePoolRewards_of_poolSettled hp, hpos,
    hsum, if_true, Bool.not_true, Bool.false_eq_true, if_false, le_refl]

/-- From every state, a successful `claim_rewards` leaves its caller nothing to claim in the
    same ledger: a second claim signed by the caller at the same ledger time is refused with
    `NoRewardsToClaim` and writes nothing. -/
theorem claim_pays_once {host' : Host} {r : Int} (h : claimRewards host user s = .ret (.ok r) s')
    (ht : host'.timestamp = host.timestamp) (ha : host'.authorizes user = true) :
    claimRewards host' user s' = .ret (.error .noRewardsToClaim) s' := by
  obtain ⟨config, s₁, position, total, hc, hen, hs₁, -, hw⟩ := claimRewards_eq_ok h
  obtain ⟨hc', htime, hacc, hpos⟩ := recordClaim_eq_some hw
  obtain ⟨hp, hen₁⟩ := updatePoolRewards_settles hs₁
  obtain ⟨config₁, hc₁, hen'⟩ := Option.map_eq_some'.1 (hen₁.trans (by rw [hc]; rfl))
  -- the claim writes neither the config nor the reward time, which the settlement reads
  have hp' : poolSettled host' s' = true := by
    rw [← hp]
    simp only [poolSettled, getLastRewardTime, hc', htime, ht]
  exact claimRewards_of_settled ha (hc'.trans hc₁) (hen'.trans hen) hp' hpos rfl (by rw [hacc])

/-- A stake of one year's seconds at the full rate, so the pool releases one unit a
    second. -/
def claimRun : List (Host × Call) :=
  [(⟨0, fun _ => true⟩, .init ⟨0⟩ ⟨8⟩ ⟨9⟩ 10000 1 0 0 1000),
   (⟨0, fun _ => true⟩, .stake ⟨1⟩ 31536000)]

/-- After 100 seconds the stake claims 99, the accumulator rounding down; a second claim in
    that ledger is refused. -/
theorem claim_pays_once_at_hundred :
    let host : Host := ⟨100, fun _ => true⟩
    let s : State := exec State.empty claimRun
    let s' : State := (claimRewards host ⟨1⟩ s).after s
    (claimRewards host ⟨1⟩ s = .ret (.ok 99) s' ∧ host.timestamp = host.timestamp ∧
      host.authorizes ⟨1⟩ = true) ∧
      claimRewards host ⟨1⟩ s' = .ret (.error .noRewardsToClaim) s' :=
  have hc : claimRewards ⟨100, fun _ => true⟩ ⟨1⟩ (exec State.empty claimRun) =
      .ret (.ok 99) ((claimRewards ⟨100, fun _ => true⟩ ⟨1⟩ (exec State.empty claimRun)).after
        (exec State.empty claimRun)) := by rfl
  ⟨⟨hc, rfl, rfl⟩, claim_pays_once hc rfl rfl⟩

end Claims

/-! ## Rewards paid beyond the pool -/

/-- The run of `rewards_overpaid`: a stake of one year's seconds, at the full rate, so the
    pool releases one unit a second. -/
def overpaidRun : List (Host × Call) :=
  [(⟨0, fun _ => true⟩, .init ⟨0⟩ ⟨8⟩ ⟨9⟩ 10000 1 0 0 1000),
   (⟨0, fun _ => true⟩, .stake ⟨1⟩ 31536000),
   (⟨100, fun _ => true⟩, .initiateUnstake ⟨1⟩ 1),
   (⟨100, fun _ => true⟩, .claimRewards ⟨1⟩)]

/-- `initiate_unstake` counts an accrual twice and `claim_rewards` pays both: a stake held
    100 seconds claims 198 of the 100 the pool released. -/
theorem rewards_overpaid :
    let s : State := exec State.empty overpaidRun
    Reachable 100 s ∧ ¬ RewardsConserved s ∧
      rewardsDistributed s = 198 ∧ rewardsReleased s = 100 :=
  ⟨reachable_exec .empty overpaidRun (by simp [overpaidRun]), by decide, by decide, by decide⟩

/-! ## A pool update past `u128` -/

/-- The run of `pool_update_overflows`: a pool and a stake of `10^27` each, a billion
    tokens of 18 decimals, at the full rate. -/
def largePoolRun : List (Host × Call) :=
  [(⟨0, fun _ => true⟩, .init ⟨0⟩ ⟨8⟩ ⟨9⟩ 10000 1 0 0 (10 ^ 27 : Nat)),
   (⟨0, fun _ => true⟩, .stake ⟨1⟩ (10 ^ 27 : Nat))]

/-- After `2·10^7` seconds the period's reward is about `6.3·10^26`, which
    `* REWARD_PRECISION` takes past `u128::MAX`: `update_pool_rewards` traps, and with it
    every call that brings the pool up to date. -/
theorem pool_update_overflows :
    let s : State := exec State.empty largePoolRun
    let host : Host := ⟨20000000, fun _ => true⟩
    Reachable 0 s ∧ updatePoolRewards host s = none ∧ stake host ⟨1⟩ 1 s = .abort ∧
      initiateUnstake host ⟨1⟩ 1 s = .abort ∧ claimRewards host ⟨1⟩ s = .abort ∧
      setRewardRate host ⟨0⟩ 100 s = .abort ∧ getPendingRewards host ⟨1⟩ s = .abort :=
  ⟨reachable_exec .empty largePoolRun (by simp [largePoolRun]), rfl, rfl, rfl, rfl, rfl, rfl⟩

end StellarInsured.Staking
