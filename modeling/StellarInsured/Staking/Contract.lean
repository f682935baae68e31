import StellarInsured.Host
import Mathlib.Data.Finmap

/-
  StellarInsured.Staking.Contract — `GovernanceStakingContract`
  (contracts/governance_staking/src/lib.rs): stakes of the governance token, their
  unstaking after a cooldown, rewards from a pool released at a rate in basis points,
  and delegations of voting weight.

  Rewards accrue per share: `update_pool_rewards` releases `total_staked * rate * time /
  (10000 * seconds per year)` from the pool, at most what remains, and adds it, scaled
  by `REWARD_PRECISION`, to `ACC_RPS` per staked unit. A position owes
  `staked_amount * ACC_RPS / REWARD_PRECISION - reward_debt` (`pending_rewards`), plus
  the rewards it has set aside (`position.pending_rewards`).

  Amounts are `i128` and the accumulator `u128`: their `+`, `-` and `*` trap on
  overflow, a `checked_*` that fails gives its `unwrap_or` default, and `as` keeps the
  bits (`i128AsU128`, `u128AsI128`). A token transfer that fails aborts the invocation,
  which leaves storage as it was: the runs need not choose, and the transfers are left
  out. The positions are a finite map, their keys the stakers.

  `RewardConfig`, `StakingPosition`, `StakingStats`, `StakeInfo` and `VoteDelegation`
  come from the `shared` crate, whose source for them is not in the repository: their
  fields are the ones this contract reads and writes, `total_stakers` a `u32`.
  `initialize` builds its `RewardConfig` without the `min_stake_amount` that `stake`
  reads; here the config keeps `initialize`'s `min_stake_amount` argument.
-/

namespace StellarInsured.Staking

/-- `BPS_DENOMINATOR`. -/
def bpsDenominator : Nat := 10000

/-- `REWARD_PRECISION`. -/
def rewardPrecision : Nat := 1000000000000

/-- `seconds_per_year` of `update_pool_rewards`. -/
def secondsPerYear : Nat := 365 * 24 * 60 * 60

inductive ContractError where
  | unauthorized
  | paused
  | invalidInput
  | insufficientBalance
  | notFound
  | alreadyExists
  | invalidState
  | notInitialized
  | alreadyInitialized
  | stakeLocked
  | noRewardsToClaim
  | cooldownNotComplete
  | alreadyDelegated
  | selfDelegation
  | rewardsDisabled
  | insufficientStake
  deriving DecidableEq, Repr

/-- The shared crate's `RewardConfig`, with the minimum stake `stake` reads. -/
structure RewardConfig where
  rewardToken : Address
  baseRewardRateBps : Nat
  loyaltyBonusBps : Nat
  minStakeAmount : Int
  minStakePeriod : Nat
  unstakeCooldown : Nat
  rewardsEnabled : Bool
  totalRewardPool : Int
  remainingRewards : Int
  lastUpdate : Nat
  deriving DecidableEq, Repr

structure StakingPosition where
  user : Address
  stakedAmount : Int
  rewardDebt : Int
  stakeStartTime : Nat
  lockEndTime : Nat
  pendingRewards : Int
  deriving DecidableEq, Repr

structure StakingStats where
  totalStakers : Nat
  totalStaked : Int
  totalRewardsDistributed : Int
  avgStakeDuration : Nat
  lastUpdate : Nat
  deriving DecidableEq, Repr

structure StakeInfo where
  staker : Address
  amount : Int
  stakedAt : Nat
  lastClaimAt : Nat
  pendingRewards : Int
  isLocked : Bool
  unlockAt : Option Nat
  votingPowerMultiplier : Nat
  deriving DecidableEq, Repr

structure VoteDelegation where
  delegator : Address
  delegatee : Address
  amount : Int
  delegatedAt : Nat
  isActive : Bool
  deriving DecidableEq, Repr

/-- The contract's persistent storage. -/
structure State where
  admin : Option Address
  paused : Option Bool
  govToken : Option Address
  rewardConfig : Option RewardConfig
  stats : Option StakingStats
  accRewardPerShare : Option Nat
  lastRewardTime : Option Nat
  stakeInfo : Address → Option StakeInfo
  positions : Finmap fun _ : Address => StakingPosition
  delegations : Address → Option VoteDelegation

/-! ## Helpers -/

def isPaused (s : State) : Bool := s.paused.getD false

/-- `get_staking_stats`: zeros, stamped now, before `initialize`. -/
def getStakingStats (host : Host) (s : State) : StakingStats :=
  s.stats.getD ⟨0, 0, 0, 0, host.timestamp⟩

def getAccRewardPerShare (s : State) : Nat := s.accRewardPerShare.getD 0

def getLastRewardTime (host : Host) (s : State) : Nat := s.lastRewardTime.getD host.timestamp

/-- `((staked_amount as u128).checked_mul(acc).unwrap_or(0) / REWARD_PRECISION) as i128`:
    what a stake has accrued at accumulator `acc`. -/
def accrued (stakedAmount : Int) (acc : Nat) : Int :=
  u128AsI128 ((mulU 128 (i128AsU128 stakedAmount) acc).getD 0 / rewardPrecision)

def calculateVotingPowerMultiplier (stakeDuration : Nat) : Nat :=
  100 + min (stakeDuration / secondsPerYear * 10) 200

/-- `total_staked * rate * time / BPS / seconds_per_year` on `u128`, 0 on overflow. -/
def periodReward (totalStaked : Int) (rate timeElapsed : Nat) : Nat :=
  ((mulU 128 (i128AsU128 totalStaked) rate).bind fun v => mulU 128 v timeElapsed).elim 0
    fun v => v / bpsDenominator / secondsPerYear

/-- `update_pool_rewards`; `none` is an overflow of the accumulator. -/
def updatePoolRewards (host : Host) (s : State) : Option State :=
  match s.rewardConfig with
  | none => some s
  | some config =>
    if !config.rewardsEnabled || config.remainingRewards ≤ 0 then some s
    else
      let currentTime := host.timestamp
      let lastTime := getLastRewardTime host s
      if currentTime ≤ lastTime then some s
      else
        let stats := getStakingStats host s
        if stats.totalStaked ≤ 0 then some { s with lastRewardTime := some currentTime }
        else
          let totalReward := periodReward stats.totalStaked config.baseRewardRateBps
            (currentTime - lastTime)
          let actualReward := min totalReward (i128AsU128 config.remainingRewards)
          if actualReward > 0 then do
            let scaled ← mulU 128 actualReward rewardPrecision
            let acc ← addU 128 (getAccRewardPerShare s) (scaled / i128AsU128 stats.totalStaked)
            let remaining ← subI128 config.remainingRewards (u128AsI128 actualReward)
            return { s with
              accRewardPerShare := some acc
              rewardConfig := some { config with
                remainingRewards := remaining
                lastUpdate := currentTime }
              lastRewardTime := some currentTime }
          else some { s with lastRewardTime := some currentTime }

/-- `pending_rewards`: what the user's stake has accrued beyond its debt. -/
def pendingRewards (s : State) (user : Address) : Int :=
  match s.positions.lookup user with
  | none => 0
  | some position =>
    saturatingSubI128 (accrued position.stakedAmount (getAccRewardPerShare s)) position.rewardDebt

/-- `stored_admin` read and compared, as `add_rewards`, `set_reward_rate` and
    `set_paused` do. -/
def checkAdmin (s : State) (admin : Address) : Except ContractError Unit :=
  match s.admin with
  | none => .error .notInitialized
  | some stored => if admin ≠ stored then .error .unauthorized else .ok ()

/-! ## Entry points -/

/-- `initialize` (a keyword of Lean). -/
def init (host : Host) (admin governanceToken rewardToken : Address) (baseRewardRateBps : Nat)
    (minStakeAmount : Int) (minStakePeriod unstakeCooldown : Nat) (initialRewardPool : Int)
    (s : State) : Outcome ContractError Unit State :=
  if s.admin.isSome then .ret (.error .alreadyInitialized) s
  else authorized host admin <|
    if baseRewardRateBps > 10000 then .ret (.error .invalidInput) s
    else if minStakeAmount ≤ 0 then .ret (.error .invalidInput) s
    else if initialRewardPool < 0 then .ret (.error .invalidInput) s
    else .ret (.ok ()) { s with
      admin := some admin
      govToken := some governanceToken
      rewardConfig := some ⟨rewardToken, baseRewardRateBps, 100, minStakeAmount, minStakePeriod,
        unstakeCooldown, initialRewardPool > 0, initialRewardPool, initialRewardPool, host.timestamp⟩
      stats := some ⟨0, 0, 0, 0, host.timestamp⟩
      accRewardPerShare := some 0
      lastRewardTime := some host.timestamp }

/-- The writes of `stake`, after the pool is brought up to date. -/
def recordStake (host : Host) (user : Address) (amount : Int) (s : State) :
    Option (Unit × State) := do
  let currentTime := host.timestamp
  let stats := getStakingStats host s
  let position := (s.positions.lookup user).getD ⟨user, 0, 0, currentTime, 0, 0⟩
  let pendingRewards ← addI128 position.pendingRewards (pendingRewards s user)
  let stakedAmount ← addI128 position.stakedAmount amount
  let position := { position with
    pendingRewards := pendingRewards
    stakedAmount := stakedAmount
    rewardDebt := accrued stakedAmount (getAccRewardPerShare s) }
  let stakeDuration ← (if position.stakedAmount > amount then
      subU currentTime position.stakeStartTime
    else some 0 : Option Nat)
  let stakeInfo : StakeInfo := ⟨user, position.stakedAmount, position.stakeStartTime, currentTime,
    position.pendingRewards, false, none, calculateVotingPowerMultiplier stakeDuration⟩
  let totalStakers ← (if position.stakedAmount = amount then addU 32 stats.totalStakers 1
    else some stats.totalStakers : Option Nat)
  let totalStaked ← addI128 stats.totalStaked amount
  let _ ← s.govToken
  return ((), { s with
    positions := s.positions.insert user position
    stakeInfo := Function.update s.stakeInfo user (some stakeInfo)
    stats := some { stats with
      totalStakers := totalStakers
      totalStaked := totalStaked
      lastUpdate := currentTime } })

def stake (host : Host) (user : Address) (amount : Int) (s : State) :
    Outcome ContractError Unit State :=
  authorized host user <| checked s
    (do
      if isPaused s then throw .paused
      if amount ≤ 0 then throw .invalidInput
      let config ← okOr s.rewardConfig .notInitialized
      if amount < config.minStakeAmount then throw .invalidInput)
    fun _ => do
      let s ← updatePoolRewards host s
      recordStake host user amount s

/-- The writes of `initiate_unstake`: the pending rewards set aside, the unlock time. -/
def recordUnstake (host : Host) (user : Address) (config : RewardConfig) (position : StakingPosition)
    (s : State) : Option (Nat × State) := do
  let s ← updatePoolRewards host s
  let pendingRewards ← addI128 position.pendingRewards (pendingRewards s user)
  let unlockAt ← addU 64 host.timestamp config.unstakeCooldown
  let position := { position with pendingRewards := pendingRewards, lockEndTime := unlockAt }
  return (unlockAt, { s with
    positions := s.positions.insert user position
    stakeInfo := match s.stakeInfo user with
      | some info =>
        Function.update s.stakeInfo user
          (some { info with isLocked := true, unlockAt := some unlockAt })
      | none => s.stakeInfo })

def initiateUnstake (host : Host) (user : Address) (amount : Int) (s : State) :
    Outcome ContractError Nat State :=
  authorized host user <|
    if amount ≤ 0 then .ret (.error .invalidInput) s
    else
      match s.positions.lookup user with
      | none => .ret (.error .notFound) s
      | some position =>
        if position.stakedAmount < amount then .ret (.error .insufficientBalance) s
        else
          match s.rewardConfig with
          | none => .ret (.error .notInitialized) s
          | some config =>
            match subU host.timestamp position.stakeStartTime with
            | none => .abort
            | some stakeDuration =>
              if stakeDuration < config.minStakePeriod then .ret (.error .stakeLocked) s
              else trapping (recordUnstake host user config position s)

/-- `total_rewards_distributed += rewards_to_claim` of `complete_unstake`, made only when
    rewards are paid, after `get_reward_config(&env).unwrap()`. -/
def payRewards (config : Option RewardConfig) (rewards : Int) (stats : StakingStats) :
    Option StakingStats :=
  if rewards > 0 then
    config.bind fun _ => (addI128 stats.totalRewardsDistributed rewards).map fun distributed =>
      { stats with totalRewardsDistributed := distributed }
  else some stats

/-- The writes of `complete_unstake`: the position and its stake info removed, the
    stats updated, the rewards paid counted. -/
def recordCompleteUnstake (host : Host) (user : Address) (position : StakingPosition) (s : State) :
    Option (Int × State) := do
  let s ← updatePoolRewards host s
  let rewardsToClaim ← addI128 position.pendingRewards (pendingRewards s user)
  let unstakeAmount := position.stakedAmount
  let stats := getStakingStats host s
  let totalStakers ← subU stats.totalStakers 1
  let totalStaked ← subI128 stats.totalStaked unstakeAmount
  let stats := { stats with
    totalStakers := totalStakers
    totalStaked := totalStaked
    lastUpdate := host.timestamp }
  let _ ← s.govToken
  let stats ← payRewards s.rewardConfig rewardsToClaim stats
  return (unstakeAmount, { s with
    positions := s.positions.erase user
    stakeInfo := Function.update s.stakeInfo user none
    stats := some stats })

def completeUnstake (host : Host) (user : Address) (s : State) : Outcome ContractError Int State :=
  authorized host user <| checked s
    (do
      let position ← okOr (s.positions.lookup user) .notFound
      if position.lockEndTime = 0 ∨ host.timestamp < position.lockEndTime then
        throw .cooldownNotComplete
      return position)
    fun position => recordCompleteUnstake host user position s

/-- The writes of `claim_rewards`: the rewards paid out, the debt reset. -/
def recordClaim (host : Host) (user : Address) (position : StakingPosition) (totalRewards : Int)
    (s : State) : Option (Int × State) := do
  let position := { position with
    pendingRewards := 0
    rewardDebt := accrued position.stakedAmount (getAccRewardPerShare s) }
  let stats := getStakingStats host s
  let distributed ← addI128 stats.totalRewardsDistributed totalRewards
  return (totalRewards, { s with
    positions := s.positions.insert user position
    stakeInfo := match s.stakeInfo user with
      | some info => Function.update s.stakeInfo user
        (some { info with pendingRewards := 0, lastClaimAt := host.timestamp })
      | none => s.stakeInfo
    stats := some { stats with totalRewardsDistributed := distributed } })

/-- `claim_rewards`. The pool is brought up to date before the position is read, so
    its `NotFound` and `NoRewardsToClaim` keep that write. -/
def claimRewards (host : Host) (user : Address) (s : State) : Outcome ContractError Int State :=
  authorized host user <|
    match s.rewardConfig with
    | none => .ret (.error .notInitialized) s
    | some config =>
      if !config.rewardsEnabled then .ret (.error .rewardsDisabled) s
      else
        match updatePoolRewards host s with
        | none => .abort
        | some s =>
          match s.positions.lookup user with
          | none => .ret (.error .notFound) s
          | some position =>
            match addI128 position.pendingRewards (pendingRewards s user) with
            | none => .abort
            | some totalRewards =>
              if totalRewards ≤ 0 then .ret (.error .noRewardsToClaim) s
              else trapping (recordClaim host user position totalRewards s)

def delegate (host : Host) (delegator delegatee : Address) (amount : Int) (s : State) :
    Outcome ContractError Unit State :=
  authorized host delegator <| checked s
    (do
      if delegator = delegatee then throw .selfDelegation
      if amount ≤ 0 then throw .invalidInput
      let position ← okOr (s.positions.lookup delegator) .notFound
      if position.stakedAmount < amount then throw .insufficientStake
      if (s.delegations delegator).isSome then throw .alreadyDelegated)
    fun _ => some ((), { s with
      delegations := Function.update s.delegations delegator
        (some ⟨delegator, delegatee, amount, host.timestamp, true⟩) })

def undelegate (host : Host) (delegator : Address) (s : State) : Outcome ContractError Unit State :=
  authorized host delegator <| checked s
    (if (s.delegations delegator).isNone then throw .notFound else pure ())
    fun _ => some ((), { s with delegations := Function.update s.delegations delegator none })

def addRewards (host : Host) (admin : Address) (amount : Int) (s : State) :
    Outcome ContractError Unit State :=
  authorized host admin <| checked s
    (do
      checkAdmin s admin
      if amount ≤ 0 then throw .invalidInput
      okOr s.rewardConfig .notInitialized)
    fun config => do
      let totalRewardPool ← addI128 config.totalRewardPool amount
      let remainingRewards ← addI128 config.remainingRewards amount
      return ((), { s with
        rewardConfig := some { config with
          totalRewardPool := totalRewardPool
          remainingRewards := remainingRewards
          rewardsEnabled := true } })

/-- `set_reward_rate`. The pool is brought up to date at the old rate first. -/
def setRewardRate (host : Host) (admin : Address) (newRateBps : Nat) (s : State) :
    Outcome ContractError Unit State :=
  authorized host admin <|
    match checkAdmin s admin with
    | .error e => .ret (.error e) s
    | .ok () =>
      if newRateBps > 10000 then .ret (.error .invalidInput) s
      else
        match updatePoolRewards host s with
        | none => .abort
        | some s =>
          match s.rewardConfig with
          | none => .ret (.error .notInitialized) s
          | some config =>
            .ret (.ok ()) { s with
              rewardConfig := some { config with baseRewardRateBps := newRateBps } }

def setPaused (host : Host) (admin : Address) (paused : Bool) (s : State) :
    Outcome ContractError Unit State :=
  authorized host admin <| checked s (checkAdmin s admin) fun _ =>
    some ((), { s with paused := some paused })

/-! ## Views -/

def getPosition (s : State) (user : Address) : Option StakingPosition := s.positions.lookup user

def getStakeInfo (s : State) (user : Address) : Option StakeInfo := s.stakeInfo user

/-- `get_pending_rewards` brings the pool up to date, a write, before it reads. -/
def getPendingRewards (host : Host) (user : Address) (s : State) : Outcome ContractError Int State :=
  match updatePoolRewards host s with
  | none => .abort
  | some s => .ret (.ok (pendingRewards s user)) s

/-- `get_voting_power`; `none` is the `u64` underflow of a stake dated after now. -/
def getVotingPower (host : Host) (s : State) (user : Address) : Option Int :=
  match s.positions.lookup user with
  | none => some 0
  | some position =>
    (subU host.timestamp position.stakeStartTime).map fun stakeDuration =>
      u128AsI128 ((mulU 128 (i128AsU128 position.stakedAmount)
        (calculateVotingPowerMultiplier stakeDuration)).getD 0 / 100)

def getStats (host : Host) (s : State) : StakingStats := getStakingStats host s

def getRewardConfigView (s : State) : Option RewardConfig := s.rewardConfig

def getDelegation (s : State) (delegator : Address) : Option VoteDelegation := s.delegations delegator

/-- `can_unstake`; `none` is the `u64` underflow of a stake dated after now. -/
def canUnstake (host : Host) (s : State) (user : Address) : Option Bool :=
  match s.positions.lookup user with
  | none => some false
  | some position =>
    if position.lockEndTime > 0 then some (host.timestamp ≥ position.lockEndTime)
    else
      match s.rewardConfig with
      | none => some false
      | some config =>
        (subU host.timestamp position.stakeStartTime).map fun d => d ≥ config.minStakePeriod

end StellarInsured.Staking
