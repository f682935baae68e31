import StellarInsured.Staking.Runs

/-
  StellarInsured.Staking.Positions — the positions of `GovernanceStakingContract` over
  whole runs: the stats' `total_staked` and `total_stakers` against the positions they
  count, and the delegations against the stakes behind them.

  What a call can do to the positions and their counts (`stakeKeys`: the admin, whether
  the reward config is there, the positions, `total_staked` and `total_stakers`) is said
  once, in `StakeStep`: `initialize` zeroes the counts; `stake` adds to the caller's
  position, new or not; `initiate_unstake` and `claim_rewards` rewrite a position and
  keep its stake; `complete_unstake` removes one; every other call, and every rejected
  one, leaves them (`stakeStep_apply`).

  Proved, over every reachable state:
  - `stats_agree`: `total_staked` is the sum of the positions' stakes and `total_stakers`
    the number of positions.
  And over every run from a reachable paused state with no `set_paused` call
  (`pause_blocks_stake`): the contract stays paused, no position is opened, none's stake
  goes up, and `total_staked` does not rise. Only `stake` reads `PAUSED`.
  As built, `complete_unstake` removes the position and leaves its delegation:
  - `delegation_outlives_stake`: a delegation of 10 stays after its delegator's whole
    stake is unstaked.
  And `initiate_unstake` keeps nothing of the amount it is given:
  - `partial_unstake_releases_all`: unstaking 4 of a stake of 10 releases all 10.
-/

namespace StellarInsured.Staking

/-! ## The counts and the positions -/

/-- `stats.total_staked`, 0 before `initialize` as `get_staking_stats` reads it. -/
def stakedTotal (s : State) : Int := (s.stats.map (·.totalStaked)).getD 0

/-- `stats.total_stakers`, 0 before `initialize`. -/
def stakerCount (s : State) : Nat := (s.stats.map (·.totalStakers)).getD 0

/-- The positions' stakes, summed. -/
def stakeSum (positions : Finmap fun _ : Address => StakingPosition) : Int :=
  (positions.entries.map fun e => e.2.stakedAmount).sum

@[simp] theorem getStakingStats_totalStaked (host : Host) (s : State) :
    (getStakingStats host s).totalStaked = stakedTotal s := by
  cases h : s.stats <;> simp [getStakingStats, stakedTotal, h]

@[simp] theorem getStakingStats_totalStakers (host : Host) (s : State) :
    (getStakingStats host s).totalStakers = stakerCount s := by
  cases h : s.stats <;> simp [getStakingStats, stakerCount, h]

section Finmaps

variable {m : Finmap fun _ : Address => StakingPosition} {a : Address} {p : StakingPosition}

theorem insert_erase_self (m : Finmap fun _ : Address => StakingPosition) (a : Address)
    (p : StakingPosition) : (m.erase a).insert a p = m.insert a p :=
  Finmap.ext_lookup fun x => by
    by_cases hx : x = a
    · subst hx; simp only [Finmap.lookup_insert]
    · simp only [Finmap.lookup_insert_of_ne _ hx, Finmap.lookup_erase_ne hx]

theorem insert_of_lookup (h : m.lookup a = some p) : m.insert a p = m :=
  Finmap.ext_lookup fun x => by
    by_cases hx : x = a
    · subst hx; rw [Finmap.lookup_insert, h]
    · rw [Finmap.lookup_insert_of_ne _ hx]

theorem erase_of_lookup_none (h : m.lookup a = none) : m.erase a = m :=
  Finmap.ext_lookup fun x => by
    by_cases hx : x = a
    · subst hx; rw [Finmap.lookup_erase, h]
    · rw [Finmap.lookup_erase_ne hx]

theorem stakeSum_insert (m : Finmap fun _ : Address => StakingPosition) (a : Address)
    (p : StakingPosition) : stakeSum (m.insert a p) = p.stakedAmount + stakeSum (m.erase a) := by
  rw [← insert_erase_self, stakeSum, Finmap.insert_entries_of_neg Finmap.not_mem_erase_self]
  simp [stakeSum]

theorem staked_pos_insert (hm : ∀ x q, m.lookup x = some q → 0 < q.stakedAmount)
    (hp : 0 < p.stakedAmount) : ∀ x q, (m.insert a p).lookup x = some q → 0 < q.stakedAmount := by
  intro x q hq
  by_cases hx : x = a
  · subst hx
    rw [Finmap.lookup_insert] at hq
    cases hq
    exact hp
  · rw [Finmap.lookup_insert_of_ne _ hx] at hq
    exact hm x q hq

theorem card_keys (m : Finmap fun _ : Address => StakingPosition) :
    m.keys.card = Multiset.card m.entries := by
  simp [Finmap.keys, Finset.card, Multiset.keys]

theorem card_insert (m : Finmap fun _ : Address => StakingPosition) (a : Address)
    (p : StakingPosition) : (m.insert a p).keys.card = (m.erase a).keys.card + 1 := by
  rw [← insert_erase_self, card_keys, card_keys,
    Finmap.insert_entries_of_neg Finmap.not_mem_erase_self, Multiset.card_cons]

theorem stakeSum_of_lookup (h : m.lookup a = some p) :
    stakeSum m = p.stakedAmount + stakeSum (m.erase a) := by
  rw [← stakeSum_insert, insert_of_lookup h]

theorem card_of_lookup (h : m.lookup a = some p) : m.keys.card = (m.erase a).keys.card + 1 := by
  rw [← card_insert m a p, insert_of_lookup h]

theorem lookup_of_lookup_erase {x : Address} (h : (m.erase a).lookup x = some p) :
    m.lookup x = some p := by
  by_cases hx : x = a
  · subst hx; simp [Finmap.lookup_erase] at h
  · rwa [Finmap.lookup_erase_ne hx] at h

end Finmaps

/-! ## What a call does to the positions -/

/-- The keys the position invariant reads. -/
structure StakeKeys where
  admin : Option Address
  configured : Bool
  positions : Finmap fun _ : Address => StakingPosition
  totalStaked : Int
  totalStakers : Nat

def stakeKeys (s : State) : StakeKeys :=
  ⟨s.admin, s.rewardConfig.isSome, s.positions, stakedTotal s, stakerCount s⟩

/-- What one call can do to the position keys, guards included. -/
inductive StakeStep (s : State) : Call → State → Prop
  /-- The call leaves the position keys as they were. -/
  | keep {c : Call} {s' : State} : stakeKeys s' = stakeKeys s → StakeStep s c s'
  /-- `initialize` on a fresh contract: the admin and the config set, the counts zeroed. -/
  | init {s' : State} (admin g r : Address) (rate : Nat) (m : Int) (p cd : Nat) (pool : Int) :
      s.admin = none → stakeKeys s' = ⟨some admin, true, s.positions, 0, 0⟩ →
      StakeStep s (.init admin g r rate m p cd pool) s'
  /-- `stake` adds `amount` to the caller's position, counting a new staker when the
      position's stake is `amount` alone. -/
  | stake {s' : State} (user : Address) (amount : Int) (p' : StakingPosition) :
      0 < amount → s.rewardConfig.isSome →
      p'.stakedAmount = ((s.positions.lookup user).map (·.stakedAmount)).getD 0 + amount →
      stakeKeys s' = { stakeKeys s with
        positions := s.positions.insert user p'
        totalStaked := stakedTotal s + amount
        totalStakers := stakerCount s + if p'.stakedAmount = amount then 1 else 0 } →
      StakeStep s (.stake user amount) s'
  /-- `initiate_unstake` or `claim_rewards` rewrites a stored position, keeping its stake. -/
  | touch {c : Call} {s' : State} (user : Address) (p p' : StakingPosition) :
      s.positions.lookup user = some p → p'.stakedAmount = p.stakedAmount →
      stakeKeys s' = { stakeKeys s with positions := s.positions.insert user p' } →
      StakeStep s c s'
  /-- `complete_unstake` removes the caller's position and uncounts it. -/
  | remove {s' : State} (user : Address) (p : StakingPosition) :
      s.positions.lookup user = some p → 1 ≤ stakerCount s →
      stakeKeys s' = { stakeKeys s with
        positions := s.positions.erase user
        totalStaked := stakedTotal s - p.stakedAmount
        totalStakers := stakerCount s - 1 } →
      StakeStep s (.completeUnstake user) s'

section Steps

variable {host : Host} {s : State}

/-- Steps read only the position keys: from a state with the same keys, the same step. -/
theorem StakeStep.of_keys {s₁ s' : State} {c : Call} (hk : stakeKeys s₁ = stakeKeys s)
    (h : StakeStep s₁ c s') : StakeStep s c s' := by
  have ha : s₁.admin = s.admin := congrArg StakeKeys.admin hk
  have hc : s₁.rewardConfig.isSome = s.rewardConfig.isSome := congrArg StakeKeys.configured hk
  have hp : s₁.positions = s.positions := congrArg StakeKeys.positions hk
  have ht : stakedTotal s₁ = stakedTotal s := congrArg StakeKeys.totalStaked hk
  have hn : stakerCount s₁ = stakerCount s := congrArg StakeKeys.totalStakers hk
  cases h with
  | keep h => exact .keep (h.trans hk)
  | init a g r rate m p cd pool h0 h => exact .init a g r rate m p cd pool (ha ▸ h0) (hp ▸ h)
  | stake user amount p' h0 h1 h2 h =>
    exact .stake user amount p' h0 (hc ▸ h1) (hp ▸ h2) (by rw [h, hk, hp, ht, hn])
  | touch user p p' h1 h2 h => exact .touch user p p' (hp ▸ h1) h2 (by rw [h, hk, hp])
  | remove user p h1 h2 h => exact .remove user p (hp ▸ h1) (hn ▸ h2) (by rw [h, hk, hp, ht, hn])

theorem StakeStep.of_authorized {β : Type} {c : Call} {caller : Address}
    {k : Outcome ContractError β State} (h : StakeStep s c (k.after s)) :
    StakeStep s c ((authorized host caller k).after s) := by
  unfold authorized
  split
  · exact h
  · exact .keep rfl

theorem StakeStep.of_checked {α β : Type} {c : Call} {checks : Except ContractError α}
    {writes : α → Option (β × State)}
    (h : ∀ a b s', checks = .ok a → writes a = some (b, s') → StakeStep s c s') :
    StakeStep s c ((checked s checks writes).after s) := by
  unfold checked
  split
  · exact .keep rfl
  · rename_i a
    cases hw : writes a with
    | none => exact .keep rfl
    | some p => exact h a p.1 p.2 rfl hw

theorem StakeStep.of_trapping {β : Type} {c : Call} {x : Option (β × State)}
    (h : ∀ b s', x = some (b, s') → StakeStep s c s') :
    StakeStep s c ((trapping x : Outcome ContractError β State).after s) := by
  cases hx : x with
  | none => exact .keep rfl
  | some p => exact h p.1 p.2 hx

theorem updatePoolRewards_stakeKeys {s₁ : State} (h : updatePoolRewards host s = some s₁) :
    stakeKeys s₁ = stakeKeys s := by
  obtain ⟨_, _, _, hc, rfl⟩ := updatePoolRewards_spec h
  simp only [stakeKeys, hc]
  rfl

theorem stakeKeys_setRewardConfig (config : RewardConfig) (h : s.rewardConfig.isSome) :
    stakeKeys { s with rewardConfig := some config } = stakeKeys s := by
  simp only [stakeKeys, Option.isSome_some, h]
  rfl

theorem payRewards_counts {config : Option RewardConfig} {r : Int} {st st' : StakingStats}
    (h : payRewards config r st = some st') :
    st'.totalStaked = st.totalStaked ∧ st'.totalStakers = st.totalStakers := by
  unfold payRewards at h
  split_ifs at h
  · obtain ⟨_, -, h⟩ := Option.bind_eq_some.1 h
    obtain ⟨_, -, rfl⟩ := Option.map_eq_some'.1 h
    exact ⟨rfl, rfl⟩
  · cases h
    exact ⟨rfl, rfl⟩

/-! ### The writes -/

theorem recordStake_stakeStep {user : Address} {amount : Int} {u : Unit} {s' : State}
    (hpos : 0 < amount) (hconfig : s.rewardConfig.isSome)
    (h : recordStake host user amount s = some (u, s')) : StakeStep s (.stake user amount) s' := by
  simp only [recordStake, Option.bind_eq_bind, Option.bind_eq_some] at h
  obtain ⟨pending, -, staked, hstaked, _, -, stakers, hstakers, total, htotal, _, -, h⟩ := h
  obtain ⟨-, rfl⟩ := addI128_eq_some.1 hstaked
  obtain ⟨-, rfl⟩ := addI128_eq_some.1 htotal
  cases h
  set old := (s.positions.lookup user).getD ⟨user, 0, 0, host.timestamp, 0, 0⟩ with hold
  refine .stake user amount { old with
    pendingRewards := pending
    stakedAmount := old.stakedAmount + amount
    rewardDebt := accrued (old.stakedAmount + amount) (getAccRewardPerShare s) } hpos hconfig
    (by rw [hold]; cases s.positions.lookup user <;> rfl) ?_
  split_ifs at hstakers with hnew
  · obtain ⟨-, rfl⟩ := addU_eq_some.1 hstakers
    simp [stakeKeys, stakedTotal, stakerCount, hnew]
  · cases hstakers
    simp [stakeKeys, stakedTotal, stakerCount, hnew]

theorem recordUnstake_stakeStep {c : Call} {user : Address} {config : RewardConfig}
    {position : StakingPosition} {unlockAt : Nat} {s' : State}
    (hp : s.positions.lookup user = some position)
    (h : recordUnstake host user config position s = some (unlockAt, s')) : StakeStep s c s' := by
  simp only [recordUnstake, Option.bind_eq_bind, Option.bind_eq_some] at h
  obtain ⟨s₁, hs₁, pending, -, _, -, h⟩ := h
  cases h
  refine .of_keys (updatePoolRewards_stakeKeys hs₁)
    (.touch user position { position with pendingRewards := pending, lockEndTime := unlockAt }
      ?_ rfl rfl)
  rwa [updatePoolRewards_positions hs₁]

theorem recordClaim_stakeStep {c : Call} {user : Address} {position : StakingPosition}
    {total r : Int} {s' : State} (hp : s.positions.lookup user = some position)
    (h : recordClaim host user position total s = some (r, s')) : StakeStep s c s' := by
  simp only [recordClaim, Option.bind_eq_bind, Option.bind_eq_some] at h
  obtain ⟨_, -, h⟩ := h
  cases h
  exact .touch user position { position with
      pendingRewards := 0, rewardDebt := accrued position.stakedAmount (getAccRewardPerShare s) }
    hp rfl (by simp [stakeKeys, stakedTotal, stakerCount])

theorem recordCompleteUnstake_stakeStep {user : Address} {position : StakingPosition}
    {r : Int} {s' : State} (hp : s.positions.lookup user = some position)
    (h : recordCompleteUnstake host user position s = some (r, s')) :
    StakeStep s (.completeUnstake user) s' := by
  simp only [recordCompleteUnstake, Option.bind_eq_bind, Option.bind_eq_some] at h
  obtain ⟨s₁, hs₁, _, -, stakers, hstakers, staked, hstaked, _, -, stats, hstats, h⟩ := h
  cases h
  obtain ⟨hn, rfl⟩ : 1 ≤ stakerCount s₁ ∧ stakerCount s₁ - 1 = stakers := by
    simpa [subU] using hstakers
  obtain ⟨-, rfl⟩ : fitsI128 (stakedTotal s₁ - position.stakedAmount) ∧
      stakedTotal s₁ - position.stakedAmount = staked := by
    simpa [subI128] using hstaked
  obtain ⟨htot, hcnt⟩ := payRewards_counts hstats
  refine .of_keys (updatePoolRewards_stakeKeys hs₁) (.remove user position ?_ hn ?_)
  · rwa [updatePoolRewards_positions hs₁]
  · simp [stakeKeys, stakedTotal, stakerCount, htot, hcnt]

/-! ### The entry points -/

theorem init_stakeStep (a g r : Address) (rate : Nat) (m : Int) (p cd : Nat) (pool : Int) :
    StakeStep s (.init a g r rate m p cd pool) ((init host a g r rate m p cd pool s).after s) := by
  unfold init
  split_ifs with ha
  · exact .keep rfl
  all_goals refine .of_authorized ?_
  iterate 3 exact .keep rfl
  exact .init a g r rate m p cd pool (by simpa using ha) rfl

theorem stake_stakeStep (user : Address) (amount : Int) :
    StakeStep s (.stake user amount) ((stake host user amount s).after s) := by
  refine .of_authorized <| .of_checked fun _ _ _ hc h => ?_
  split_ifs at hc with hamount <;> simp at hc
  obtain ⟨_, hconfig, -⟩ := hc
  obtain ⟨s₁, hs₁, h⟩ := Option.bind_eq_some.1 h
  have hk := updatePoolRewards_stakeKeys hs₁
  have hconfig₁ : s₁.rewardConfig.isSome = s.rewardConfig.isSome := congrArg StakeKeys.configured hk
  exact .of_keys hk (recordStake_stakeStep (by omega) (by simp [hconfig₁, hconfig]) h)

theorem initiateUnstake_stakeStep (user : Address) (amount : Int) :
    StakeStep s (.initiateUnstake user amount) ((initiateUnstake host user amount s).after s) := by
  refine .of_authorized ?_
  split; · exact .keep rfl
  split; · exact .keep rfl
  rename_i position hposition
  split; · exact .keep rfl
  split; · exact .keep rfl
  split; · exact .keep rfl
  split; · exact .keep rfl
  exact .of_trapping fun _ _ h => recordUnstake_stakeStep hposition h

theorem completeUnstake_stakeStep (user : Address) :
    StakeStep s (.completeUnstake user) ((completeUnstake host user s).after s) := by
  refine .of_authorized <| .of_checked fun position _ _ hc h => ?_
  simp only [Except.bind_eq_ok, okOr_eq_ok] at hc
  obtain ⟨_, hposition, hc⟩ := hc
  split_ifs at hc <;> cases hc
  exact recordCompleteUnstake_stakeStep hposition h

theorem claimRewards_stakeStep (user : Address) :
    StakeStep s (.claimRewards user) ((claimRewards host user s).after s) := by
  refine .of_authorized ?_
  split; · exact .keep rfl
  split; · exact .keep rfl
  split; · exact .keep rfl
  rename_i s₁ hs₁
  have hk := updatePoolRewards_stakeKeys hs₁
  split; · exact .keep hk
  rename_i position hposition
  split; · exact .keep rfl
  split; · exact .keep hk
  exact .of_trapping fun _ _ h => .of_keys hk (recordClaim_stakeStep hposition h)

theorem addRewards_stakeStep (admin : Address) (amount : Int) :
    StakeStep s (.addRewards admin amount) ((addRewards host admin amount s).after s) := by
  refine .of_authorized <| .of_checked fun config _ _ hc h => ?_
  have hconfig : s.rewardConfig = some config := by
    split_ifs at hc <;> simp at hc
    exact hc.2
  simp only [Option.bind_eq_bind, Option.bind_eq_some] at h
  obtain ⟨_, -, _, -, h⟩ := h
  cases h
  exact .keep (stakeKeys_setRewardConfig _ (by simp [hconfig]))

theorem setRewardRate_stakeStep (admin : Address) (rate : Nat) :
    StakeStep s (.setRewardRate admin rate) ((setRewardRate host admin rate s).after s) := by
  refine .of_authorized ?_
  split; · exact .keep rfl
  split; · exact .keep rfl
  split; · exact .keep rfl
  rename_i s₁ hs₁
  have hk := updatePoolRewards_stakeKeys hs₁
  split
  · exact .keep hk
  · exact .keep ((stakeKeys_setRewardConfig _ (by simp [*])).trans hk)

theorem getPendingRewards_stakeStep (user : Address) :
    StakeStep s (.getPendingRewards user) ((getPendingRewards host user s).after s) := by
  unfold getPendingRewards
  split
  · exact .keep rfl
  · exact .keep (updatePoolRewards_stakeKeys ‹_›)

/-- Every call steps as `StakeStep` says. -/
theorem stakeStep_apply (host : Host) (c : Call) (s : State) : StakeStep s c (c.apply host s) := by
  cases c with
  | init a g r rate m p cd pool => exact init_stakeStep a g r rate m p cd pool
  | stake user amount => exact stake_stakeStep user amount
  | initiateUnstake user amount => exact initiateUnstake_stakeStep user amount
  | completeUnstake user => exact completeUnstake_stakeStep user
  | claimRewards user => exact claimRewards_stakeStep user
  | delegate => exact .of_authorized <| .of_checked fun _ _ _ _ h => by cases h; exact .keep rfl
  | undelegate => exact .of_authorized <| .of_checked fun _ _ _ _ h => by cases h; exact .keep rfl
  | addRewards admin amount => exact addRewards_stakeStep admin amount
  | setRewardRate admin rate => exact setRewardRate_stakeStep admin rate
  | setPaused => exact .of_authorized <| .of_checked fun _ _ _ _ h => by cases h; exact .keep rfl
  | getPendingRewards user => exact getPendingRewards_stakeStep user

end Steps

/-! ## The stats over every run -/

/-- The stats agree with the positions: `total_staked` is the sum of the stored stakes and
    `total_stakers` the number of stored positions. -/
structure StatsAgree (s : State) : Prop where
  total_staked : stakedTotal s = stakeSum s.positions
  total_stakers : stakerCount s = s.positions.keys.card

/-- What the position keys keep over every run: before `initialize` there is neither config
    nor position, every stored stake is positive, and the stats agree with the positions. -/
structure StakeInv (k : StakeKeys) : Prop where
  fresh : k.admin = none → k.configured = false ∧ k.positions = ∅
  staked_pos : ∀ a p, k.positions.lookup a = some p → 0 < p.stakedAmount
  total_staked : k.totalStaked = stakeSum k.positions
  total_stakers : k.totalStakers = k.positions.keys.card

section Invariant

variable {k : StakeKeys} {user : Address}

theorem StakeInv.after_init (hi : StakeInv k) (h0 : k.admin = none) (admin : Address) :
    StakeInv ⟨some admin, true, k.positions, 0, 0⟩ := by
  obtain ⟨-, hp⟩ := hi.fresh h0
  refine ⟨nofun, hi.staked_pos, ?_, ?_⟩ <;> (show 0 = _; rw [hp]; rfl)

theorem StakeInv.after_stake (hi : StakeInv k) {amount : Int} {p' : StakingPosition}
    (hamount : 0 < amount) (hconfig : k.configured)
    (hp' : p'.stakedAmount = ((k.positions.lookup user).map (·.stakedAmount)).getD 0 + amount) :
    StakeInv { k with
      positions := k.positions.insert user p'
      totalStaked := k.totalStaked + amount
      totalStakers := k.totalStakers + if p'.stakedAmount = amount then 1 else 0 } := by
  -- a new position adds a staker; an existing one, whose stake is positive, does not
  have hnew : 0 < p'.stakedAmount ∧
      stakeSum (k.positions.insert user p') = stakeSum k.positions + amount ∧
      (k.positions.insert user p').keys.card =
        k.positions.keys.card + if p'.stakedAmount = amount then 1 else 0 := by
    rw [stakeSum_insert, card_insert]
    cases hl : k.positions.lookup user with
    | none =>
      simp only [hl, Option.map_none', Option.getD_none, zero_add] at hp'
      rw [erase_of_lookup_none hl, if_pos hp']
      omega
    | some q =>
      simp only [hl, Option.map_some', Option.getD_some] at hp'
      have hq := hi.staked_pos user q hl
      rw [stakeSum_of_lookup hl, card_of_lookup hl, if_neg (by omega)]
      omega
  refine ⟨fun ha => absurd ((hi.fresh ha).1.symm.trans hconfig) Bool.false_ne_true,
    staked_pos_insert hi.staked_pos hnew.1, ?_, ?_⟩
  · show k.totalStaked + amount = _
    rw [hnew.2.1, hi.total_staked]
  · show k.totalStakers + _ = _
    rw [hnew.2.2, hi.total_stakers]

theorem StakeInv.after_touch (hi : StakeInv k) {p p' : StakingPosition}
    (hp : k.positions.lookup user = some p) (hp' : p'.stakedAmount = p.stakedAmount) :
    StakeInv { k with positions := k.positions.insert user p' } := by
  refine ⟨fun ha => absurd hp (by simp [(hi.fresh ha).2]),
    staked_pos_insert hi.staked_pos (hp' ▸ hi.staked_pos user p hp), ?_, ?_⟩
  · show k.totalStaked = _
    rw [stakeSum_insert, hi.total_staked, stakeSum_of_lookup hp, hp']
  · show k.totalStakers = _
    rw [card_insert, hi.total_stakers, card_of_lookup hp]

theorem StakeInv.after_remove (hi : StakeInv k) {p : StakingPosition}
    (hp : k.positions.lookup user = some p) :
    StakeInv { k with
      positions := k.positions.erase user
      totalStaked := k.totalStaked - p.stakedAmount
      totalStakers := k.totalStakers - 1 } := by
  refine ⟨fun ha => absurd hp (by simp [(hi.fresh ha).2]),
    fun a q hq => hi.staked_pos a q (lookup_of_lookup_erase hq), ?_, ?_⟩
  · show k.totalStaked - p.stakedAmount = _
    rw [hi.total_staked, stakeSum_of_lookup hp, add_sub_cancel_left]
  · show k.totalStakers - 1 = _
    rw [hi.total_stakers, card_of_lookup hp, Nat.add_sub_cancel]

end Invariant

theorem StakeStep.inv {s s' : State} {c : Call} (h : StakeStep s c s')
    (hi : StakeInv (stakeKeys s)) : StakeInv (stakeKeys s') := by
  cases h with
  | keep h => rwa [h]
  | init admin _ _ _ _ _ _ _ h0 h => rw [h]; exact hi.after_init h0 admin
  | stake _ _ _ hamount hconfig hp' h => rw [h]; exact hi.after_stake hamount hconfig hp'
  | touch _ _ _ hp hp' h => rw [h]; exact hi.after_touch hp hp'
  | remove _ _ hp _ h => rw [h]; exact hi.after_remove hp

theorem reachable_stakeInv {t : Nat} {s : State} (hs : Reachable t s) : StakeInv (stakeKeys s) := by
  induction hs with
  | empty =>
    exact ⟨fun _ => ⟨rfl, rfl⟩, fun a _ h => (nomatch h.symm.trans (Finmap.lookup_empty a)), rfl, rfl⟩
  | step host c _ _ ih => exact (stakeStep_apply host c _).inv ih

/-- In every reachable state `total_staked` is the sum of the stored stakes and
    `total_stakers` the number of stored positions. -/
theorem stats_agree {t : Nat} {s : State} (hs : Reachable t s) : StatsAgree s :=
  let hi := reachable_stakeInv hs
  ⟨hi.total_staked, hi.total_stakers⟩

/-- Two stakers, one of them staking twice. -/
def restakeRun : List (Host × Call) :=
  [(⟨0, fun _ => true⟩, .init ⟨0⟩ ⟨8⟩ ⟨9⟩ 0 1 0 0 0),
   (⟨0, fun _ => true⟩, .stake ⟨1⟩ 10),
   (⟨0, fun _ => true⟩, .stake ⟨2⟩ 5),
   (⟨0, fun _ => true⟩, .stake ⟨1⟩ 5)]

theorem stats_agree_after_restake :
    let s : State := exec State.empty restakeRun
    Reachable 0 s ∧ StatsAgree s ∧ stakedTotal s = 20 ∧ stakerCount s = 2 :=
  have hs := reachable_exec .empty restakeRun (by simp [restakeRun])
  ⟨hs, stats_agree hs, rfl, rfl⟩

/-! ## The pause closes staking

`set_paused` is the only call that writes `PAUSED`, and `stake` the only one that reads
it. -/

section Pause

variable {host : Host} {s s' s'' : State}

theorem updatePoolRewards_paused {s₁ : State} (h : updatePoolRewards host s = some s₁) :
    s₁.paused = s.paused := by
  obtain ⟨_, _, _, rfl⟩ := updatePoolRewards_eq_some h
  rfl

theorem recordStake_paused {user : Address} {amount : Int} {u : Unit}
    (h : recordStake host user amount s = some (u, s')) : s'.paused = s.paused := by
  simp only [recordStake, Option.bind_eq_bind, Option.bind_eq_some] at h
  obtain ⟨_, -, _, -, _, -, _, -, _, -, _, -, h⟩ := h
  cases h
  rfl

theorem recordUnstake_paused {user : Address} {config : RewardConfig}
    {position : StakingPosition} {unlockAt : Nat}
    (h : recordUnstake host user config position s = some (unlockAt, s')) : s'.paused = s.paused := by
  simp only [recordUnstake, Option.bind_eq_bind, Option.bind_eq_some] at h
  obtain ⟨s₁, hs₁, _, -, _, -, h⟩ := h
  cases h
  exact (updatePoolRewards_paused hs₁ :)

theorem recordCompleteUnstake_paused {user : Address} {position : StakingPosition} {r : Int}
    (h : recordCompleteUnstake host user position s = some (r, s')) : s'.paused = s.paused := by
  simp only [recordCompleteUnstake, Option.bind_eq_bind, Option.bind_eq_some] at h
  obtain ⟨s₁, hs₁, _, -, _, -, _, -, _, -, _, -, h⟩ := h
  cases h
  exact (updatePoolRewards_paused hs₁ :)

theorem recordClaim_paused {user : Address} {position : StakingPosition} {total r : Int}
    (h : recordClaim host user position total s = some (r, s')) : s'.paused = s.paused := by
  simp only [recordClaim, Option.bind_eq_bind, Option.bind_eq_some] at h
  obtain ⟨_, -, h⟩ := h
  cases h
  rfl

/-- Every call but `set_paused` leaves `PAUSED` as it was. -/
theorem paused_apply (host : Host) (c : Call) (s : State) (hc : ∀ a b, c ≠ .setPaused a b) :
    (c.apply host s).paused = s.paused := by
  cases c with
  | init a g r rate m p cd pool =>
    show ((init host a g r rate m p cd pool s).after s).paused = _
    unfold init authorized
    split_ifs <;> rfl
  | stake user amount =>
    refine authorized_keeps _ (checked_keeps _ fun _ _ _ h => ?_)
    obtain ⟨s₁, hs₁, h⟩ := Option.bind_eq_some.1 h
    exact (recordStake_paused h).trans (updatePoolRewards_paused hs₁)
  | initiateUnstake user amount =>
    refine authorized_keeps _ ?_
    repeat' split
    all_goals first | rfl | exact trapping_keeps _ fun _ _ h => recordUnstake_paused h
  | completeUnstake user =>
    exact authorized_keeps _ (checked_keeps _ fun _ _ _ h => recordCompleteUnstake_paused h)
  | claimRewards user =>
    refine authorized_keeps _ ?_
    repeat' split
    all_goals first
      | rfl
      | exact (updatePoolRewards_paused ‹_› :)
      | exact trapping_keeps _ fun _ _ h => (recordClaim_paused h).trans (updatePoolRewards_paused ‹_›)
  | delegate | undelegate => exact authorized_keeps _ (checked_keeps _ fun _ _ _ h => by cases h; rfl)
  | addRewards admin amount =>
    refine authorized_keeps _ (checked_keeps _ fun _ _ _ h => ?_)
    simp only [Option.bind_eq_bind, Option.bind_eq_some] at h
    obtain ⟨_, -, _, -, h⟩ := h
    cases h
    rfl
  | setRewardRate admin rate =>
    refine authorized_keeps _ ?_
    repeat' split
    all_goals first | rfl | exact (updatePoolRewards_paused ‹_› :)
  | setPaused a b => exact absurd rfl (hc a b)
  | getPendingRewards user =>
    show ((getPendingRewards host user s).after s).paused = _
    unfold getPendingRewards
    split
    · rfl
    · exact (updatePoolRewards_paused ‹_› :)

/-- While paused, `stake` returns `Paused`, or aborts unsigned, and writes nothing. -/
theorem stake_of_paused (hp : isPaused s = true) (user : Address) (amount : Int) :
    (stake host user amount s).after s = s := by
  unfold stake authorized
  split <;> simp [checked, hp]

/-- Every position of `s'` was a position of `s`, with the same stake, and `total_staked`
    has not gone up. -/
def StakesFrozen (s s' : State) : Prop :=
  (∀ u p', s'.positions.lookup u = some p' →
    ∃ p, s.positions.lookup u = some p ∧ p'.stakedAmount = p.stakedAmount) ∧
    stakedTotal s' ≤ stakedTotal s

theorem StakesFrozen.of_positions (hp : s'.positions = s.positions)
    (ht : stakedTotal s' ≤ stakedTotal s) : StakesFrozen s s' :=
  ⟨fun _ p' h => ⟨p', hp ▸ h, rfl⟩, ht⟩

theorem StakesFrozen.trans (h₁ : StakesFrozen s s') (h₂ : StakesFrozen s' s'') :
    StakesFrozen s s'' := by
  refine ⟨fun u p'' h => ?_, h₂.2.trans h₁.2⟩
  obtain ⟨p', h', hp'⟩ := h₂.1 u p'' h
  obtain ⟨p, h, hp⟩ := h₁.1 u p' h'
  exact ⟨p, h, hp'.trans hp⟩

/-- A step that is no `stake` opens no position and raises no stake. -/
theorem StakeStep.stakesFrozen {c : Call} (h : StakeStep s c s') (hi : StakeInv (stakeKeys s))
    (hc : ∀ u a, c ≠ .stake u a) : StakesFrozen s s' := by
  cases h with
  | keep h => exact .of_positions (congrArg StakeKeys.positions h) (congrArg StakeKeys.totalStaked h).le
  | init _ _ _ _ _ _ _ _ h0 h =>
    -- `initialize` zeroes `total_staked`, which sums the positions of a fresh contract: none
    have h₀ : stakedTotal s = 0 := hi.total_staked.trans (by rw [(hi.fresh h0).2]; rfl)
    exact .of_positions (congrArg StakeKeys.positions h)
      ((congrArg StakeKeys.totalStaked h).trans h₀.symm).le
  | stake user amount => exact absurd rfl (hc user amount)
  | touch user p p' hp hp' h =>
    refine ⟨fun u q hq => ?_, (congrArg StakeKeys.totalStaked h).le⟩
    rw [show s'.positions = s.positions.insert user p' from congrArg StakeKeys.positions h] at hq
    by_cases hu : u = user
    · subst hu
      rw [Finmap.lookup_insert, Option.some.injEq] at hq
      exact ⟨p, hp, hq ▸ hp'⟩
    · exact ⟨q, by rwa [Finmap.lookup_insert_of_ne _ hu] at hq, rfl⟩
  | remove user p hp _ h =>
    have hstake := hi.staked_pos user p hp
    refine ⟨fun u q hq => ⟨q, lookup_of_lookup_erase (a := user) ?_, rfl⟩, ?_⟩
    · rwa [show s'.positions = s.positions.erase user from congrArg StakeKeys.positions h] at hq
    · rw [show stakedTotal s' = stakedTotal s - p.stakedAmount from congrArg StakeKeys.totalStaked h]
      omega

/-- One call other than `set_paused` from a paused state with the position invariant. -/
theorem stakesFrozen_apply (hi : StakeInv (stakeKeys s)) (hp : isPaused s = true) (host : Host)
    (c : Call) (hc : ∀ a b, c ≠ .setPaused a b) :
    isPaused (c.apply host s) = true ∧ StakesFrozen s (c.apply host s) := by
  refine ⟨by rw [isPaused, paused_apply host c s hc]; exact hp, ?_⟩
  by_cases hs : ∃ u a, c = .stake u a
  · obtain ⟨u, a, rfl⟩ := hs
    rw [show Call.apply host (.stake u a) s = s from stake_of_paused hp u a]
    exact .of_positions rfl le_rfl
  · exact (stakeStep_apply host c s).stakesFrozen hi fun u a h => hs ⟨u, a, h⟩

end Pause

/-- While the contract is paused, nothing but `set_paused` reopens staking: over every run
    from a reachable paused state with no `set_paused` call, the contract stays paused,
    every position left was there at the start with the same stake, and `total_staked`
    does not go up. -/
theorem pause_blocks_stake {t : Nat} {s : State} (hs : Reachable t s) (hp : isPaused s = true)
    (cs : List (Host × Call)) (hc : ∀ x ∈ cs, ∀ a b, x.2 ≠ .setPaused a b) :
    isPaused (exec s cs) = true ∧ StakesFrozen s (exec s cs) := by
  have hi := reachable_stakeInv hs
  clear hs
  induction cs generalizing s with
  | nil => exact ⟨hp, .of_positions rfl le_rfl⟩
  | cons x cs ih =>
    obtain ⟨hp', hf⟩ := stakesFrozen_apply hi hp x.1 x.2 (hc x (.head _))
    obtain ⟨hp'', hf'⟩ := ih hp' (fun y hy => hc y (.tail _ hy)) ((stakeStep_apply x.1 x.2 s).inv hi)
    exact ⟨hp'', hf.trans hf'⟩

/-- A stake of 10 with no lock periods, then the contract paused. -/
def pausedRun : List (Host × Call) :=
  [(⟨0, fun _ => true⟩, .init ⟨0⟩ ⟨8⟩ ⟨9⟩ 0 1 0 0 0),
   (⟨0, fun _ => true⟩, .stake ⟨1⟩ 10),
   (⟨0, fun _ => true⟩, .setPaused ⟨0⟩ true)]

/-- Paused, a new stake of 5 is refused, and the stake of 10 is still unstaked. -/
theorem pause_blocks_stake_after_unstake :
    let s : State := exec State.empty pausedRun
    let cs : List (Host × Call) := [(⟨1, fun _ => true⟩, .stake ⟨2⟩ 5),
      (⟨1, fun _ => true⟩, .initiateUnstake ⟨1⟩ 10), (⟨1, fun _ => true⟩, .completeUnstake ⟨1⟩)]
    (Reachable 0 s ∧ isPaused s = true ∧ ∀ x ∈ cs, ∀ a b, x.2 ≠ .setPaused a b) ∧
      (isPaused (exec s cs) = true ∧ StakesFrozen s (exec s cs)) ∧
      (exec s cs).positions.lookup ⟨2⟩ = none ∧ stakedTotal (exec s cs) = 0 :=
  have hs := reachable_exec .empty pausedRun (by simp [pausedRun])
  ⟨⟨hs, rfl, by simp⟩, pause_blocks_stake hs rfl _ (by simp), rfl, rfl⟩

/-! ## As built: a delegation outlives its stake -/

/-- The stake behind `d`'s votes: its position's, 0 without one. -/
def stakedOf (s : State) (d : Address) : Int := ((s.positions.lookup d).map (·.stakedAmount)).getD 0

/-- Every stored delegation is within its delegator's current stake. -/
def DelegationsBacked (s : State) : Prop :=
  ∀ d delegation, s.delegations d = some delegation → delegation.amount ≤ stakedOf s d

/-- The run of `delegation_outlives_stake`: a stake of 10, all of it delegated, then all of
    it unstaked a second later. -/
def unbackedRun : List (Host × Call) :=
  [(⟨0, fun _ => true⟩, .init ⟨0⟩ ⟨8⟩ ⟨9⟩ 0 1 0 0 0),
   (⟨0, fun _ => true⟩, .stake ⟨1⟩ 10),
   (⟨0, fun _ => true⟩, .delegate ⟨1⟩ ⟨2⟩ 10),
   (⟨1, fun _ => true⟩, .initiateUnstake ⟨1⟩ 10),
   (⟨1, fun _ => true⟩, .completeUnstake ⟨1⟩)]

/-- `delegate` checks the stake only when the delegation is made and `complete_unstake`
    removes the position without the delegation: the delegator keeps delegating 10 with
    nothing staked. -/
theorem delegation_outlives_stake :
    let s : State := exec State.empty unbackedRun
    Reachable 1 s ∧ ¬ DelegationsBacked s ∧
      (s.delegations ⟨1⟩).map (·.amount) = some 10 ∧ stakedOf s ⟨1⟩ = 0 :=
  ⟨reachable_exec .empty unbackedRun (by simp [unbackedRun]),
    fun h => absurd (h ⟨1⟩ _ rfl) (by decide), rfl, rfl⟩

/-! ## As built: a partial unstake releases the whole stake -/

/-- The run of `partial_unstake_releases_all`: a stake of 10, and an unstake of 4 of it
    initiated a second later. -/
def partialUnstakeRun : List (Host × Call) :=
  [(⟨0, fun _ => true⟩, .init ⟨0⟩ ⟨8⟩ ⟨9⟩ 0 1 0 0 0),
   (⟨0, fun _ => true⟩, .stake ⟨1⟩ 10),
   (⟨1, fun _ => true⟩, .initiateUnstake ⟨1⟩ 4)]

/-- `initiate_unstake` checks its `amount` against the stake and keeps nothing of it:
    `complete_unstake` then returns the whole stake of 10, removes the position and takes
    10 off `total_staked`. -/
theorem partial_unstake_releases_all :
    let s : State := exec State.empty partialUnstakeRun
    let o := completeUnstake ⟨1, fun _ => true⟩ ⟨1⟩ s
    Reachable 1 s ∧ stakedOf s ⟨1⟩ = 10 ∧ o.result = some (.ok 10) ∧
      (o.after s).positions.lookup ⟨1⟩ = none ∧ stakedTotal s - stakedTotal (o.after s) = 10 :=
  ⟨reachable_exec .empty partialUnstakeRun (by simp [partialUnstakeRun]), rfl, rfl, rfl, rfl⟩

end StellarInsured.Staking
