import StellarInsured.Staking.Runs

/-
  StellarInsured.Staking.Locks — the unstaking lock of `GovernanceStakingContract` over
  whole runs.

  `stake` opens a position at the time of the call, its `stake_start_time`, with
  `lock_end_time = 0`; a later `stake` adds to it and keeps both times.
  `initiate_unstake` is accepted only once `min_stake_period` has passed since the start,
  and sets `lock_end_time` to the time of the call plus `unstake_cooldown`;
  `complete_unstake` is accepted only at or after a set `lock_end_time`, and removes the
  position. `initialize` fixes both periods and no call changes them. What each call does
  to these keys (`lockKeys`) is said once, in `LockStep` (`lockStep_apply`).

  Proved, over every reachable state (`LockInv`): a position's `lock_end_time` is zero, or
  at least its `stake_start_time` plus `min_stake_period` plus `unstake_cooldown`. Hence
  (`unstake_waits`): `complete_unstake` pays a position out only once `min_stake_period +
  unstake_cooldown` have passed since it was opened.
-/

namespace StellarInsured.Staking

/-- Each position's `stake_start_time` and `lock_end_time`. -/
def positionLocks (positions : Finmap fun _ : Address => StakingPosition) :
    Address → Option (Nat × Nat) :=
  fun u => (positions.lookup u).map fun p => (p.stakeStartTime, p.lockEndTime)

theorem positionLocks_insert (positions : Finmap fun _ : Address => StakingPosition)
    (u : Address) (p : StakingPosition) :
    positionLocks (positions.insert u p) =
      Function.update (positionLocks positions) u (some (p.stakeStartTime, p.lockEndTime)) := by
  funext v
  by_cases h : v = u
  · subst h
    simp [positionLocks]
  · simp [positionLocks, h, Finmap.lookup_insert_of_ne _ h]

theorem positionLocks_erase (positions : Finmap fun _ : Address => StakingPosition) (u : Address) :
    positionLocks (positions.erase u) = Function.update (positionLocks positions) u none := by
  funext v
  by_cases h : v = u
  · subst h
    simp [positionLocks]
  · simp [positionLocks, h, Finmap.lookup_erase_ne h]

/-- The keys the lock rule reads: the admin, the config's `min_stake_period` and
    `unstake_cooldown`, and each position's start and lock. -/
structure LockKeys where
  admin : Option Address
  periods : Option (Nat × Nat)
  locks : Address → Option (Nat × Nat)

def lockKeys (s : State) : LockKeys :=
  ⟨s.admin, s.rewardConfig.map fun c => (c.minStakePeriod, c.unstakeCooldown),
    positionLocks s.positions⟩

/-- A state with the admin and the config of `s` has the lock keys of `s` but for its
    positions. -/
theorem lockKeys_of_positions (s : State) {s' : State} (ha : s'.admin = s.admin)
    (hc : s'.rewardConfig = s.rewardConfig) :
    lockKeys s' = { lockKeys s with locks := positionLocks s'.positions } := by
  simp [lockKeys, ha, hc]

/-- Writing back a position's own times changes no lock key. -/
theorem LockKeys.update_self (k : LockKeys) (u : Address) {x : Option (Nat × Nat)}
    (h : k.locks u = x) : { k with locks := Function.update k.locks u x } = k := by
  subst h
  rw [Function.update_eq_self]

/-- What one call can do to the lock keys, guards included. -/
inductive LockStep (host : Host) (s : State) : Call → State → Prop
  /-- The call leaves the lock keys as they were. -/
  | keep {c : Call} {s' : State} : lockKeys s' = lockKeys s → LockStep host s c s'
  /-- `initialize` on a fresh contract sets the admin and the two periods. -/
  | init {s' : State} (admin g r : Address) (rate : Nat) (m : Int) (p cd : Nat) (pool : Int) :
      s.admin = none → lockKeys s' = ⟨some admin, some (p, cd), (lockKeys s).locks⟩ →
      LockStep host s (.init admin g r rate m p cd pool) s'
  /-- `stake` with no position opens one now, unlocked. -/
  | opened {s' : State} (user : Address) (amount : Int) : s.positions.lookup user = none →
      lockKeys s' = { lockKeys s with
        locks := Function.update (lockKeys s).locks user (some (host.timestamp, 0)) } →
      LockStep host s (.stake user amount) s'
  /-- `initiate_unstake` on a position started `min_stake_period` ago or more locks it until
      `unstake_cooldown` from now. -/
  | locked {s' : State} (user : Address) (amount : Int) (position : StakingPosition)
      (config : RewardConfig) :
      s.positions.lookup user = some position → s.rewardConfig = some config →
      position.stakeStartTime + config.minStakePeriod ≤ host.timestamp →
      lockKeys s' = { lockKeys s with
        locks := Function.update (lockKeys s).locks user
          (some (position.stakeStartTime, host.timestamp + config.unstakeCooldown)) } →
      LockStep host s (.initiateUnstake user amount) s'
  /-- `complete_unstake` removes the caller's position. -/
  | removed {s' : State} (user : Address) :
      lockKeys s' = { lockKeys s with locks := Function.update (lockKeys s).locks user none } →
      LockStep host s (.completeUnstake user) s'

section Steps

variable {host : Host} {s : State}

theorem LockStep.of_keys {c : Call} {s₁ s' : State} (h : LockStep host s c s₁)
    (hk : lockKeys s' = lockKeys s₁) : LockStep host s c s' := by
  cases h with
  | keep h => exact .keep (hk.trans h)
  | init a g r rate m p cd pool h0 h => exact .init a g r rate m p cd pool h0 (hk.trans h)
  | opened user amount hn h => exact .opened user amount hn (hk.trans h)
  | locked user amount position config hp hc hle h =>
    exact .locked user amount position config hp hc hle (hk.trans h)
  | removed user h => exact .removed user (hk.trans h)

theorem LockStep.of_authorized {β : Type} {c : Call} {caller : Address}
    {k : Outcome ContractError β State} (h : LockStep host s c (k.after s)) :
    LockStep host s c ((authorized host caller k).after s) := by
  unfold authorized
  split
  · exact h
  · exact .keep rfl

theorem LockStep.of_checked {α β : Type} {c : Call} {checks : Except ContractError α}
    {writes : α → Option (β × State)}
    (h : ∀ a b s', checks = .ok a → writes a = some (b, s') → LockStep host s c s') :
    LockStep host s c ((checked s checks writes).after s) := by
  unfold checked
  split
  · exact .keep rfl
  · rename_i a
    cases hw : writes a with
    | none => exact .keep rfl
    | some p => exact h a p.1 p.2 rfl hw

theorem LockStep.of_trapping {β : Type} {c : Call} {x : Option (β × State)}
    (h : ∀ b s', x = some (b, s') → LockStep host s c s') :
    LockStep host s c ((trapping x : Outcome ContractError β State).after s) := by
  cases hx : x with
  | none => exact .keep rfl
  | some p => exact h p.1 p.2 hx

/-- Bringing the pool up to date writes no lock key: the config keeps its periods. -/
theorem updatePoolRewards_lockKeys {s₁ : State} (h : updatePoolRewards host s = some s₁) :
    lockKeys s₁ = lockKeys s := by
  simp only [updatePoolRewards] at h
  split at h
  · cases h
    rfl
  rename_i config hconfig
  split_ifs at h
  all_goals first
    | (cases h; rfl)
    | (simp only [Option.bind_eq_bind, Option.bind_eq_some] at h
       obtain ⟨_, -, _, -, _, -, h⟩ := h
       cases h
       simp [lockKeys, hconfig])

/-- `stake`'s writes: the position keeps its times, or a new one starts now, unlocked. -/
theorem recordStake_lockKeys {user : Address} {amount : Int} {u : Unit} {s' : State}
    (h : recordStake host user amount s = some (u, s')) :
    lockKeys s' = { lockKeys s with
      locks := Function.update (lockKeys s).locks user
        (some (((s.positions.lookup user).map (·.stakeStartTime)).getD host.timestamp,
          ((s.positions.lookup user).map (·.lockEndTime)).getD 0)) } := by
  simp only [recordStake, Option.bind_eq_bind, Option.bind_eq_some] at h
  obtain ⟨_, -, _, -, _, -, _, -, _, -, _, -, h⟩ := h
  cases h
  refine (lockKeys_of_positions s (by rfl) (by rfl)).trans ?_
  rw [positionLocks_insert]
  cases s.positions.lookup user <;> rfl

theorem recordUnstake_lockKeys {user : Address} {config : RewardConfig}
    {position : StakingPosition} {unlockAt : Nat} {s' : State}
    (h : recordUnstake host user config position s = some (unlockAt, s')) :
    lockKeys s' = { lockKeys s with
      locks := Function.update (lockKeys s).locks user
        (some (position.stakeStartTime, host.timestamp + config.unstakeCooldown)) } := by
  simp only [recordUnstake, Option.bind_eq_bind, Option.bind_eq_some] at h
  obtain ⟨s₁, hs₁, _, -, _, hunlock, h⟩ := h
  obtain ⟨-, rfl⟩ := addU_eq_some.1 hunlock
  cases h
  rw [← updatePoolRewards_lockKeys hs₁]
  simp only [lockKeys, positionLocks_insert]

theorem recordCompleteUnstake_lockKeys {user : Address} {position : StakingPosition} {r : Int}
    {s' : State} (h : recordCompleteUnstake host user position s = some (r, s')) :
    lockKeys s' = { lockKeys s with locks := Function.update (lockKeys s).locks user none } := by
  simp only [recordCompleteUnstake, Option.bind_eq_bind, Option.bind_eq_some] at h
  obtain ⟨s₁, hs₁, _, -, _, -, _, -, _, -, _, -, h⟩ := h
  cases h
  rw [← updatePoolRewards_lockKeys hs₁]
  simp only [lockKeys, positionLocks_erase]

theorem recordClaim_lockKeys {user : Address} {position : StakingPosition} {total r : Int}
    {s' : State} (hp : s.positions.lookup user = some position)
    (h : recordClaim host user position total s = some (r, s')) : lockKeys s' = lockKeys s := by
  simp only [recordClaim, Option.bind_eq_bind, Option.bind_eq_some] at h
  obtain ⟨_, -, h⟩ := h
  cases h
  refine (lockKeys_of_positions s (by rfl) (by rfl)).trans ?_
  rw [positionLocks_insert]
  exact LockKeys.update_self _ _ (by simp [lockKeys, positionLocks, hp])

theorem init_lockStep (a g r : Address) (rate : Nat) (m : Int) (p cd : Nat) (pool : Int) :
    LockStep host s (.init a g r rate m p cd pool) ((init host a g r rate m p cd pool s).after s) := by
  unfold init
  split_ifs with ha
  · exact .keep rfl
  all_goals refine .of_authorized ?_
  iterate 3 exact .keep rfl
  exact .init a g r rate m p cd pool (by simpa using ha) rfl

theorem stake_lockStep (user : Address) (amount : Int) :
    LockStep host s (.stake user amount) ((stake host user amount s).after s) :=
  .of_authorized <| .of_checked fun _ _ _ _ h => by
    obtain ⟨s₁, hs₁, h⟩ := Option.bind_eq_some.1 h
    have hk := recordStake_lockKeys h
    rw [updatePoolRewards_lockKeys hs₁, updatePoolRewards_positions hs₁] at hk
    cases hl : s.positions.lookup user with
    | none => exact .opened user amount hl (by simpa [hl] using hk)
    | some position =>
      exact .keep (hk.trans (LockKeys.update_self _ _ (by simp [lockKeys, positionLocks, hl])))

theorem initiateUnstake_lockStep (user : Address) (amount : Int) :
    LockStep host s (.initiateUnstake user amount) ((initiateUnstake host user amount s).after s) := by
  refine .of_authorized ?_
  split; · exact .keep rfl
  split; · exact .keep rfl
  rename_i position hpos
  split; · exact .keep rfl
  split; · exact .keep rfl
  rename_i config hconfig
  split; · exact .keep rfl
  rename_i d hd
  split; · exact .keep rfl
  rename_i hlt
  unfold subU at hd
  split_ifs at hd with hle
  cases hd
  refine .of_trapping fun _ _ h => ?_
  exact .locked user amount position config hpos hconfig (by omega) (recordUnstake_lockKeys h)

theorem completeUnstake_lockStep (user : Address) :
    LockStep host s (.completeUnstake user) ((completeUnstake host user s).after s) :=
  .of_authorized <| .of_checked fun _ _ _ _ h => .removed user (recordCompleteUnstake_lockKeys h)

theorem claimRewards_lockStep (user : Address) :
    LockStep host s (.claimRewards user) ((claimRewards host user s).after s) := by
  refine .of_authorized ?_
  split; · exact .keep rfl
  split; · exact .keep rfl
  split; · exact .keep rfl
  rename_i s₁ hs₁
  have hk := updatePoolRewards_lockKeys hs₁
  split; · exact .keep hk
  rename_i position hpos
  split; · exact .keep rfl
  split; · exact .keep hk
  exact .of_trapping fun _ _ h => .keep ((recordClaim_lockKeys hpos h).trans hk)

theorem addRewards_lockStep (admin : Address) (amount : Int) :
    LockStep host s (.addRewards admin amount) ((addRewards host admin amount s).after s) :=
  .of_authorized <| .of_checked fun config _ _ hc h => by
    simp only [Except.bind_eq_ok, okOr_eq_ok, Except.throw_eq, Except.pure_eq,
      Except.error_bind, Except.ok_bind, Except.ite_error_eq_ok] at hc
    obtain ⟨_, -, -, hconfig⟩ := hc
    simp only [Option.bind_eq_bind, Option.bind_eq_some] at h
    obtain ⟨_, -, _, -, h⟩ := h
    cases h
    exact .keep (by simp [lockKeys, hconfig])

theorem setRewardRate_lockStep (admin : Address) (rate : Nat) :
    LockStep host s (.setRewardRate admin rate) ((setRewardRate host admin rate s).after s) := by
  refine .of_authorized ?_
  split; · exact .keep rfl
  split; · exact .keep rfl
  split; · exact .keep rfl
  rename_i s₁ hs₁
  have hk := updatePoolRewards_lockKeys hs₁
  split
  · exact .keep hk
  · rename_i config hconfig
    exact .keep (Eq.trans (by simp [lockKeys, hconfig]) hk)

/-- Every call steps as `LockStep` says. -/
theorem lockStep_apply (host : Host) (c : Call) (s : State) : LockStep host s c (c.apply host s) := by
  cases c with
  | init a g r rate m p cd pool => exact init_lockStep a g r rate m p cd pool
  | stake user amount => exact stake_lockStep user amount
  | initiateUnstake user amount => exact initiateUnstake_lockStep user amount
  | completeUnstake user => exact completeUnstake_lockStep user
  | claimRewards user => exact claimRewards_lockStep user
  | delegate => exact .of_authorized <| .of_checked fun _ _ _ _ h => by cases h; exact .keep rfl
  | undelegate => exact .of_authorized <| .of_checked fun _ _ _ _ h => by cases h; exact .keep rfl
  | addRewards admin amount => exact addRewards_lockStep admin amount
  | setRewardRate admin rate => exact setRewardRate_lockStep admin rate
  | setPaused => exact .of_authorized <| .of_checked fun _ _ _ _ h => by cases h; exact .keep rfl
  | getPendingRewards user =>
    show LockStep host s _ ((getPendingRewards host user s).after s)
    unfold getPendingRewards
    split
    · exact .keep rfl
    · exact .keep (updatePoolRewards_lockKeys ‹_›)

end Steps

/-! ## The lock over every run -/

/-- Before `initialize` there are no periods and no lock; after it, a position's lock is
    unset, or at least its start plus the two periods. -/
structure LockInv (k : LockKeys) : Prop where
  fresh : k.admin = none → k.periods = none
  unset : k.periods = none → ∀ u x, k.locks u = some x → x.2 = 0
  locked : ∀ u start lock mp cd, k.locks u = some (start, lock) → k.periods = some (mp, cd) →
    lock = 0 ∨ start + mp + cd ≤ lock

theorem lockInv_empty : LockInv (lockKeys State.empty) where
  fresh _ := rfl
  unset _ _ _ h := by simp [lockKeys, positionLocks, State.empty] at h
  locked _ _ _ _ _ h := by simp [lockKeys, positionLocks, State.empty] at h

/-- The lock keys after writing one position's times. -/
theorem LockInv.update {k : LockKeys} (hi : LockInv k) {u : Address} {x : Option (Nat × Nat)}
    (hu : k.periods = none → ∀ y, x = some y → y.2 = 0)
    (hl : ∀ start lock mp cd, x = some (start, lock) → k.periods = some (mp, cd) →
      lock = 0 ∨ start + mp + cd ≤ lock) :
    LockInv { k with locks := Function.update k.locks u x } where
  fresh := hi.fresh
  unset hp v y h := by
    simp only [Function.update_apply] at h
    split_ifs at h
    · exact hu hp y h
    · exact hi.unset hp v y h
  locked v start lock mp cd h hp := by
    simp only [Function.update_apply] at h
    split_ifs at h
    · exact hl start lock mp cd h hp
    · exact hi.locked v start lock mp cd h hp

theorem LockStep.lockInv {c : Call} {s' : State} (h : LockStep host s c s') (hi : LockInv (lockKeys s)) :
    LockInv (lockKeys s') := by
  cases h with
  | keep h => exact h ▸ hi
  | init _ _ _ _ _ _ _ _ ha h =>
    have hp := hi.fresh ha
    rw [h]
    exact ⟨nofun, nofun, fun u start lock _ _ hl _ => .inl (hi.unset hp u (start, lock) hl)⟩
  | opened _ _ _ h =>
    rw [h]
    exact hi.update (fun _ y hy => by cases hy; rfl) fun _ _ _ _ hy _ => by cases hy; exact .inl rfl
  | locked _ _ position config _ hc hle h =>
    rw [h]
    refine hi.update (fun hp => by simp [lockKeys, hc] at hp) fun _ _ mp cd hy hp => ?_
    simp only [lockKeys, hc, Option.map_some', Option.some.injEq, Prod.mk.injEq] at hy hp
    obtain ⟨rfl, rfl⟩ := hy
    obtain ⟨rfl, rfl⟩ := hp
    exact .inr (by omega)
  | removed _ h =>
    rw [h]
    exact hi.update (fun _ _ hy => by cases hy) fun _ _ _ _ hy => by cases hy

theorem reachable_lockInv {t : Nat} {s : State} (hs : Reachable t s) : LockInv (lockKeys s) := by
  induction hs with
  | empty => exact lockInv_empty
  | step host c _ _ ih => exact (lockStep_apply host c _).lockInv ih

/-- In every reachable state, `complete_unstake` pays a position out only once
    `min_stake_period + unstake_cooldown` have passed since the position was opened. -/
theorem unstake_waits {t : Nat} {s : State} (hs : Reachable t s) {host : Host} {user : Address}
    {amount : Int} {s' : State} (h : completeUnstake host user s = .ret (.ok amount) s') :
    ∃ position config, s.positions.lookup user = some position ∧ s.rewardConfig = some config ∧
      position.stakeStartTime + config.minStakePeriod + config.unstakeCooldown ≤ host.timestamp := by
  simp only [completeUnstake, authorized_eq_ret, checked_eq_ok, Except.bind_eq_ok, okOr_eq_ok,
    Except.throw_eq, Except.pure_eq, Except.error_bind, Except.ok_bind,
    Except.ite_error_eq_ok] at h
  obtain ⟨-, _, ⟨position, hpos, hlock, -⟩, -⟩ := h
  have hi := reachable_lockInv hs
  have hl : (lockKeys s).locks user = some (position.stakeStartTime, position.lockEndTime) := by
    simp [lockKeys, positionLocks, hpos]
  cases hc : s.rewardConfig with
  | none =>
    have := hi.unset (by simp [lockKeys, hc]) user _ hl
    simp only at this
    omega
  | some config =>
    have := hi.locked user _ _ config.minStakePeriod config.unstakeCooldown hl (by simp [lockKeys, hc])
    exact ⟨position, config, hpos, rfl, by omega⟩

/-- Periods of 10 and 20 seconds: a stake at time 0, its unstake initiated at 15. -/
def cooldownRun : List (Host × Call) :=
  [(⟨0, fun _ => true⟩, .init ⟨0⟩ ⟨8⟩ ⟨9⟩ 100 1 10 20 0),
   (⟨0, fun _ => true⟩, .stake ⟨1⟩ 50),
   (⟨15, fun _ => true⟩, .initiateUnstake ⟨1⟩ 50)]

/-- The unstake completed at 40, once the lock set at 15 + 20 has passed. -/
theorem unstake_waits_after_cooldown :
    let s : State := exec State.empty cooldownRun
    let s' : State := (completeUnstake ⟨40, fun _ => true⟩ ⟨1⟩ s).after s
    (Reachable 15 s ∧ completeUnstake ⟨40, fun _ => true⟩ ⟨1⟩ s = .ret (.ok 50) s') ∧
      ∃ position config, s.positions.lookup ⟨1⟩ = some position ∧ s.rewardConfig = some config ∧
        position.stakeStartTime + config.minStakePeriod + config.unstakeCooldown ≤ 40 :=
  have hs := reachable_exec .empty cooldownRun (by simp [cooldownRun])
  have hc : completeUnstake ⟨40, fun _ => true⟩ ⟨1⟩ (exec State.empty cooldownRun) =
      .ret (.ok 50) ((completeUnstake ⟨40, fun _ => true⟩ ⟨1⟩ (exec State.empty cooldownRun)).after
        (exec State.empty cooldownRun)) := by rfl
  ⟨⟨hs, hc⟩, unstake_waits hs hc⟩

end StellarInsured.Staking
