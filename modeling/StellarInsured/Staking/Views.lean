import StellarInsured.Staking.Locks
import StellarInsured.Staking.Positions
import StellarInsured.Staking.Pool

/-
  StellarInsured.Staking.Views — the two views of `GovernanceStakingContract` that
  subtract a position's `stake_start_time` from the ledger time: `get_voting_power` and
  `can_unstake`.

  The subtraction is a `u64` one, and traps when the start is later than now. A position's
  start is the time of the `stake` that opened it and ledger time never runs back, so in a
  state reached by time `t` every position started by `t` (`StartsBy`, over the lock
  steps of `Staking.Locks`).

  Proved (`voting_power_bounded`): in every state reached by time `t`, called at any time
  from `t` on, neither view traps, and the voting power is between 0 and three times the
  caller's stake, the multiplier's ceiling. It is 0 without a position, and 0 also when
  the `u128` product of stake and multiplier overflows (`unwrap_or(0)`).
-/

namespace StellarInsured.Staking

/-! ## Every position started by the time of the last call -/

/-- Every position's `stake_start_time` is at most `t`. -/
def StartsBy (t : Nat) (k : LockKeys) : Prop := ∀ u x, k.locks u = some x → x.1 ≤ t

theorem StartsBy.mono {t t' : Nat} {k : LockKeys} (h : StartsBy t k) (ht : t ≤ t') :
    StartsBy t' k :=
  fun u x hx => (h u x hx).trans ht

theorem StartsBy.update {t : Nat} {k : LockKeys} (h : StartsBy t k) {u : Address}
    {x : Option (Nat × Nat)} (hx : ∀ y, x = some y → y.1 ≤ t) :
    StartsBy t { k with locks := Function.update k.locks u x } := by
  intro v y hy
  simp only [Function.update_apply] at hy
  split_ifs at hy
  · exact hx y hy
  · exact h v y hy

theorem LockStep.startsBy {host : Host} {s s' : State} {c : Call} {t : Nat}
    (h : LockStep host s c s') (hi : StartsBy t (lockKeys s)) (ht : t ≤ host.timestamp) :
    StartsBy host.timestamp (lockKeys s') := by
  have hi := hi.mono ht
  cases h with
  | keep h => rwa [h]
  | init _ _ _ _ _ _ _ _ _ h => rw [h]; exact hi
  | opened _ _ _ h => rw [h]; exact hi.update fun _ hy => by cases hy; exact le_rfl
  | locked _ _ _ _ _ _ hle h => rw [h]; exact hi.update fun _ hy => by cases hy; omega
  | removed _ h => rw [h]; exact hi.update nofun

theorem reachable_startsBy {t : Nat} {s : State} (hs : Reachable t s) : StartsBy t (lockKeys s) := by
  induction hs with
  | empty => intro u x h; simp [lockKeys, positionLocks, State.empty] at h
  | step host c _ ht ih => exact (lockStep_apply host c _).startsBy ih ht

/-! ## The views -/

/-- `(staked as u128).checked_mul(multiplier).unwrap_or(0) / 100 as i128` on a stake
    `x ≥ 0`: between 0 and `3 x`, the multiplier being at most 300. -/
theorem votingPower_bounds {x : Int} (hx : 0 ≤ x) (d : Nat) :
    0 ≤ u128AsI128 ((mulU 128 (i128AsU128 x) (calculateVotingPowerMultiplier d)).getD 0 / 100) ∧
      u128AsI128 ((mulU 128 (i128AsU128 x) (calculateVotingPowerMultiplier d)).getD 0 / 100) ≤
        3 * x := by
  have ha := i128AsU128_le hx
  have hm : calculateVotingPowerMultiplier d ≤ 300 := by
    unfold calculateVotingPowerMultiplier
    omega
  have hy : (mulU 128 (i128AsU128 x) (calculateVotingPowerMultiplier d)).getD 0 ≤
      i128AsU128 x * 300 ∧ (mulU 128 (i128AsU128 x) (calculateVotingPowerMultiplier d)).getD 0 < 2 ^ 128 := by
    have := Nat.mul_le_mul_left (i128AsU128 x) hm
    unfold mulU
    split_ifs <;> simp only [Option.getD_some, Option.getD_none] <;> omega
  unfold u128AsI128
  rw [if_pos (by omega)]
  omega

/-- With every position started by now and every stake positive, `get_voting_power`
    returns, between 0 and three times the caller's stake. -/
theorem getVotingPower_bounds {host : Host} {s : State} (hi : StakeInv (stakeKeys s))
    (ht : StartsBy host.timestamp (lockKeys s)) (user : Address) :
    ∃ p, getVotingPower host s user = some p ∧ 0 ≤ p ∧ p ≤ 3 * stakedOf s user := by
  unfold getVotingPower stakedOf
  cases hl : s.positions.lookup user with
  | none => exact ⟨0, rfl, le_rfl, by simp⟩
  | some position =>
    have hstart : position.stakeStartTime ≤ host.timestamp :=
      ht user (_, position.lockEndTime) (by simp [lockKeys, positionLocks, hl])
    simp only [subU, if_pos hstart, Option.map_some', Option.some.injEq, exists_eq_left',
      Option.getD_some]
    exact votingPower_bounds (hi.staked_pos user position hl).le _

/-- With every position started by now, `can_unstake` returns. -/
theorem canUnstake_isSome {host : Host} {s : State} (ht : StartsBy host.timestamp (lockKeys s))
    (user : Address) : (canUnstake host s user).isSome := by
  unfold canUnstake
  split
  · rfl
  · rename_i position hl
    have hstart : position.stakeStartTime ≤ host.timestamp :=
      ht user (_, position.lockEndTime) (by simp [lockKeys, positionLocks, hl])
    split_ifs
    · rfl
    · split
      · rfl
      · simp [subU, hstart]

/-- In every state reached by time `t`, at any later ledger time, `get_voting_power`
    returns a power between 0 and three times the caller's stake, and `can_unstake`
    returns: neither view traps on `now - stake_start_time`. -/
theorem voting_power_bounded {t : Nat} {s : State} (hs : Reachable t s) {host : Host}
    (ht : t ≤ host.timestamp) (user : Address) :
    (∃ p, getVotingPower host s user = some p ∧ 0 ≤ p ∧ p ≤ 3 * stakedOf s user) ∧
      (canUnstake host s user).isSome :=
  have hst := (reachable_startsBy hs).mono ht
  ⟨getVotingPower_bounds (reachable_stakeInv hs) hst user, canUnstake_isSome hst user⟩

/-- A stake of 50 made at time 0. -/
def powerRun : List (Host × Call) :=
  [(⟨0, fun _ => true⟩, .init ⟨0⟩ ⟨8⟩ ⟨9⟩ 100 1 10 20 0),
   (⟨0, fun _ => true⟩, .stake ⟨1⟩ 50)]

/-- Two years on, the stake of 50 votes with 60. -/
theorem voting_power_after_two_years :
    let s : State := exec State.empty powerRun
    (Reachable 0 s ∧ 0 ≤ 2 * secondsPerYear) ∧
      ((∃ p, getVotingPower ⟨2 * secondsPerYear, fun _ => true⟩ s ⟨1⟩ = some p ∧ 0 ≤ p ∧
        p ≤ 3 * stakedOf s ⟨1⟩) ∧ (canUnstake ⟨2 * secondsPerYear, fun _ => true⟩ s ⟨1⟩).isSome) ∧
      getVotingPower ⟨2 * secondsPerYear, fun _ => true⟩ s ⟨1⟩ = some 60 :=
  have hs := reachable_exec .empty powerRun (by simp [powerRun])
  ⟨⟨hs, Nat.zero_le _⟩, voting_power_bounded hs (Nat.zero_le _) ⟨1⟩, rfl⟩

end StellarInsured.Staking
