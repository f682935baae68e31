import StellarInsured.CrossChain.Messages
import Mathlib.Algebra.Ring.Int.Defs

/-
  StellarInsured.CrossChain.Proposals — the cross-chain governance proposals of
  `CrossChainContract` over whole runs: their tallies, their `CC_VOTER` records and their
  lifecycle (`Active` 0, `Passed` 1, `Rejected` 2, `Executed` 3, `Expired` 4).

  What a call can do to the proposal keys (`propKeys`: the proposals, their counter and
  the `CC_VOTER` records) is said once, in `PropStep`: a call other than the four
  proposal calls leaves them as they were (`*_propKeys`); `create_cross_chain_proposal`
  stores an `Active` proposal with empty tallies under the next id; a vote adds its
  weight to one tally and writes its `CC_VOTER` key; `finalize` and `execute` set the
  status (`propStep_apply`).

  `CC_VOTER(p, v)` keeps only the side of `v`'s vote, the weight going into the tally.
  The votes a run cast, each `vote_cross_chain_proposal` that returned `Ok`, are its
  `ballots`, against which the tallies are compared.

  Proved, for every run from a fresh contract (`proposal_law`):
  - no voter has two ballots on one proposal, and `CC_VOTER(p, v)` is the side of the
    ballot of `v` on `p`;
  - `total_voters` is the number of `CC_VOTER(p, ·)` records, `yes_votes` and `no_votes`
    the sums of the weights of the yes and no ballots on `p`;
  - a vote is recorded only on an `Active` proposal before `voting_ends_at`, and no call
    changes the tallies of a proposal that is no longer `Active`;
  - a stored proposal stays stored; its status moves only `Active` to `Passed`,
    `Rejected` or `Expired` by `finalize` at or after `voting_ends_at`, and `Passed` to
    `Executed` by `execute_cross_chain_proposal`, which succeeds only on a `Passed`
    proposal; an executed proposal never changes again.
  As built, `finalize` compares a truncated `i128` percentage with 50:
  - `finalStatus_of_tallies`: a proposal passes exactly at 51% of the votes or more, so
    `majority_rejected` rejects 101 yes against 99 no;
  - `large_vote_blocks_finalize`: one vote of `2^126` makes `yes_votes * 100` overflow,
    and the proposal can never be finalized.
-/

namespace StellarInsured.CrossChain

/-! ## Ballots -/

/-- One successful `vote_cross_chain_proposal`. -/
structure Ballot where
  proposalId : Nat
  voter : Address
  weight : Int
  isYes : Bool
  deriving DecidableEq, Repr

/-- The ballot a call casts: a `vote_cross_chain_proposal` that returned `Ok`. -/
def Call.ballot (host : Host) (s : State) : Call → Option Ballot
  | .voteCrossChainProposal voter p w y =>
    match CrossChain.voteCrossChainProposal host voter p w y s with
    | .ret (.ok ()) _ => some ⟨p, voter, w, y⟩
    | _ => none
  | _ => none

/-- The ballots a run casts, in order. -/
def ballots : State → List (Host × Call) → List Ballot
  | _, [] => []
  | s, (host, c) :: cs => (c.ballot host s).toList ++ ballots (c.apply host s) cs

/-- The summed weight of the ballots on proposal `p` on the side `isYes`. -/
def ballotWeight (B : List Ballot) (p : Nat) (isYes : Bool) : Int :=
  ((B.filter fun b => b.proposalId = p ∧ b.isYes = isYes).map (·.weight)).sum

/-- The number of `CC_VOTER(p, ·)` records. -/
def voterCount (voters : Finmap fun _ : Nat × Address => Bool) (p : Nat) : Nat :=
  (voters.keys.filter (·.1 = p)).card

theorem ballotWeight_append_single (B : List Ballot) (b : Ballot) (p : Nat) (side : Bool) :
    ballotWeight (B ++ [b]) p side =
      ballotWeight B p side + if b.proposalId = p ∧ b.isYes = side then b.weight else 0 := by
  unfold ballotWeight
  split_ifs with h <;> simp [h]

theorem ballotWeight_eq_zero {B : List Ballot} {p : Nat} (h : ∀ b ∈ B, b.proposalId ≠ p)
    (side : Bool) : ballotWeight B p side = 0 := by
  rw [ballotWeight, List.filter_eq_nil_iff.2 fun b hb => by simp [h b hb]]
  rfl

theorem keys_insert {α : Type} [DecidableEq α] {β : α → Type} (a : α) (b : β a)
    (m : Finmap β) :
    (m.insert a b).keys = insert a m.keys := by
  ext
  simp only [Finmap.mem_keys, Finmap.mem_insert, Finset.mem_insert]

theorem voterCount_insert {voters : Finmap fun _ : Nat × Address => Bool} {p : Nat} {v : Address}
    (h : (p, v) ∉ voters) (y : Bool) (q : Nat) :
    voterCount (voters.insert (p, v) y) q = voterCount voters q + if p = q then 1 else 0 := by
  unfold voterCount
  rw [keys_insert, Finset.filter_insert]
  split_ifs with hpq
  · exact Finset.card_insert_of_not_mem fun hm => h (Finmap.mem_keys.1 (Finset.mem_filter.1 hm).1)
  · rfl

theorem isSome_update {α : Type} {f : Nat → Option α} {m n : Nat} {a : α} :
    (Function.update f m (some a) n).isSome ↔ n = m ∨ (f n).isSome := by
  rw [Function.update_apply]
  split_ifs with h <;> simp [h]

/-- A stored entry read after a write under id `q`: the old entry, or `x` when `p = q`. -/
theorem exists_update_of_stored {α : Type} {f : Nat → Option α} {p q : Nat} {a x : α}
    {P : α → Prop} (hp : f p = some a) (hsame : P a) (hnew : p = q → P x) :
    ∃ y, Function.update f q (some x) p = some y ∧ P y := by
  by_cases hpq : p = q
  · exact ⟨x, by rw [hpq, Function.update_same], hnew hpq⟩
  · exact ⟨a, by rw [Function.update_noteq hpq, hp], hsame⟩

theorem voterCount_eq_zero {voters : Finmap fun _ : Nat × Address => Bool} {p : Nat}
    (h : ∀ v, (p, v) ∉ voters) : voterCount voters p = 0 := by
  refine Finset.card_eq_zero.2 (Finset.filter_eq_empty_iff.2 fun ⟨q, v⟩ hk hq => ?_)
  subst hq
  exact h v (Finmap.mem_keys.1 hk)

/-! ## The proposal keys -/

/-- The keys the proposal invariants read. -/
structure PropKeys where
  proposals : Nat → Option CrossChainProposal
  propCnt : Option Nat
  voters : Finmap fun _ : Nat × Address => Bool

def propKeys (s : State) : PropKeys := ⟨s.proposals, s.propCnt, s.voters⟩

theorem updateStatsField_propKeys {s s' : State} {upd : CrossChainStats → Option CrossChainStats}
    (h : updateStatsField s upd = some s') : propKeys s' = propKeys s := by
  obtain ⟨_, -, rfl⟩ := Option.map_eq_some'.1 h
  rfl

/-! ## Calls that leave the proposal keys alone -/

section Frames

variable (host : Host) (s : State)

theorem init_propKeys (a g o : Address) (n e : Nat) :
    propKeys ((init host a g o n e s).after s) = propKeys s := by
  unfold init
  split_ifs
  all_goals first | rfl | exact authorized_keeps propKeys rfl

theorem setPausedBy_propKeys (admin : Address) (p : Bool) :
    propKeys ((setPausedBy host admin p s).after s) = propKeys s :=
  authorized_keeps propKeys <| checked_keeps propKeys fun _ _ _ h => by cases h; rfl

theorem grantRole_propKeys (admin x : Address) (r : Nat) :
    propKeys ((grantRole host admin x r s).after s) = propKeys s := by
  unfold grantRole
  cases grantRoleKeys host admin x r s.auth <;> rfl

theorem registerBridge_propKeys (admin address : Address) (name : String) (cs : List Nat) :
    propKeys ((registerBridge host admin address name cs s).after s) = propKeys s :=
  authorized_keeps propKeys <| checked_keeps propKeys fun _ _ _ h => by
    obtain ⟨_, -, h⟩ := Option.bind_eq_some.1 h
    obtain ⟨_, hs, ⟨⟩⟩ := Option.bind_eq_some.1 h
    exact (updateStatsField_propKeys hs).trans rfl

theorem updateBridgeStatus_propKeys (admin : Address) (b st : Nat) :
    propKeys ((updateBridgeStatus host admin b st s).after s) = propKeys s :=
  authorized_keeps propKeys <| checked_keeps propKeys fun _ _ _ h => by cases h; rfl

theorem registerChain_propKeys (admin : Address) (c : Nat) (name : String) (b : Nat) :
    propKeys ((registerChain host admin c name b s).after s) = propKeys s :=
  authorized_keeps propKeys <| checked_keeps propKeys fun _ _ _ h => by
    obtain ⟨_, hs, ⟨⟩⟩ := Option.bind_eq_some.1 h
    exact (updateStatsField_propKeys hs).trans rfl

theorem deactivateChain_propKeys (admin : Address) (c : Nat) :
    propKeys ((deactivateChain host admin c s).after s) = propKeys s :=
  authorized_keeps propKeys <| checked_keeps propKeys fun _ _ _ h => by cases h; rfl

theorem sendMessage_propKeys (x : Address) (t ty p : Nat) :
    propKeys ((sendMessage host x t ty p s).after s) = propKeys s :=
  authorized_keeps propKeys <| checked_keeps propKeys fun _ _ _ h => by
    obtain ⟨_, -, h⟩ := Option.bind_eq_some.1 h
    obtain ⟨_, -, h⟩ := Option.bind_eq_some.1 h
    obtain ⟨_, hs, ⟨⟩⟩ := Option.bind_eq_some.1 h
    exact (updateStatsField_propKeys hs).trans rfl

theorem receiveMessage_propKeys (x : Address) (c ty p n : Nat) :
    propKeys ((receiveMessage host x c ty p n s).after s) = propKeys s :=
  authorized_keeps propKeys <| checked_keeps propKeys fun _ _ _ h => by
    obtain ⟨_, -, h⟩ := Option.bind_eq_some.1 h
    obtain ⟨_, hs, ⟨⟩⟩ := Option.bind_eq_some.1 h
    exact (updateStatsField_propKeys hs).trans rfl

theorem registerValidator_propKeys (admin v : Address) (b : Nat) :
    propKeys ((registerValidator host admin v b s).after s) = propKeys s :=
  authorized_keeps propKeys <| checked_keeps propKeys fun _ _ _ h => by
    obtain ⟨_, hs, ⟨⟩⟩ := Option.bind_eq_some.1 h
    exact (updateStatsField_propKeys hs).trans rfl

theorem deactivateValidator_propKeys (admin v : Address) (b : Nat) :
    propKeys ((deactivateValidator host admin v b s).after s) = propKeys s :=
  authorized_keeps propKeys <| checked_keeps propKeys fun _ _ _ h => by cases h; rfl

theorem recordConfirmation_propKeys {config : CrossChainConfig} {v : Address} {m : Nat}
    {msg : CrossChainMessage} {chain : ChainRecord} {record : ValidatorRecord} {b : Nat}
    {s' : State} (h : recordConfirmation host config v m msg chain record s = some (b, s')) :
    propKeys s' = propKeys s := by
  obtain ⟨_, -, h⟩ := Option.bind_eq_some.1 h
  obtain ⟨s₁, hs₁, h⟩ := Option.bind_eq_some.1 h
  obtain ⟨_, -, ⟨⟩⟩ := Option.bind_eq_some.1 h
  show propKeys s₁ = _
  unfold countConfirmed at hs₁
  split_ifs at hs₁
  · exact (updateStatsField_propKeys hs₁).trans rfl
  · cases hs₁
    rfl

theorem confirmMessage_propKeys (v : Address) (m : Nat) :
    propKeys ((confirmMessage host v m s).after s) = propKeys s := by
  refine authorized_keeps propKeys ?_
  split
  · rfl
  · split_ifs
    · rfl
    split
    · rfl
    · rfl
    · exact checked_keeps propKeys fun _ _ _ h => recordConfirmation_propKeys host s h

theorem executeMessage_propKeys (e : Address) (m : Nat) :
    propKeys ((executeMessage host e m s).after s) = propKeys s := by
  refine authorized_keeps propKeys ?_
  split
  · rfl
  · split
    · rfl
    · rfl
    · exact checked_keeps propKeys fun _ _ _ h => by
        obtain ⟨_, hs, ⟨⟩⟩ := Option.bind_eq_some.1 h
        exact (updateStatsField_propKeys hs).trans rfl

theorem registerAssetMapping_propKeys (admin x : Address) (c h d : Nat) :
    propKeys ((registerAssetMapping host admin x c h d s).after s) = propKeys s :=
  authorized_keeps propKeys <| checked_keeps propKeys fun _ _ _ h => by
    obtain ⟨_, hs, ⟨⟩⟩ := Option.bind_eq_some.1 h
    exact (updateStatsField_propKeys hs).trans rfl

theorem deactivateAssetMapping_propKeys (admin x : Address) (c : Nat) :
    propKeys ((deactivateAssetMapping host admin x c s).after s) = propKeys s :=
  authorized_keeps propKeys <| checked_keeps propKeys fun _ _ _ h => by cases h; rfl

end Frames

/-! ## What a call does to the proposals -/

/-- What one call can do to the proposal keys, guards included, with the ballot it casts. -/
inductive PropStep (host : Host) (s : State) : Call → State → Option Ballot → Prop
  /-- The call leaves the proposal keys as they were and casts no ballot. -/
  | frame {c : Call} {s' : State} : propKeys s' = propKeys s → PropStep host s c s' none
  /-- `create_cross_chain_proposal` stores an `Active` proposal with empty tallies under
      the next id, open for fourteen days. -/
  | create {s' : State} (proposer : Address) (title : String) (proposalType chainId : Nat) :
      propKeys s' = { propKeys s with
        proposals := Function.update s.proposals (s.propCnt.getD 0 + 1)
          (some ⟨s.propCnt.getD 0 + 1, proposer, title, proposalType, chainId, 0, 0, 0, 0,
            host.timestamp + 14 * 86400, host.timestamp⟩)
        propCnt := some (s.propCnt.getD 0 + 1) } →
      PropStep host s (.createCrossChainProposal proposer title proposalType chainId) s' none
  /-- `vote_cross_chain_proposal` on an `Active` proposal before its end, by a voter with
      no `CC_VOTER` key on it, adds the weight to one tally, counts the voter and writes
      the key. -/
  | vote {s' : State} (voter : Address) (p : Nat) (w : Int) (y : Bool)
      (proposal proposal' : CrossChainProposal) :
      s.proposals p = some proposal → proposal.status = 0 →
      host.timestamp < proposal.votingEndsAt → (p, voter) ∉ s.voters → 0 < w →
      tally proposal w y = some proposal' →
      propKeys s' = { propKeys s with
        proposals := Function.update s.proposals p
          (some { proposal' with totalVoters := proposal'.totalVoters + 1 })
        voters := s.voters.insert (p, voter) y } →
      PropStep host s (.voteCrossChainProposal voter p w y) s' (some ⟨p, voter, w, y⟩)
  /-- `finalize_cross_chain_proposal` sets the final status of an `Active` proposal at or
      after its end. -/
  | finalize {s' : State} (p : Nat) (proposal : CrossChainProposal) (newStatus : Nat) :
      s.proposals p = some proposal → proposal.status = 0 →
      proposal.votingEndsAt ≤ host.timestamp → finalStatus proposal = some newStatus →
      propKeys s' = { propKeys s with
        proposals :=
          Function.update s.proposals p (some { proposal with status := newStatus }) } →
      PropStep host s (.finalizeCrossChainProposal p) s' none
  /-- `execute_cross_chain_proposal` marks a `Passed` proposal `Executed`. -/
  | execute {s' : State} (e : Address) (p : Nat) (proposal : CrossChainProposal) :
      s.proposals p = some proposal → proposal.status = 1 →
      propKeys s' = { propKeys s with
        proposals := Function.update s.proposals p (some { proposal with status := 3 }) } →
      PropStep host s (.executeCrossChainProposal e p) s' none

section Steps

variable {host : Host} {s : State}

theorem PropStep.of_authorized {β : Type} {c : Call} {caller : Address}
    {k : Outcome ContractError β State} (h : PropStep host s c (k.after s) none) :
    PropStep host s c ((authorized host caller k).after s) none := by
  unfold authorized
  split
  · exact h
  · exact .frame rfl

/-- A call made of checks and writes steps as its writes do. -/
theorem PropStep.of_checked {α β : Type} {c : Call} {checks : Except ContractError α}
    {writes : α → Option (β × State)}
    (h : ∀ a b s', checks = .ok a → writes a = some (b, s') → PropStep host s c s' none) :
    PropStep host s c ((checked s checks writes).after s) none := by
  unfold checked
  split
  · exact .frame rfl
  · rename_i a
    cases hw : writes a with
    | none => exact .frame rfl
    | some p => exact h a p.1 p.2 rfl hw

theorem finalStatus_cases {proposal : CrossChainProposal} {n : Nat}
    (h : finalStatus proposal = some n) : n = 1 ∨ n = 2 ∨ n = 4 := by
  obtain ⟨t, -, h⟩ := Option.bind_eq_some.1 h
  split_ifs at h
  · cases h
    simp
  · obtain ⟨_, -, rfl⟩ := Option.map_eq_some'.1 h
    split_ifs <;> simp

/-- The tally adds the weight to one side and changes nothing else. -/
theorem tally_eq_some {proposal proposal' : CrossChainProposal} {w : Int} {y : Bool}
    (h : tally proposal w y = some proposal') :
    proposal' = { proposal with
      yesVotes := proposal.yesVotes + if y then w else 0
      noVotes := proposal.noVotes + if y then 0 else w } := by
  cases y <;> simp only [tally, addI128, Bool.false_eq_true, if_true, if_false] at h <;>
    split_ifs at h <;> simp at h <;> subst h <;> simp

theorem createCrossChainProposal_step (x : Address) (t : String) (ty c : Nat) :
    PropStep host s (.createCrossChainProposal x t ty c)
      ((createCrossChainProposal host x t ty c s).after s) none :=
  .of_authorized <| .of_checked fun _ _ _ _ h => by
    obtain ⟨_, he, h⟩ := Option.bind_eq_some.1 h
    obtain ⟨-, rfl⟩ := addU_eq_some.1 he
    obtain ⟨_, hid, h⟩ := Option.bind_eq_some.1 h
    obtain ⟨-, rfl⟩ := addU_eq_some.1 hid
    obtain ⟨_, hs, ⟨⟩⟩ := Option.bind_eq_some.1 h
    exact .create x t ty c ((updateStatsField_propKeys hs).trans rfl)

/-- A successful vote passed every check and made its writes. -/
theorem voteCrossChainProposal_eq_ok {voter : Address} {p : Nat} {w : Int} {y : Bool} {s' : State}
    (h : voteCrossChainProposal host voter p w y s = .ret (.ok ()) s') :
    ∃ proposal proposal', s.proposals p = some proposal ∧ proposal.status = 0 ∧
      host.timestamp < proposal.votingEndsAt ∧ (p, voter) ∉ s.voters ∧ 0 < w ∧
      tally proposal w y = some proposal' ∧
      propKeys s' = { propKeys s with
        proposals := Function.update s.proposals p
          (some { proposal' with totalVoters := proposal'.totalVoters + 1 })
        voters := s.voters.insert (p, voter) y } := by
  simp only [voteCrossChainProposal, authorized_eq_ret, checked_eq_ok] at h
  obtain ⟨-, proposal, hc, hw⟩ := h
  simp only [Except.bind_eq_ok, requireNotPaused_eq_ok, getCrossChainProposal_eq_ok,
    Except.throw_eq, Except.pure_eq, Except.error_bind, Except.ok_bind, Except.ite_error_eq_ok,
    Except.ok.injEq] at hc
  obtain ⟨_, -, hw0, _, hp, h0, hend, hv, rfl⟩ := hc
  obtain ⟨proposal', ht, hw⟩ := Option.bind_eq_some.1 hw
  obtain ⟨_, hn, ⟨⟩⟩ := Option.bind_eq_some.1 hw
  obtain ⟨-, rfl⟩ := addU_eq_some.1 hn
  exact ⟨_, proposal', hp, by simpa using h0, by simpa using hend, hv, by simpa using hw0,
    ht, rfl⟩

theorem voteCrossChainProposal_step (voter : Address) (p : Nat) (w : Int) (y : Bool) :
    PropStep host s (.voteCrossChainProposal voter p w y)
      ((voteCrossChainProposal host voter p w y s).after s)
      ((Call.voteCrossChainProposal voter p w y).ballot host s) := by
  simp only [Call.ballot]
  rcases hv : voteCrossChainProposal host voter p w y s with ⟨_ | ⟨⟩, s'⟩ | _
  · refine .frame (congrArg propKeys ?_)
    simp only [voteCrossChainProposal, authorized_eq_ret] at hv
    exact checked_eq_error hv.2
  · obtain ⟨proposal, proposal', hp, h0, hend, hv, hw, ht, hk⟩ :=
      voteCrossChainProposal_eq_ok hv
    exact .vote voter p w y proposal proposal' hp h0 hend hv hw ht hk
  · exact .frame rfl

theorem finalizeCrossChainProposal_step (p : Nat) :
    PropStep host s (.finalizeCrossChainProposal p)
      ((finalizeCrossChainProposal host p s).after s) none :=
  .of_checked fun proposal _ _ hc h => by
    simp only [Except.bind_eq_ok, getCrossChainProposal_eq_ok, Except.throw_eq, Except.pure_eq,
      Except.error_bind, Except.ok_bind, Except.ite_error_eq_ok, Except.ok.injEq] at hc
    obtain ⟨_, hp, h0, hend, rfl⟩ := hc
    obtain ⟨_, hn, ⟨⟩⟩ := Option.bind_eq_some.1 h
    exact .finalize p _ _ hp (by simpa using h0) (by simpa using hend) hn rfl

/-- A successful `execute_cross_chain_proposal` found the proposal `Passed`. -/
theorem executeCrossChainProposal_eq_ok {e : Address} {p : Nat} {s' : State}
    (h : executeCrossChainProposal host e p s = .ret (.ok ()) s') :
    ∃ proposal, s.proposals p = some proposal ∧ proposal.status = 1 ∧
      s' = setProposal s p { proposal with status := 3 } := by
  simp only [executeCrossChainProposal, authorized_eq_ret, checked_eq_ok] at h
  obtain ⟨-, proposal, hc, ⟨⟩⟩ := h
  simp only [Except.bind_eq_ok, requireNotPaused_eq_ok, getCrossChainProposal_eq_ok,
    Except.throw_eq, Except.pure_eq, Except.error_bind, Except.ok_bind, Except.ite_error_eq_ok,
    Except.ok.injEq] at hc
  obtain ⟨_, -, _, hp, h1, rfl⟩ := hc
  exact ⟨_, hp, by simpa using h1, rfl⟩

theorem executeCrossChainProposal_step (e : Address) (p : Nat) :
    PropStep host s (.executeCrossChainProposal e p)
      ((executeCrossChainProposal host e p s).after s) none := by
  rcases hx : executeCrossChainProposal host e p s with ⟨_ | ⟨⟩, s'⟩ | _
  · refine .frame (congrArg propKeys ?_)
    simp only [executeCrossChainProposal, authorized_eq_ret] at hx
    exact checked_eq_error hx.2
  · obtain ⟨proposal, hp, h1, rfl⟩ := executeCrossChainProposal_eq_ok hx
    exact .execute e p proposal hp h1 rfl
  · exact .frame rfl

/-- Every call takes one of the steps of `PropStep`, casting its ballot. -/
theorem propStep_apply (host : Host) (c : Call) (s : State) :
    PropStep host s c (c.apply host s) (c.ballot host s) := by
  cases c with
  | init a g o n e => exact .frame (init_propKeys host s a g o n e)
  | pause a => exact .frame (setPausedBy_propKeys host s a true)
  | unpause a => exact .frame (setPausedBy_propKeys host s a false)
  | grantRole a x r => exact .frame (grantRole_propKeys host s a x r)
  | registerBridge a x n cs => exact .frame (registerBridge_propKeys host s a x n cs)
  | updateBridgeStatus a b st => exact .frame (updateBridgeStatus_propKeys host s a b st)
  | registerChain a c n b => exact .frame (registerChain_propKeys host s a c n b)
  | deactivateChain a c => exact .frame (deactivateChain_propKeys host s a c)
  | sendMessage x t ty p => exact .frame (sendMessage_propKeys host s x t ty p)
  | receiveMessage x c ty p n => exact .frame (receiveMessage_propKeys host s x c ty p n)
  | registerValidator a v b => exact .frame (registerValidator_propKeys host s a v b)
  | deactivateValidator a v b => exact .frame (deactivateValidator_propKeys host s a v b)
  | confirmMessage v m => exact .frame (confirmMessage_propKeys host s v m)
  | executeMessage x m => exact .frame (executeMessage_propKeys host s x m)
  | registerAssetMapping a x c h d => exact .frame (registerAssetMapping_propKeys host s a x c h d)
  | deactivateAssetMapping a x c => exact .frame (deactivateAssetMapping_propKeys host s a x c)
  | createCrossChainProposal x t ty c => exact createCrossChainProposal_step x t ty c
  | voteCrossChainProposal x p w y => exact voteCrossChainProposal_step x p w y
  | finalizeCrossChainProposal p => exact finalizeCrossChainProposal_step p
  | executeCrossChainProposal x p => exact executeCrossChainProposal_step x p

end Steps

/-! ## The proposal invariant -/

/-- The invariant of the proposal keys, against the ballots `B` cast so far. -/
structure PropInv (k : PropKeys) (B : List Ballot) : Prop where
  /-- Proposals are stored only up to the counter. -/
  stored_le : ∀ p, (k.proposals p).isSome → p ≤ k.propCnt.getD 0
  /-- A `CC_VOTER` key names a stored proposal. -/
  voter_stored : ∀ p v, (p, v) ∈ k.voters → (k.proposals p).isSome
  voters_once : (B.map fun b => (b.proposalId, b.voter)).Nodup
  voter_record : ∀ p v y, k.voters.lookup (p, v) = some y ↔ ∃ w, ⟨p, v, w, y⟩ ∈ B
  total_voters : ∀ p proposal, k.proposals p = some proposal →
    proposal.totalVoters = voterCount k.voters p
  yes_votes : ∀ p proposal, k.proposals p = some proposal →
    proposal.yesVotes = ballotWeight B p true
  no_votes : ∀ p proposal, k.proposals p = some proposal →
    proposal.noVotes = ballotWeight B p false

theorem propInv_empty : PropInv (propKeys State.empty) [] where
  stored_le _ h := by simp [propKeys, State.empty] at h
  voter_stored _ _ h := (Finmap.not_mem_empty h).elim
  voters_once := List.nodup_nil
  voter_record _ _ _ := by simp [propKeys, State.empty]
  total_voters _ _ h := by simp [propKeys, State.empty] at h
  yes_votes _ _ h := by simp [propKeys, State.empty] at h
  no_votes _ _ h := by simp [propKeys, State.empty] at h

section Preservation

variable {k : PropKeys} {B : List Ballot}

theorem PropInv.mem_voters (hi : PropInv k B) {b : Ballot} (hb : b ∈ B) :
    (b.proposalId, b.voter) ∈ k.voters :=
  Finmap.mem_of_lookup_eq_some ((hi.voter_record _ _ b.isYes).2 ⟨b.weight, hb⟩)

/-- Past the counter nothing is stored, and no key or ballot names the proposal. -/
theorem PropInv.fresh (hi : PropInv k B) {p : Nat} (hp : k.propCnt.getD 0 < p) :
    k.proposals p = none ∧ (∀ v, (p, v) ∉ k.voters) ∧ ∀ b ∈ B, b.proposalId ≠ p := by
  have hnone : k.proposals p = none :=
    Option.not_isSome_iff_eq_none.1 fun h => absurd (hi.stored_le p h) (by omega)
  have hkeys : ∀ v, (p, v) ∉ k.voters := fun v hv => by
    simpa [hnone] using hi.voter_stored p v hv
  exact ⟨hnone, hkeys, fun b hb he => hkeys b.voter (he ▸ hi.mem_voters hb)⟩

theorem PropInv.next_fresh (hi : PropInv k B) : k.proposals (k.propCnt.getD 0 + 1) = none :=
  (hi.fresh (Nat.lt_succ_self _)).1

theorem PropInv.create (hi : PropInv k B) (proposal : CrossChainProposal)
    (hy : proposal.yesVotes = 0) (hn : proposal.noVotes = 0) (ht : proposal.totalVoters = 0) :
    PropInv { k with
      proposals := Function.update k.proposals (k.propCnt.getD 0 + 1) (some proposal)
      propCnt := some (k.propCnt.getD 0 + 1) } B := by
  obtain ⟨-, hkeys, hballots⟩ := hi.fresh (Nat.lt_succ_self _)
  refine ⟨fun q hq => ?_, fun q v hqv => isSome_update.2 (.inr (hi.voter_stored q v hqv)),
    hi.voters_once, hi.voter_record, fun q pr hq => ?_, fun q pr hq => ?_, fun q pr hq => ?_⟩
  · rcases isSome_update.1 hq with rfl | hq
    · exact le_refl _
    · exact (hi.stored_le q hq).trans (Nat.le_succ _)
  · rcases update_eq_some hq with ⟨rfl, rfl⟩ | ⟨-, hq⟩
    · rw [ht, voterCount_eq_zero hkeys]
    · exact hi.total_voters q pr hq
  · rcases update_eq_some hq with ⟨rfl, rfl⟩ | ⟨-, hq⟩
    · rw [hy, ballotWeight_eq_zero hballots]
    · exact hi.yes_votes q pr hq
  · rcases update_eq_some hq with ⟨rfl, rfl⟩ | ⟨-, hq⟩
    · rw [hn, ballotWeight_eq_zero hballots]
    · exact hi.no_votes q pr hq

/-- Rewriting a stored proposal without touching its tallies keeps the invariant. -/
theorem PropInv.rewrite (hi : PropInv k B) {p : Nat} {proposal : CrossChainProposal}
    (hp : k.proposals p = some proposal) (proposal' : CrossChainProposal)
    (ht : proposal'.totalVoters = proposal.totalVoters)
    (hy : proposal'.yesVotes = proposal.yesVotes) (hn : proposal'.noVotes = proposal.noVotes) :
    PropInv { k with proposals := Function.update k.proposals p (some proposal') } B := by
  have hs : ∀ q, (k.proposals q).isSome →
      (Function.update k.proposals p (some proposal') q).isSome :=
    fun _ h => isSome_update.2 (.inr h)
  refine ⟨fun q hq => ?_, fun q v hqv => hs q (hi.voter_stored q v hqv), hi.voters_once,
    hi.voter_record, fun q pr hq => ?_, fun q pr hq => ?_, fun q pr hq => ?_⟩
  · rcases isSome_update.1 hq with rfl | hq
    · exact hi.stored_le q (by simp [hp])
    · exact hi.stored_le q hq
  · rcases update_eq_some hq with ⟨rfl, rfl⟩ | ⟨-, hq⟩
    · rw [ht, hi.total_voters q proposal hp]
    · exact hi.total_voters q pr hq
  · rcases update_eq_some hq with ⟨rfl, rfl⟩ | ⟨-, hq⟩
    · rw [hy, hi.yes_votes q proposal hp]
    · exact hi.yes_votes q pr hq
  · rcases update_eq_some hq with ⟨rfl, rfl⟩ | ⟨-, hq⟩
    · rw [hn, hi.no_votes q proposal hp]
    · exact hi.no_votes q pr hq

/-- A vote by a voter with no key on a stored proposal keeps the invariant, with its
    ballot added. -/
theorem PropInv.vote (hi : PropInv k B) {p : Nat} {voter : Address} {w : Int} {y : Bool}
    {proposal proposal' : CrossChainProposal} (hp : k.proposals p = some proposal)
    (hv : (p, voter) ∉ k.voters) (ht : tally proposal w y = some proposal') :
    PropInv { k with
      proposals := Function.update k.proposals p
        (some { proposal' with totalVoters := proposal'.totalVoters + 1 })
      voters := k.voters.insert (p, voter) y } (B ++ [⟨p, voter, w, y⟩]) := by
  obtain rfl := tally_eq_some ht
  have hnew : ∀ w' y', (⟨p, voter, w', y'⟩ : Ballot) ∉ B :=
    fun _ _ hb => hv (hi.mem_voters hb)
  refine ⟨fun q hq => ?_, fun q v hqv => ?_, ?_, fun q v y' => ?_, fun q pr hq => ?_,
    fun q pr hq => ?_, fun q pr hq => ?_⟩
  · rcases isSome_update.1 hq with rfl | hq
    · exact hi.stored_le q (by simp [hp])
    · exact hi.stored_le q hq
  · rcases Finmap.mem_insert.1 hqv with he | hqv
    · exact isSome_update.2 (.inl (Prod.mk.inj he).1)
    · exact isSome_update.2 (.inr (hi.voter_stored q v hqv))
  · simp only [List.map_append, List.map_cons, List.map_nil]
    refine hi.voters_once.append (List.nodup_singleton _) (List.disjoint_singleton.2 fun hm => ?_)
    obtain ⟨b, hb, he⟩ := List.mem_map.1 hm
    exact hv (he ▸ hi.mem_voters hb)
  · by_cases hk : (q, v) = (p, voter)
    · obtain ⟨rfl, rfl⟩ := Prod.mk.inj hk
      simp [Finmap.lookup_insert, hnew, eq_comm]
    · have hne : ∀ w', (⟨q, v, w', y'⟩ : Ballot) ≠ ⟨p, voter, w, y⟩ := fun _ he =>
        hk (by cases he; rfl)
      rw [Finmap.lookup_insert_of_ne _ hk, hi.voter_record]
      simp [hne]
  · rw [voterCount_insert hv]
    rcases update_eq_some hq with ⟨rfl, rfl⟩ | ⟨hqp, hq⟩
    · simp [hi.total_voters q proposal hp]
    · rw [if_neg (Ne.symm hqp), add_zero]
      exact hi.total_voters q pr hq
  · rw [ballotWeight_append_single]
    rcases update_eq_some hq with ⟨rfl, rfl⟩ | ⟨hqp, hq⟩
    · cases y <;> simp [hi.yes_votes q proposal hp]
    · simp [Ne.symm hqp, hi.yes_votes q pr hq]
  · rw [ballotWeight_append_single]
    rcases update_eq_some hq with ⟨rfl, rfl⟩ | ⟨hqp, hq⟩
    · cases y <;> simp [hi.no_votes q proposal hp]
    · simp [Ne.symm hqp, hi.no_votes q pr hq]

end Preservation

section Runs

variable {host : Host} {s s' : State} {c : Call} {b : Option Ballot}

theorem PropStep.propInv {B : List Ballot} (h : PropStep host s c s' b)
    (hi : PropInv (propKeys s) B) : PropInv (propKeys s') (B ++ b.toList) := by
  cases h with
  | frame hk => simpa [hk] using hi
  | create x t ty ch hk => simpa [hk] using hi.create _ rfl rfl rfl
  | vote v p w y proposal proposal' hp _ _ hv _ ht hk => rw [hk]; exact hi.vote hp hv ht
  | finalize p proposal n hp _ _ _ hk =>
    simpa [hk] using hi.rewrite hp { proposal with status := n } rfl rfl rfl
  | execute e p proposal hp _ hk =>
    simpa [hk] using hi.rewrite hp { proposal with status := 3 } rfl rfl rfl

theorem propInv_exec {B : List Ballot} (hi : PropInv (propKeys s) B) (run : List (Host × Call)) :
    PropInv (propKeys (exec s run)) (B ++ ballots s run) := by
  induction run generalizing s B with
  | nil => simpa [exec, ballots] using hi
  | cons hc run ih =>
    obtain ⟨host, c⟩ := hc
    simpa [exec, ballots] using ih ((propStep_apply host c s).propInv hi)

/-- What one step does to a stored proposal: it stays stored, and is unchanged, or takes
    a vote while `Active`, or is finalized, or executed. -/
theorem PropStep.stored (h : PropStep host s c s' b)
    (hfresh : s.proposals (s.propCnt.getD 0 + 1) = none) {p : Nat} {proposal : CrossChainProposal}
    (hp : s.proposals p = some proposal) :
    ∃ proposal', s'.proposals p = some proposal' ∧
      (proposal' = proposal ∨
        (proposal.status = 0 ∧ proposal'.status = 0) ∨
        (c = .finalizeCrossChainProposal p ∧ proposal.status = 0 ∧
          proposal.votingEndsAt ≤ host.timestamp ∧
          ∃ n, (n = 1 ∨ n = 2 ∨ n = 4) ∧ proposal' = { proposal with status := n }) ∨
        ((∃ e, c = .executeCrossChainProposal e p) ∧ proposal.status = 1 ∧
          proposal' = { proposal with status := 3 })) := by
  cases h with
  | frame hk =>
    have hs' : s'.proposals = s.proposals := congrArg PropKeys.proposals hk
    exact ⟨proposal, hs' ▸ hp, .inl rfl⟩
  | create x t ty ch hk =>
    rw [show s'.proposals = Function.update s.proposals _ _ from congrArg PropKeys.proposals hk]
    exact exists_update_of_stored hp (.inl rfl) fun hpq => by simp [← hpq, hp] at hfresh
  | vote v q w y pr pr' hq h0 _ _ _ ht hk =>
    rw [show s'.proposals = Function.update s.proposals _ _ from congrArg PropKeys.proposals hk]
    refine exists_update_of_stored hp (.inl rfl) fun hpq => ?_
    obtain rfl : pr = proposal := Option.some.inj (hq.symm.trans (hpq ▸ hp))
    exact .inr (.inl ⟨h0, by simp [tally_eq_some ht, h0]⟩)
  | finalize q pr n hq h0 hend hn hk =>
    rw [show s'.proposals = Function.update s.proposals _ _ from congrArg PropKeys.proposals hk]
    refine exists_update_of_stored hp (.inl rfl) fun hpq => ?_
    subst hpq
    obtain rfl : pr = proposal := Option.some.inj (hq.symm.trans hp)
    exact .inr (.inr (.inl ⟨rfl, h0, hend, n, finalStatus_cases hn, rfl⟩))
  | execute e q pr hq h1 hk =>
    rw [show s'.proposals = Function.update s.proposals _ _ from congrArg PropKeys.proposals hk]
    refine exists_update_of_stored hp (.inl rfl) fun hpq => ?_
    subst hpq
    obtain rfl : pr = proposal := Option.some.inj (hq.symm.trans hp)
    exact .inr (.inr (.inr ⟨⟨e, rfl⟩, h1, rfl⟩))

/-- A proposal a step stores where there was none is a new `Active` one with empty
    tallies. -/
theorem PropStep.created (h : PropStep host s c s' b) {p : Nat} {proposal : CrossChainProposal}
    (hp : s.proposals p = none) (hp' : s'.proposals p = some proposal) :
    proposal.status = 0 ∧ proposal.yesVotes = 0 ∧ proposal.noVotes = 0 ∧
      proposal.totalVoters = 0 := by
  cases h with
  | frame hk =>
    have hs' : s'.proposals = s.proposals := congrArg PropKeys.proposals hk
    simp [hs', hp] at hp'
  | create x t ty ch hk =>
    rw [show s'.proposals = Function.update s.proposals _ _ from congrArg PropKeys.proposals hk]
      at hp'
    rcases update_eq_some hp' with ⟨-, rfl⟩ | ⟨-, hp'⟩
    · exact ⟨rfl, rfl, rfl, rfl⟩
    · simp [hp] at hp'
  | vote _ q _ _ _ _ hq _ _ _ _ _ hk | finalize q _ _ hq _ _ _ hk | execute _ q _ hq _ hk =>
    rw [show s'.proposals = Function.update s.proposals q _ from congrArg PropKeys.proposals hk]
      at hp'
    rcases update_eq_some hp' with ⟨rfl, -⟩ | ⟨-, hp'⟩
    · simp [hp] at hq
    · simp [hp] at hp'

end Runs

/-! ## The proposal law -/

/-- The proposals of a state, against the ballots `B` that were cast to reach it. -/
structure ProposalLaw (s : State) (B : List Ballot) : Prop where
  /-- No voter has two ballots on one proposal. -/
  voters_once : (B.map fun b => (b.proposalId, b.voter)).Nodup
  /-- `CC_VOTER(p, v)` is the side of the ballot of `v` on `p`, and exists only for one. -/
  voter_record : ∀ p v y, s.voters.lookup (p, v) = some y ↔ ∃ w, ⟨p, v, w, y⟩ ∈ B
  /-- `total_voters` is the number of `CC_VOTER(p, ·)` records. -/
  total_voters : ∀ p proposal, s.proposals p = some proposal →
    proposal.totalVoters = voterCount s.voters p
  /-- `yes_votes` sums the weights of the yes ballots on `p`. -/
  yes_votes : ∀ p proposal, s.proposals p = some proposal →
    proposal.yesVotes = ballotWeight B p true
  /-- `no_votes` sums the weights of the no ballots on `p`. -/
  no_votes : ∀ p proposal, s.proposals p = some proposal →
    proposal.noVotes = ballotWeight B p false
  /-- A vote is recorded only on an `Active` proposal before `voting_ends_at`. -/
  vote_open : ∀ (host : Host) (voter : Address) p w y s',
    voteCrossChainProposal host voter p w y s = .ret (.ok ()) s' →
    ∃ proposal, s.proposals p = some proposal ∧ proposal.status = 0 ∧
      host.timestamp < proposal.votingEndsAt
  /-- No call changes the tallies of a proposal that is no longer `Active`. -/
  frozen : ∀ (host : Host) (c : Call) p (proposal : CrossChainProposal),
    s.proposals p = some proposal → proposal.status ≠ 0 →
    ∃ proposal', (c.apply host s).proposals p = some proposal' ∧
      proposal'.yesVotes = proposal.yesVotes ∧ proposal'.noVotes = proposal.noVotes ∧
      proposal'.totalVoters = proposal.totalVoters
  /-- A new proposal is `Active`, with empty tallies. -/
  created_active : ∀ (host : Host) (c : Call) p (proposal : CrossChainProposal),
    s.proposals p = none → (c.apply host s).proposals p = some proposal →
    proposal.status = 0 ∧ proposal.yesVotes = 0 ∧ proposal.noVotes = 0 ∧
      proposal.totalVoters = 0
  /-- A stored proposal stays stored, and its status moves only `Active` to `Passed`,
      `Rejected` or `Expired` by `finalize` at or after `voting_ends_at`, or `Passed` to
      `Executed` by `execute_cross_chain_proposal`. -/
  status_moves : ∀ (host : Host) (c : Call) p (proposal : CrossChainProposal),
    s.proposals p = some proposal →
    ∃ proposal', (c.apply host s).proposals p = some proposal' ∧
      (proposal'.status = proposal.status ∨
        (c = .finalizeCrossChainProposal p ∧ proposal.status = 0 ∧
          proposal.votingEndsAt ≤ host.timestamp ∧
          (proposal'.status = 1 ∨ proposal'.status = 2 ∨ proposal'.status = 4)) ∨
        ((∃ e, c = .executeCrossChainProposal e p) ∧ proposal.status = 1 ∧
          proposal'.status = 3))
  /-- `execute_cross_chain_proposal` succeeds only on a `Passed` proposal. -/
  execute_passed : ∀ (host : Host) (e : Address) p s',
    executeCrossChainProposal host e p s = .ret (.ok ()) s' →
    ∃ proposal, s.proposals p = some proposal ∧ proposal.status = 1
  /-- An executed proposal never changes again. -/
  executed_stays : ∀ (host : Host) (c : Call) p (proposal : CrossChainProposal),
    s.proposals p = some proposal → proposal.status = 3 →
    (c.apply host s).proposals p = some proposal

theorem proposalLaw_of_propInv {s : State} {B : List Ballot} (hi : PropInv (propKeys s) B) :
    ProposalLaw s B where
  voters_once := hi.voters_once
  voter_record := hi.voter_record
  total_voters := hi.total_voters
  yes_votes := hi.yes_votes
  no_votes := hi.no_votes
  vote_open _ _ _ _ _ _ h :=
    let ⟨proposal, _, hp, h0, hend, _⟩ := voteCrossChainProposal_eq_ok h
    ⟨proposal, hp, h0, hend⟩
  frozen host c _ _ hp hs := by
    obtain ⟨proposal', h', hcase⟩ := (propStep_apply host c s).stored hi.next_fresh hp
    refine ⟨proposal', h', ?_⟩
    rcases hcase with rfl | ⟨h0, -⟩ | ⟨-, h0, -⟩ | ⟨-, -, rfl⟩
    · exact ⟨rfl, rfl, rfl⟩
    · exact absurd h0 hs
    · exact absurd h0 hs
    · exact ⟨rfl, rfl, rfl⟩
  created_active host c _ _ hp hp' := (propStep_apply host c s).created hp hp'
  status_moves host c _ _ hp := by
    obtain ⟨proposal', h', hcase⟩ := (propStep_apply host c s).stored hi.next_fresh hp
    refine ⟨proposal', h', ?_⟩
    rcases hcase with rfl | ⟨h0, h0'⟩ | ⟨hc, h0, hend, n, hn, rfl⟩ | ⟨he, h1, rfl⟩
    · exact .inl rfl
    · exact .inl (h0'.trans h0.symm)
    · exact .inr (.inl ⟨hc, h0, hend, hn⟩)
    · exact .inr (.inr ⟨he, h1, rfl⟩)
  execute_passed _ _ _ _ h :=
    let ⟨proposal, hp, h1, _⟩ := executeCrossChainProposal_eq_ok h
    ⟨proposal, hp, h1⟩
  executed_stays host c _ _ hp h3 := by
    obtain ⟨proposal', h', hcase⟩ := (propStep_apply host c s).stored hi.next_fresh hp
    rcases hcase with rfl | ⟨h0, -⟩ | ⟨-, h0, -⟩ | ⟨-, h1, -⟩
    · exact h'
    all_goals omega

/-- The proposal law holds in every state a run reaches, against the run's ballots. -/
theorem proposal_law (run : List (Host × Call)) :
    ProposalLaw (exec State.empty run) (ballots State.empty run) :=
  proposalLaw_of_propInv (by simpa using propInv_exec propInv_empty run)

/-! ## As built: the finalize arithmetic -/

/-- For tallies whose sum and `yes_votes * 100` fit an `i128`, `finalize` passes a
    proposal exactly when its yes votes are at least 51% of the votes cast: the
    percentage is truncated before it is compared with 50. -/
theorem finalStatus_of_tallies {proposal : CrossChainProposal} (hy : 0 ≤ proposal.yesVotes)
    (hn : 0 ≤ proposal.noVotes) (ht : 0 < proposal.yesVotes + proposal.noVotes)
    (hfit : fitsI128 (proposal.yesVotes + proposal.noVotes) = true)
    (hscaled : fitsI128 (proposal.yesVotes * 100) = true) :
    finalStatus proposal = some (if 51 * (proposal.yesVotes + proposal.noVotes) ≤
      proposal.yesVotes * 100 then 1 else 2) := by
  obtain ⟨_, _, _, _, _, y, n, _, _, _, _⟩ := proposal
  dsimp only at *
  have hq : 0 ≤ y * 100 / (y + n) ∧ y * 100 / (y + n) ≤ y * 100 :=
    ⟨Int.ediv_nonneg (by omega) ht.le, Int.ediv_le_self _ (by omega)⟩
  have hqfit : fitsI128 (y * 100 / (y + n)) = true := by
    simp only [fitsI128, i128Min, decide_eq_true_eq] at hscaled ⊢
    omega
  have hpct : 50 < y * 100 / (y + n) ↔ 51 * (y + n) ≤ y * 100 := by
    rw [← Int.le_ediv_iff_mul_le ht]
    omega
  have hdiv : (y * 100).tdiv (y + n) = y * 100 / (y + n) := Int.tdiv_eq_ediv (by omega) ht.le
  simp [finalStatus, addI128, yesPercent, hfit, hscaled, ht.ne', hdiv, hqfit, hpct]

/-- `finalize` of an `Active` proposal past its end whose status arithmetic overflows
    traps. -/
theorem finalizeCrossChainProposal_of_finalStatus_none {host : Host} {s : State} {p : Nat}
    {proposal : CrossChainProposal} (hp : s.proposals p = some proposal)
    (h0 : proposal.status = 0) (hend : proposal.votingEndsAt ≤ host.timestamp)
    (hf : finalStatus proposal = none) : finalizeCrossChainProposal host p s = .abort := by
  have hg : getCrossChainProposal s p = .ok proposal := getCrossChainProposal_eq_ok.2 hp
  simp [finalizeCrossChainProposal, checked, hg, h0, Nat.not_lt.2 hend, trapping, hf]

/-- Yes 101 against no 99 is a majority, and `finalize` rejects it: `10100 / 200`
    truncates to 50, which is not above 50. -/
theorem majority_rejected :
    let host : Host := ⟨0, fun _ => true⟩
    let s := exec State.empty [(host, .init ⟨0⟩ ⟨0⟩ ⟨0⟩ 1 3600),
      (host, .createCrossChainProposal ⟨1⟩ "p" 0 0),
      (host, .voteCrossChainProposal ⟨2⟩ 1 101 true),
      (host, .voteCrossChainProposal ⟨3⟩ 1 99 false)]
    let o := finalizeCrossChainProposal ⟨14 * 86400, fun _ => true⟩ 1 s
    Reachable s ∧
      ((s.proposals 1).map fun p => (p.status, p.yesVotes, p.noVotes)) = some (0, 101, 99) ∧
      o.result = some (.ok 2) ∧ ((o.after s).proposals 1).map (·.status) = some 2 :=
  ⟨reachable_exec .empty _, rfl, rfl, rfl⟩

/-- One accepted vote of `2^126` makes `yes_votes * 100` overflow: from the end of the
    vote on, every `finalize` traps, and the proposal stays `Active` for good. -/
theorem large_vote_blocks_finalize :
    let host : Host := ⟨0, fun _ => true⟩
    let s := exec State.empty [(host, .init ⟨0⟩ ⟨0⟩ ⟨0⟩ 1 3600),
      (host, .createCrossChainProposal ⟨1⟩ "p" 0 0),
      (host, .voteCrossChainProposal ⟨2⟩ 1 ((2 ^ 126 : Nat) : Int) true)]
    Reachable s ∧
      ((s.proposals 1).map fun p => (p.status, p.yesVotes)) = some (0, ((2 ^ 126 : Nat) : Int)) ∧
      ∀ t, 14 * 86400 ≤ t → finalizeCrossChainProposal ⟨t, fun _ => true⟩ 1 s = .abort :=
  ⟨reachable_exec .empty _, rfl, fun _ ht => finalizeCrossChainProposal_of_finalStatus_none rfl rfl ht rfl⟩

end StellarInsured.CrossChain
