import StellarInsured.CrossChain.Registry
import StellarInsured.CrossChain.Proposals

/-
  StellarInsured.CrossChain.Pause — what `pause` stops in `CrossChainContract`.

  `require_not_paused` guards `register_bridge`, `register_chain`, `send_message`,
  `receive_message`, `register_validator`, `confirm_message`, `execute_message`,
  `register_asset_mapping`, `create_cross_chain_proposal`, `vote_cross_chain_proposal` and
  `execute_cross_chain_proposal`: while the flag is set each of them writes nothing,
  whoever calls it and whatever it is given (`paused_guarded`). The other writers never
  read the flag (`Call.pauseExempt`): `initialize`, `pause`, `unpause`, `grant_role`,
  `update_bridge_status`, the three `deactivate_*`, and `finalize_cross_chain_proposal`.

  Proved, from every paused state and over every run without `unpause`
  (`pause_freezes_traffic`):
  - the contract stays paused;
  - every message key stays as it was: the messages, their list and counter, the nonces,
    the `CONFIRMER` keys and the message counts of the stats;
  - nothing is registered: the bridge, chain, validator and asset lists, the bridge
    counter and the registry totals stay as they were;
  - no proposal is created and no vote is cast;
  - every entry point that checks `require_not_paused` writes nothing there.
  As built, what still runs while paused: bridge status updates, deactivations, role
  grants, and `finalize_cross_chain_proposal`, which names no caller at all.
-/

namespace StellarInsured.CrossChain

/-- The writing entry points that never read the pause flag. -/
def Call.pauseExempt : Call → Bool
  | .init _ _ _ _ _ | .pause _ | .unpause _ | .grantRole _ _ _ | .updateBridgeStatus _ _ _
  | .deactivateChain _ _ | .deactivateValidator _ _ _ | .deactivateAssetMapping _ _ _
  | .finalizeCrossChainProposal _ => true
  | _ => false

/-- The registry keys without their records: the lists, the bridge counter and the totals. -/
def RegKeys.lists (k : RegKeys) : RegKeys :=
  { k with
    bridges := fun _ => none
    chains := fun _ => none
    validators := fun _ _ => none
    assetMaps := fun _ _ => none }

/-- What a paused contract keeps: every message key, the registry lists and counts, the
    proposal counter and the votes. -/
structure PausedKept (s s' : State) : Prop where
  messages : msgKeys s' = msgKeys s
  registries : (regKeys s').lists = (regKeys s).lists
  propCnt : s'.propCnt = s.propCnt
  voters : s'.voters = s.voters

namespace PausedKept

variable {s s' s'' : State}

theorem refl (s : State) : PausedKept s s := ⟨rfl, rfl, rfl, rfl⟩

theorem trans (h : PausedKept s s') (h' : PausedKept s' s'') : PausedKept s s'' :=
  ⟨h'.messages.trans h.messages, h'.registries.trans h.registries, h'.propCnt.trans h.propCnt,
    h'.voters.trans h.voters⟩

theorem of_keys (hm : msgKeys s' = msgKeys s) (hr : regKeys s' = regKeys s)
    (hp : propKeys s' = propKeys s) : PausedKept s s' :=
  ⟨hm, congrArg RegKeys.lists hr, congrArg PropKeys.propCnt hp, congrArg PropKeys.voters hp⟩

/-- A call that rewrites a registry record and leaves the other keys. -/
theorem of_rewrite (hm : msgKeys s' = msgKeys s) (hr : (regKeys s').lists = (regKeys s).lists)
    (hp : propKeys s' = propKeys s) : PausedKept s s' :=
  ⟨hm, hr, congrArg PropKeys.propCnt hp, congrArg PropKeys.voters hp⟩

end PausedKept

/-! ## The guarded entry points -/

section Guarded

variable {s : State}

/-- A checked body whose checks fail writes nothing. -/
theorem checked_after_of_error {ε α β σ : Type} {s : σ} {checks : Except ε α}
    {writes : α → Option (β × σ)} (h : ∀ a, checks ≠ .ok a) : (checked s checks writes).after s = s := by
  cases checks with
  | error => rfl
  | ok a => exact absurd rfl (h a)

theorem pendingMessage_of_paused (hp : isPaused s = true) (m : Nat) :
    pendingMessage s m = .error .paused := by
  simp [pendingMessage, requireNotPaused, hp]

/-- While paused, an entry point that checks `require_not_paused` writes nothing. -/
theorem paused_guarded (hp : isPaused s = true) (host : Host) {c : Call} (hc : c.pauseExempt = false) :
    c.apply host s = s := by
  have guarded {α β : Type} {checks : Except ContractError α} {writes : α → Option (β × State)}
      {caller : Address} (h : ∀ a, checks = .ok a → isPaused s = false) :
      (authorized host caller (checked s checks writes)).after s = s :=
    authorized_keeps id <| checked_after_of_error fun a ha => by simp [h a ha] at hp
  cases c <;> simp only [Call.pauseExempt, Bool.true_eq_false] at hc
  all_goals first
    | exact authorized_keeps id (by simp only [pendingMessage_of_paused hp]; rfl)
    | exact guarded fun _ h => by simp [Except.bind_eq_ok, hp] at h

end Guarded

/-! ## The writers that run while paused -/

section Exempt

variable (host : Host) (s : State)

theorem init_paused (a g o : Address) (n e : Nat) : ((init host a g o n e s).after s).paused = s.paused := by
  unfold init
  split_ifs
  all_goals first | rfl | exact authorized_keeps State.paused rfl

theorem pause_paused (hp : isPaused s = true) (a : Address) :
    isPaused ((setPausedBy host a true s).after s) = true := by
  unfold setPausedBy authorized checked
  split
  · split
    · exact hp
    · rfl
  · exact hp

theorem grantRole_paused (a x : Address) (r : Nat) :
    ((grantRole host a x r s).after s).paused = s.paused := by
  unfold grantRole
  cases grantRoleKeys host a x r s.auth <;> rfl

/-- `update_bridge_status` and the `deactivate_*` calls write one record. -/
theorem rewrite_paused {α : Type} {caller : Address} {checks : Except ContractError α}
    {write : α → State} (hw : ∀ a, (write a).paused = s.paused) :
    ((authorized host caller (checked s checks fun a => some ((), write a))).after s).paused =
      s.paused :=
  authorized_keeps State.paused <| checked_keeps State.paused fun a _ _ h => by cases h; exact hw a

theorem finalizeCrossChainProposal_paused (p : Nat) :
    ((finalizeCrossChainProposal host p s).after s).paused = s.paused :=
  checked_keeps State.paused fun _ _ _ h => by
    obtain ⟨_, -, ⟨⟩⟩ := Option.bind_eq_some.1 h
    rfl

end Exempt

/-! ## Paused runs -/

section Runs

variable {s : State}

/-- While paused, a call other than `unpause` leaves the flag set and keeps what
    `PausedKept` names. -/
theorem paused_step (hp : isPaused s = true) (host : Host) (c : Call) (hc : ∀ a, c ≠ .unpause a) :
    isPaused (c.apply host s) = true ∧ PausedKept s (c.apply host s) := by
  cases hx : c.pauseExempt
  · rw [paused_guarded hp host hx]
    exact ⟨hp, .refl s⟩
  have kept {s' : State} (h : s'.paused = s.paused) : isPaused s' = true := by
    rw [isPaused, h]
    exact hp
  cases c <;> simp only [Call.pauseExempt, Bool.false_eq_true] at hx
  case init a g o n e =>
    exact ⟨kept (init_paused host s a g o n e), .of_keys (init_msgKeys host s a g o n e)
      (init_regKeys host s a g o n e) (init_propKeys host s a g o n e)⟩
  case pause a =>
    exact ⟨pause_paused host s hp a, .of_keys (setPausedBy_msgKeys host s a true)
      (setPausedBy_regKeys host s a true) (setPausedBy_propKeys host s a true)⟩
  case unpause a => exact absurd rfl (hc a)
  case grantRole a x r =>
    exact ⟨kept (grantRole_paused host s a x r), .of_keys (grantRole_msgKeys host s a x r)
      (grantRole_regKeys host s a x r) (grantRole_propKeys host s a x r)⟩
  case updateBridgeStatus a b st =>
    refine ⟨kept (rewrite_paused host s fun _ => rfl), .of_rewrite (updateBridgeStatus_msgKeys host s a b st)
      ?_ (updateBridgeStatus_propKeys host s a b st)⟩
    cases @updateBridgeStatus_step host s a b st with
    | frame h => exact congrArg RegKeys.lists h
    | updateBridgeStatus _ _ _ _ _ _ _ h => exact (congrArg RegKeys.lists h :)
  case deactivateChain a c =>
    refine ⟨kept (rewrite_paused host s fun _ => rfl), .of_rewrite (deactivateChain_msgKeys host s a c)
      ?_ (deactivateChain_propKeys host s a c)⟩
    cases @deactivateChain_step host s a c with
    | frame h => exact congrArg RegKeys.lists h
    | deactivateChain _ _ _ _ _ h => exact (congrArg RegKeys.lists h :)
  case deactivateValidator a v b =>
    refine ⟨kept (rewrite_paused host s fun _ => rfl),
      .of_rewrite (deactivateValidator_msgKeys host s a v b) ?_ (deactivateValidator_propKeys host s a v b)⟩
    cases @deactivateValidator_step host s a v b with
    | frame h => exact congrArg RegKeys.lists h
    | deactivateValidator _ _ _ _ _ _ h => exact (congrArg RegKeys.lists h :)
  case deactivateAssetMapping a x c =>
    refine ⟨kept (rewrite_paused host s fun _ => rfl),
      .of_rewrite (deactivateAssetMapping_msgKeys host s a x c) ?_ (deactivateAssetMapping_propKeys host s a x c)⟩
    cases @deactivateAssetMapping_step host s a x c with
    | frame h => exact congrArg RegKeys.lists h
    | deactivateAssetMapping _ _ _ _ _ _ h => exact (congrArg RegKeys.lists h :)
  case finalizeCrossChainProposal p =>
    refine ⟨kept (finalizeCrossChainProposal_paused host s p),
      ⟨finalizeCrossChainProposal_msgKeys host s p,
        congrArg RegKeys.lists (finalizeCrossChainProposal_regKeys host s p), ?_, ?_⟩⟩ <;>
    cases @finalizeCrossChainProposal_step host s p with
    | frame h => first | exact congrArg PropKeys.propCnt h | exact congrArg PropKeys.voters h
    | finalize _ _ _ _ _ _ _ h => first | exact congrArg PropKeys.propCnt h | exact congrArg PropKeys.voters h

end Runs

/-- From a paused state, over every run without `unpause`, the contract stays paused, no
    message key changes, nothing is registered, no proposal is created and no vote cast;
    and every entry point that checks `require_not_paused` writes nothing there. -/
theorem pause_freezes_traffic {s : State} (hp : isPaused s = true) (cs : List (Host × Call))
    (hcs : ∀ x ∈ cs, ∀ a, x.2 ≠ .unpause a) :
    (isPaused (exec s cs) = true ∧ PausedKept s (exec s cs)) ∧
      ∀ (host : Host) (c : Call), c.pauseExempt = false → c.apply host s = s := by
  refine ⟨?_, fun host _ => paused_guarded hp host⟩
  induction cs generalizing s with
  | nil => exact ⟨hp, .refl s⟩
  | cons hc cs ih =>
    obtain ⟨host, c⟩ := hc
    obtain ⟨hp', hk⟩ := paused_step hp host c (hcs _ (List.mem_cons_self _ _))
    obtain ⟨hp'', hk'⟩ := ih hp' fun x hx => hcs x (List.mem_cons_of_mem _ hx)
    exact ⟨hp'', hk.trans hk'⟩

/-- `registrySetup` paused: a message sent, a chain registered, the relayed message
    confirmed and a proposal created are all refused; a deactivation goes through. -/
theorem pause_freezes_traffic_setup :
    let s : State := exec registrySetup [(⟨1, fun _ => true⟩, .pause ⟨0⟩)]
    let cs : List (Host × Call) := [(⟨2, fun _ => true⟩, .sendMessage ⟨3⟩ 1 0 0),
      (⟨2, fun _ => true⟩, .registerChain ⟨0⟩ 2 "chain" 1), (⟨2, fun _ => true⟩, .confirmMessage ⟨5⟩ 1),
      (⟨2, fun _ => true⟩, .createCrossChainProposal ⟨3⟩ "p" 0 1),
      (⟨2, fun _ => true⟩, .deactivateChain ⟨0⟩ 1)]
    (isPaused s = true ∧ ∀ x ∈ cs, ∀ a, x.2 ≠ .unpause a) ∧
      ((isPaused (exec s cs) = true ∧ PausedKept s (exec s cs)) ∧
        ∀ (host : Host) (c : Call), c.pauseExempt = false → c.apply host s = s) :=
  ⟨⟨rfl, by simp⟩, pause_freezes_traffic (by rfl) _ (by simp)⟩

end StellarInsured.CrossChain
