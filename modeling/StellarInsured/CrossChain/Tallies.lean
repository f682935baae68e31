import StellarInsured.CrossChain.Registry

/-
  StellarInsured.CrossChain.Tallies — each validator's `total_confirmations` against the
  `CONFIRMER` keys, over whole runs of `CrossChainContract`.

  `confirm_message(v, m)` reads the chain of message `m` and the record of `v` under that
  chain's bridge, then writes the key `(CONFIRMER, m, v)` and adds one to the record's
  `total_confirmations`, in one invocation. No other call writes a `CONFIRMER` key or a
  tally: `register_validator` starts a record at zero, `deactivate_validator` keeps its
  tally, new messages take fresh ids, and no call changes a stored message's chains or a
  chain's bridge. `TallyStep` says this once (`tallyStep_apply`), from the message and
  registry steps and, for `confirm_message`, from its body.

  Proved, over every reachable state (`validator_tallies`, `TallyInv`):
  - every `CONFIRMER` key `(m, v)` names a message whose chain is registered, and a
    validator `v` registered for that chain's bridge;
  - the `total_confirmations` of validator `v` on bridge `b` is the number of `CONFIRMER`
    keys `v` holds on the messages of `b`'s chains (`confirmedBy`).
-/

namespace StellarInsured.CrossChain

/-- The bridge whose validators confirm message `m`: that of the message's chain. -/
def msgBridge (s : State) (m : Nat) : Option Nat :=
  (s.messages m).bind fun msg => (s.chains msg.chainId).map (·.bridgeId)

/-- The `CONFIRMER` keys of validator `v` on the messages of bridge `b`. -/
def confirmedBy (s : State) (b : Nat) (v : Address) : Finset (Nat × Address) :=
  s.confirmers.filter fun p => p.2 = v ∧ msgBridge s p.1 = some b

theorem msgBridge_eq_some {s : State} {m b : Nat} :
    msgBridge s m = some b ↔
      ∃ msg ch, s.messages m = some msg ∧ s.chains msg.chainId = some ch ∧ ch.bridgeId = b := by
  simp [msgBridge, Option.bind_eq_some]

/-- A message rewritten with its chains unchanged, the chains as they were: every message
    keeps its bridge. -/
theorem msgBridge_rewrite {s s' : State} {m : Nat} {msg msg' : CrossChainMessage}
    (hm : s.messages m = some msg) (hmsgs : s'.messages = Function.update s.messages m (some msg'))
    (hid : msg'.chainId = msg.chainId) (hch : s'.chains = s.chains) : msgBridge s' = msgBridge s := by
  funext n
  unfold msgBridge
  rw [hmsgs, hch, Function.update_apply]
  split_ifs with h
  · rw [h, hm, Option.some_bind, Option.some_bind, hid]
  · rfl

/-- Reading a validator record after writing one: the written record at its key, the old
    ones elsewhere. -/
theorem validators_update {f : Nat → Address → Option ValidatorRecord} {b b' : Nat}
    {v v' : Address} {x : Option ValidatorRecord} :
    Function.update f b (Function.update (f b) v x) b' v' = if b' = b ∧ v' = v then x else f b' v' := by
  by_cases hb : b' = b
  · subst hb
    by_cases hv : v' = v <;> simp [hv]
  · simp [hb]

/-! ## What a call does to the tallies -/

/-- Every tally as it was, and a validator registered starts at zero. -/
structure TalliesKept (s s' : State) : Prop where
  tally : ∀ b v r, s.validators b v = some r →
    ∃ r', s'.validators b v = some r' ∧ r'.totalConfirmations = r.totalConfirmations
  fresh : ∀ b v r', s'.validators b v = some r' → s.validators b v = none → r'.totalConfirmations = 0

/-- What a call keeps of the keys the tallies read: the bridge of every message that has
    one, the `CONFIRMER` keys and the tallies. -/
structure TallyKept (s s' : State) : Prop where
  bridge : ∀ m b, msgBridge s m = some b → msgBridge s' m = some b
  confirmers : s'.confirmers = s.confirmers
  tallies : TalliesKept s s'

/-- What one call can do to the keys the tallies read. -/
inductive TallyStep (s : State) : State → Prop
  /-- The call keeps them, up to validators registered with a zero tally. -/
  | kept {s' : State} : TallyKept s s' → TallyStep s s'
  /-- `confirm_message(v, m)`: a new `CONFIRMER` key `(m, v)`, and one more confirmation on
      the tally of `v` for the bridge of `m`. -/
  | confirm {s' : State} (m : Nat) (v : Address) (b : Nat) (record : ValidatorRecord) :
      msgBridge s m = some b → s.validators b v = some record → (m, v) ∉ s.confirmers →
      msgBridge s' = msgBridge s → s'.confirmers = insert (m, v) s.confirmers →
      s'.validators = Function.update s.validators b (Function.update (s.validators b) v
        (some { record with totalConfirmations := record.totalConfirmations + 1 })) →
      TallyStep s s'

section Kept

variable {s s' : State}

theorem TalliesKept.of_eq (hv : s'.validators = s.validators) : TalliesKept s s' where
  tally _ _ r h := ⟨r, hv ▸ h, rfl⟩
  fresh _ _ _ h hn := by simp [hv, hn] at h

/-- One validator's record written, with the tally it had, or zero for a new one. -/
theorem TalliesKept.write {b : Nat} {v : Address} {x : ValidatorRecord}
    (hv : s'.validators = Function.update s.validators b (Function.update (s.validators b) v (some x)))
    (hx : ∀ r, s.validators b v = some r → x.totalConfirmations = r.totalConfirmations)
    (hx0 : s.validators b v = none → x.totalConfirmations = 0) : TalliesKept s s' where
  tally b' v' r hr := by
    rw [hv, validators_update]
    split_ifs with h
    · obtain ⟨rfl, rfl⟩ := h
      exact ⟨x, rfl, hx r hr⟩
    · exact ⟨r, hr, rfl⟩
  fresh b' v' r' hr' hn := by
    rw [hv, validators_update] at hr'
    split_ifs at hr' with h
    · obtain ⟨rfl, rfl⟩ := h
      cases hr'
      exact hx0 hn
    · simp [hr'] at hn

theorem TallyKept.of_eq (hb : msgBridge s' = msgBridge s) (hc : s'.confirmers = s.confirmers)
    (hv : s'.validators = s.validators) : TallyKept s s' :=
  ⟨fun _ _ h => hb ▸ h, hc, .of_eq hv⟩

end Kept

section Steps

variable {host : Host} {s s' : State} {c : Call}

theorem TallyStep.of_authorized {β : Type} {caller : Address} {k : Outcome ContractError β State}
    (h : TallyStep s (k.after s)) : TallyStep s ((authorized host caller k).after s) := by
  unfold authorized
  split
  · exact h
  · exact .kept (.of_eq rfl rfl rfl)

theorem TallyStep.of_checked {α β : Type} {checks : Except ContractError α}
    {writes : α → Option (β × State)}
    (h : ∀ a b s', checks = .ok a → writes a = some (b, s') → TallyStep s s') :
    TallyStep s ((checked s checks writes).after s) := by
  unfold checked
  split
  · exact .kept (.of_eq rfl rfl rfl)
  · rename_i a
    cases hw : writes a with
    | none => exact .kept (.of_eq rfl rfl rfl)
    | some p => exact h a p.1 p.2 rfl hw

/-- A stored message keeps its chains: new messages take ids above the counter, and a
    rewrite changes only a message's status, tallies and times. -/
theorem MsgStep.chainId_kept (hi : MsgInv (msgKeys s)) (h : MsgStep host s c s') {m : Nat}
    {msg : CrossChainMessage} (hm : s.messages m = some msg) :
    ∃ msg', s'.messages m = some msg' ∧ msg'.chainId = msg.chainId := by
  have update {n : Nat} {x : CrossChainMessage}
      (hmsgs : s'.messages = Function.update s.messages n (some x))
      (hx : ∀ y, s.messages n = some y → x.chainId = y.chainId) :
      ∃ msg', s'.messages m = some msg' ∧ msg'.chainId = msg.chainId := by
    rw [hmsgs, Function.update_apply]
    split_ifs with hn
    · exact ⟨x, rfl, hx msg (hn ▸ hm)⟩
    · exact ⟨msg, hm, rfl⟩
  have fresh (y : CrossChainMessage) (hy : s.messages (s.msgCnt.getD 0 + 1) = some y) : False :=
    Nat.not_succ_le_self _ (hi.stored_le _ y hy)
  cases h with
  | frame h =>
    have hmsgs : s'.messages = s.messages := congrArg MsgKeys.messages h
    exact ⟨msg, hmsgs ▸ hm, rfl⟩
  | send _ _ _ _ h => exact update (congrArg MsgKeys.messages h) fun y hy => (fresh y hy).elim
  | receive _ _ _ _ _ _ h => exact update (congrArg MsgKeys.messages h) fun y hy => (fresh y hy).elim
  | expire _ _ hm' _ h | confirm _ _ _ _ _ _ _ hm' _ _ _ _ _ _ h
  | execute _ _ _ _ _ hm' _ _ _ h =>
    exact update (congrArg MsgKeys.messages h) fun y hy => by rw [hm'] at hy; cases hy; rfl

/-- Outside `confirm_message` no call writes a `CONFIRMER` key. -/
theorem MsgStep.confirmers_eq (h : MsgStep host s c s') (hc : ∀ v m, c ≠ .confirmMessage v m) :
    s'.confirmers = s.confirmers := by
  cases h with
  | confirm v m _ _ _ _ _ _ _ _ _ _ _ _ _ => exact absurd rfl (hc v m)
  | frame h | send _ _ _ _ h | receive _ _ _ _ _ _ h | expire _ _ _ _ h
  | execute _ _ _ _ _ _ _ _ _ h => exact congrArg MsgKeys.confirmers h

/-- Outside `confirm_message` no call changes a tally, and a validator registered starts
    at zero. -/
theorem RegStep.talliesKept (h : RegStep host s c s') (hc : ∀ v m, c ≠ .confirmMessage v m) :
    TalliesKept s s' := by
  cases h with
  | frame h | registerBridge _ _ _ _ _ _ h | updateBridgeStatus _ _ _ _ _ _ _ h
  | registerChain _ _ _ _ _ _ _ _ h | deactivateChain _ _ _ _ _ h
  | registerAssetMapping _ _ _ _ _ _ _ _ h | deactivateAssetMapping _ _ _ _ _ _ h =>
    exact .of_eq (congrArg RegKeys.validators h)
  | registerValidator _ v b _ _ hfree h =>
    exact .write (congrArg RegKeys.validators h) (fun r hr => by simp [hfree] at hr) fun _ => rfl
  | deactivateValidator _ v b record _ hr h =>
    exact .write (congrArg RegKeys.validators h) (fun r h' => by rw [hr] at h'; cases h'; rfl)
      fun hn => by simp [hr] at hn
  | confirmTally v m _ _ _ _ => exact absurd rfl (hc v m)

/-- A chain's bridge never changes. -/
theorem RegGrows.bridgeId {k k' : RegKeys} (h : RegGrows k k') {n : Nat} {ch : ChainRecord}
    (hc : k.chains n = some ch) : ∃ ch', k'.chains n = some ch' ∧ ch'.bridgeId = ch.bridgeId := by
  have hm := h.chains n (by simp [hc])
  rw [hc] at hm
  obtain ⟨ch', hch', heq⟩ := Option.map_eq_some'.1 hm
  have hbid := congrArg ChainRecord.bridgeId heq
  exact ⟨ch', hch', hbid⟩

/-- A call other than `confirm_message` keeps what the tallies read. -/
theorem tallyKept_of_steps (hmi : MsgInv (msgKeys s)) (hri : RegInv (regKeys s))
    (hm : MsgStep host s c s') (hr : RegStep host s c s') (hc : ∀ v m, c ≠ .confirmMessage v m) :
    TallyKept s s' where
  bridge m b hb := by
    obtain ⟨msg, ch, hmsg, hch, rfl⟩ := msgBridge_eq_some.1 hb
    obtain ⟨msg', hmsg', hid⟩ := hm.chainId_kept hmi hmsg
    obtain ⟨ch', hch', hbid⟩ := (hr.grows hri).bridgeId hch
    exact msgBridge_eq_some.2 ⟨msg', ch', hmsg', hid ▸ hch', hbid⟩
  confirmers := hm.confirmers_eq hc
  tallies := hr.talliesKept hc

theorem confirmMessage_tallyStep (v : Address) (m : Nat) :
    TallyStep s ((confirmMessage host v m s).after s) := by
  refine .of_authorized ?_
  split
  · exact .kept (.of_eq rfl rfl rfl)
  · rename_i config msg hp
    obtain ⟨-, hm, -⟩ := pendingMessage_eq_ok hp
    split_ifs
    · exact .kept (.of_eq rfl rfl rfl)
    split
    · exact .kept (.of_eq rfl rfl rfl)
    · exact .kept (.of_eq (msgBridge_rewrite hm rfl rfl rfl) rfl rfl)
    · refine .of_checked fun ⟨chain, record⟩ _ _ hcc hw => ?_
      obtain ⟨hch, hv, -, hn⟩ := confirmationChecks_eq_ok hcc
      have hmk := recordConfirmation_msgKeys hw
      have hrk := recordConfirmation_regKeys hw
      exact .confirm m v chain.bridgeId record (msgBridge_eq_some.2 ⟨msg, chain, hm, hch, rfl⟩) hv
        hn (msgBridge_rewrite hm (congrArg MsgKeys.messages hmk) rfl (congrArg RegKeys.chains hrk))
        (congrArg MsgKeys.confirmers hmk) (congrArg RegKeys.validators hrk)

/-- Every call from a reachable state steps as `TallyStep` says. -/
theorem tallyStep_apply (hs : Reachable s) (host : Host) (c : Call) :
    TallyStep s (c.apply host s) := by
  by_cases hc : ∃ v m, c = .confirmMessage v m
  · obtain ⟨v, m, rfl⟩ := hc
    exact confirmMessage_tallyStep v m
  · push_neg at hc
    exact .kept (tallyKept_of_steps (reachable_msgInv hs) (reachable_regInv hs)
      (msgStep_apply host c s) (regStep_apply host c s) hc)

end Steps

/-! ## The tallies over every run -/

/-- Every `CONFIRMER` key is a confirmation by a validator registered for its message's
    bridge, and each tally counts its validator's keys. -/
structure TallyInv (s : State) : Prop where
  /-- A `CONFIRMER` key `(m, v)`: message `m` has a bridge, and `v` a record under it. -/
  registered : ∀ m v, (m, v) ∈ s.confirmers → ∃ b, msgBridge s m = some b ∧ (s.validators b v).isSome
  /-- `total_confirmations` is the number of the validator's keys on its bridge's messages. -/
  tally : ∀ b v r, s.validators b v = some r → r.totalConfirmations = (confirmedBy s b v).card

section Preservation

variable {s s' : State}

theorem tallyInv_empty : TallyInv State.empty where
  registered _ _ h := by simp [State.empty] at h
  tally _ _ _ h := by simp [State.empty] at h

/-- Read with the bridges of a state that keeps every confirmed message's bridge, the keys of
    `v` on `b` are those of `confirmedBy`. -/
theorem TallyInv.filter_eq (hi : TallyInv s) (hb : ∀ m b, msgBridge s m = some b → msgBridge s' m = some b)
    (b : Nat) (v : Address) :
    s.confirmers.filter (fun p => p.2 = v ∧ msgBridge s' p.1 = some b) = confirmedBy s b v := by
  refine Finset.filter_congr fun p hp => ?_
  obtain ⟨b', hb', -⟩ := hi.registered p.1 p.2 hp
  rw [hb _ _ hb', hb']

/-- A validator with no record holds no key. -/
theorem TallyInv.confirmedBy_empty (hi : TallyInv s) {b : Nat} {v : Address}
    (hv : s.validators b v = none) : confirmedBy s b v = ∅ := by
  rw [confirmedBy, Finset.filter_eq_empty_iff]
  rintro ⟨m, v'⟩ hp ⟨rfl, hpb⟩
  obtain ⟨b', hb', hreg⟩ := hi.registered m v' hp
  rw [hpb, Option.some.injEq] at hb'
  subst hb'
  simp [hv] at hreg

theorem TallyInv.kept (hi : TallyInv s) (h : TallyKept s s') : TallyInv s' where
  registered m v hmv := by
    obtain ⟨b, hb, hv⟩ := hi.registered m v (h.confirmers ▸ hmv)
    obtain ⟨r, hr⟩ := Option.isSome_iff_exists.1 hv
    obtain ⟨r', hr', -⟩ := h.tallies.tally b v r hr
    exact ⟨b, h.bridge m b hb, by simp [hr']⟩
  tally b v r' hr' := by
    have hc : confirmedBy s' b v = confirmedBy s b v := by
      rw [confirmedBy, h.confirmers, hi.filter_eq h.bridge]
    rw [hc]
    cases hv : s.validators b v with
    | none => rw [h.tallies.fresh b v r' hr' hv, hi.confirmedBy_empty hv, Finset.card_empty]
    | some r =>
      obtain ⟨r'', hr'', heq⟩ := h.tallies.tally b v r hv
      rw [hr', Option.some.injEq] at hr''
      rw [hr'', heq, hi.tally b v r hv]

theorem TallyInv.confirm (hi : TallyInv s) {m b : Nat} {v : Address} {record : ValidatorRecord}
    (hb : msgBridge s m = some b) (hv : s.validators b v = some record) (hn : (m, v) ∉ s.confirmers)
    (hbr : msgBridge s' = msgBridge s) (hc : s'.confirmers = insert (m, v) s.confirmers)
    (hval : s'.validators = Function.update s.validators b (Function.update (s.validators b) v
      (some { record with totalConfirmations := record.totalConfirmations + 1 }))) :
    TallyInv s' where
  registered m' v' hmv := by
    rw [hc, Finset.mem_insert] at hmv
    rw [hbr, hval]
    rcases hmv with h | h
    · obtain ⟨rfl, rfl⟩ := Prod.mk.inj h
      exact ⟨b, hb, by rw [validators_update, if_pos ⟨rfl, rfl⟩]; rfl⟩
    · obtain ⟨b', hb', hreg⟩ := hi.registered m' v' h
      refine ⟨b', hb', ?_⟩
      rw [validators_update]
      split_ifs
      · rfl
      · exact hreg
  tally b' v' r' hr' := by
    rw [hval, validators_update] at hr'
    rw [confirmedBy, hc, Finset.filter_insert, hi.filter_eq (fun _ _ h => hbr ▸ h)]
    dsimp only
    rw [hbr, hb]
    split_ifs at hr' with hbv
    · obtain ⟨rfl, rfl⟩ := hbv
      cases hr'
      have hnot : (m, v') ∉ confirmedBy s b' v' := fun h => hn (Finset.mem_filter.1 h).1
      rw [if_pos ⟨rfl, rfl⟩, Finset.card_insert_of_not_mem hnot, hi.tally b' v' record hv]
    · rw [if_neg fun h => hbv ⟨(Option.some.inj h.2).symm, h.1.symm⟩, hi.tally b' v' r' hr']

theorem TallyStep.tallyInv (h : TallyStep s s') (hi : TallyInv s) : TallyInv s' := by
  cases h with
  | kept h => exact hi.kept h
  | confirm _ _ _ _ hb hv hn hbr hc hval => exact hi.confirm hb hv hn hbr hc hval

end Preservation

theorem reachable_tallyInv {s : State} (hs : Reachable s) : TallyInv s := by
  induction hs with
  | empty => exact tallyInv_empty
  | step host c hs ih => exact (tallyStep_apply hs host c).tallyInv ih

/-- In every reachable state each `CONFIRMER` key is a confirmation by a validator
    registered for its message's bridge, and each validator's `total_confirmations` is the
    number of messages of its bridge it has confirmed. -/
theorem validator_tallies {s : State} (hs : Reachable s) : TallyInv s :=
  reachable_tallyInv hs

/-- The validator of `registrySetup` confirms its message: its tally is one. -/
theorem validator_tallies_after_confirm :
    let s : State := exec registrySetup [(⟨1, fun _ => true⟩, .confirmMessage ⟨5⟩ 1)]
    Reachable s ∧ TallyInv s ∧ (s.validators 1 ⟨5⟩).map (·.totalConfirmations) = some 1 :=
  ⟨reachable_exec registrySetup_reachable _,
    validator_tallies (reachable_exec registrySetup_reachable _), rfl⟩

end StellarInsured.CrossChain
