import StellarInsured.CrossChain.Runs

/-
  StellarInsured.CrossChain.Messages — the messages of `CrossChainContract` over whole
  runs: their confirmations by validators (`confirm_message`), their execution
  (`execute_message`), and the executed count.

  What a call can do to the message keys (`msgKeys`: the messages, their list, counter
  and nonces, the `CONFIRMER` keys, the message counts of the stats) is said once, in
  `MsgStep`: a call other than the four message calls leaves them as they were
  (`*_msgKeys`); `send_message` and `receive_message` store a pending message under the
  next id; `confirm_message` and `execute_message` mark an expired message, record a
  confirmation, or execute (`msgStep_apply`). Every invariant below is proved from it.

  Proved, over every reachable state (`message_safety`):
  - a message's `confirmations` is the number of validators holding a `CONFIRMER` key
    for it, and a key is only written by that validator's `confirm_message`, while it
    was an active validator of the bridge of the message's chain;
  - a message becomes `Executed` (2) only by an `execute_message` call made with
    `confirmations >= min_confirmations` before its expiry;
  - an executed message never changes again, and `total_executed` is the number of
    executed messages.
  And, whatever the interleaving (`outbound_nonces`): the outbound messages to each chain
  `c` carry the nonces `1, …, NONCE[c]`, each once, increasing with the message id.
  And over every run from a reachable state (`messages_persist`): no stored message is
  removed or moved, none of the fields its send or relay wrote changes, its
  confirmations never go down, and its status moves only forward, in the order
  `Pending`, `Confirmed`, `Expired`, `Executed` (`statusRank`); no stored status is any
  other value (`StatusesKnown`).
  As built, `receive_message` keeps no record of the nonces it has relayed, and
  `confirm_message` counts a message confirmed at every confirmation past the threshold:
  - `receive_message_replays`: one relayed message is stored twice;
  - `confirmed_counted_twice`: one message, confirmed by two validators with a threshold
    of one, is counted twice in `total_confirmed`;
  - `never_expire_traps`: with `message_expiry_seconds = u64::MAX`, the unchecked expiry
    sum of a message stored after time 0 overflows, and it can never be confirmed or
    executed.
-/

namespace StellarInsured.CrossChain

open Authorization

/-! ## The message keys -/

/-- The keys the message invariants read. -/
structure MsgKeys where
  messages : Nat → Option CrossChainMessage
  msgList : Option (List Nat)
  msgCnt : Option Nat
  nonces : Nat → Option Nat
  confirmers : Finset (Nat × Address)
  totalMessages : Nat
  totalConfirmed : Nat
  totalExecuted : Nat

def msgKeys (s : State) : MsgKeys :=
  ⟨s.messages, s.msgList, s.msgCnt, s.nonces, s.confirmers, (getStats s).totalMessages,
    (getStats s).totalConfirmed, (getStats s).totalExecuted⟩

/-- `msg` stored under the next message id, listed and counted. -/
def MsgKeys.storeNext (k : MsgKeys) (msg : CrossChainMessage) : MsgKeys :=
  { k with
    messages := Function.update k.messages (k.msgCnt.getD 0 + 1) (some msg)
    msgList := some (k.msgList.getD [] ++ [k.msgCnt.getD 0 + 1])
    msgCnt := some (k.msgCnt.getD 0 + 1)
    totalMessages := k.totalMessages + 1 }

/-- Message `m` rewritten to `msg`. -/
def MsgKeys.rewrite (k : MsgKeys) (m : Nat) (msg : CrossChainMessage) : MsgKeys :=
  { k with messages := Function.update k.messages m (some msg) }

/-- The message counts of the stats. -/
def msgCounters (st : CrossChainStats) : Nat × Nat × Nat :=
  (st.totalMessages, st.totalConfirmed, st.totalExecuted)

theorem updateStatsField_msgKeys {s s' : State} {upd : CrossChainStats → Option CrossChainStats}
    (h : updateStatsField s upd = some s')
    (hupd : ∀ st st', upd st = some st' → msgCounters st' = msgCounters st) :
    msgKeys s' = msgKeys s := by
  obtain ⟨st, hst, rfl⟩ := Option.map_eq_some'.1 h
  have h' := hupd _ _ hst
  simp only [msgCounters, Prod.mk.injEq] at h'
  simp only [msgKeys, getStats, Option.getD_some, h']

/-- `|s| s.<counter> += 1` for a counter the messages do not read. -/
theorem bump_msgCounters {o : Option Nat} {set : Nat → CrossChainStats} {st st' : CrossChainStats}
    (hset : ∀ n, msgCounters (set n) = msgCounters st) (h : o.map set = some st') :
    msgCounters st' = msgCounters st := by
  obtain ⟨n, -, rfl⟩ := Option.map_eq_some'.1 h
  exact hset n

theorem storeNewMessage_msgKeys {s s' : State} {messageId : Nat} {msg : CrossChainMessage}
    (h : storeNewMessage s messageId msg = some s') :
    msgKeys s' = { msgKeys s with
      messages := Function.update s.messages messageId (some msg)
      msgList := some (s.msgList.getD [] ++ [messageId])
      msgCnt := some messageId
      totalMessages := (getStats s).totalMessages + 1 } := by
  obtain ⟨st, hst, rfl⟩ := Option.map_eq_some'.1 h
  obtain ⟨n, hn, rfl⟩ := Option.map_eq_some'.1 hst
  obtain ⟨-, rfl⟩ := addU_eq_some.1 hn
  rfl

/-! ## Calls that leave the message keys alone -/

section Frames

variable (host : Host) (s : State)

theorem init_msgKeys (a g o : Address) (n e : Nat) :
    msgKeys ((init host a g o n e s).after s) = msgKeys s := by
  unfold init
  split_ifs
  all_goals first | rfl | exact authorized_keeps msgKeys rfl

theorem setPausedBy_msgKeys (admin : Address) (p : Bool) :
    msgKeys ((setPausedBy host admin p s).after s) = msgKeys s :=
  authorized_keeps msgKeys <| checked_keeps msgKeys fun _ _ _ h => by cases h; rfl

theorem grantRole_msgKeys (admin x : Address) (r : Nat) :
    msgKeys ((grantRole host admin x r s).after s) = msgKeys s := by
  unfold grantRole
  cases grantRoleKeys host admin x r s.auth <;> rfl

theorem registerBridge_msgKeys (admin address : Address) (name : String) (cs : List Nat) :
    msgKeys ((registerBridge host admin address name cs s).after s) = msgKeys s :=
  authorized_keeps msgKeys <| checked_keeps msgKeys fun _ _ _ h => by
    obtain ⟨_, -, h⟩ := Option.bind_eq_some.1 h
    obtain ⟨_, hs, ⟨⟩⟩ := Option.bind_eq_some.1 h
    exact (updateStatsField_msgKeys hs fun _ _ => bump_msgCounters fun _ => rfl).trans rfl

theorem updateBridgeStatus_msgKeys (admin : Address) (b st : Nat) :
    msgKeys ((updateBridgeStatus host admin b st s).after s) = msgKeys s :=
  authorized_keeps msgKeys <| checked_keeps msgKeys fun _ _ _ h => by cases h; rfl

theorem registerChain_msgKeys (admin : Address) (c : Nat) (name : String) (b : Nat) :
    msgKeys ((registerChain host admin c name b s).after s) = msgKeys s :=
  authorized_keeps msgKeys <| checked_keeps msgKeys fun _ _ _ h => by
    obtain ⟨_, hs, ⟨⟩⟩ := Option.bind_eq_some.1 h
    exact (updateStatsField_msgKeys hs fun _ _ => bump_msgCounters fun _ => rfl).trans rfl

theorem deactivateChain_msgKeys (admin : Address) (c : Nat) :
    msgKeys ((deactivateChain host admin c s).after s) = msgKeys s :=
  authorized_keeps msgKeys <| checked_keeps msgKeys fun _ _ _ h => by cases h; rfl

theorem registerValidator_msgKeys (admin v : Address) (b : Nat) :
    msgKeys ((registerValidator host admin v b s).after s) = msgKeys s :=
  authorized_keeps msgKeys <| checked_keeps msgKeys fun _ _ _ h => by
    obtain ⟨_, hs, ⟨⟩⟩ := Option.bind_eq_some.1 h
    exact (updateStatsField_msgKeys hs fun _ _ => bump_msgCounters fun _ => rfl).trans rfl

theorem deactivateValidator_msgKeys (admin v : Address) (b : Nat) :
    msgKeys ((deactivateValidator host admin v b s).after s) = msgKeys s :=
  authorized_keeps msgKeys <| checked_keeps msgKeys fun _ _ _ h => by cases h; rfl

theorem registerAssetMapping_msgKeys (admin x : Address) (c h d : Nat) :
    msgKeys ((registerAssetMapping host admin x c h d s).after s) = msgKeys s :=
  authorized_keeps msgKeys <| checked_keeps msgKeys fun _ _ _ h => by
    obtain ⟨_, hs, ⟨⟩⟩ := Option.bind_eq_some.1 h
    exact (updateStatsField_msgKeys hs fun _ _ => bump_msgCounters fun _ => rfl).trans rfl

theorem deactivateAssetMapping_msgKeys (admin x : Address) (c : Nat) :
    msgKeys ((deactivateAssetMapping host admin x c s).after s) = msgKeys s :=
  authorized_keeps msgKeys <| checked_keeps msgKeys fun _ _ _ h => by cases h; rfl

theorem createCrossChainProposal_msgKeys (p : Address) (t : String) (ty c : Nat) :
    msgKeys ((createCrossChainProposal host p t ty c s).after s) = msgKeys s :=
  authorized_keeps msgKeys <| checked_keeps msgKeys fun _ _ _ h => by
    obtain ⟨_, -, h⟩ := Option.bind_eq_some.1 h
    obtain ⟨_, -, h⟩ := Option.bind_eq_some.1 h
    obtain ⟨_, hs, ⟨⟩⟩ := Option.bind_eq_some.1 h
    exact (updateStatsField_msgKeys hs fun _ _ => bump_msgCounters fun _ => rfl).trans rfl

theorem voteCrossChainProposal_msgKeys (v : Address) (p : Nat) (w : Int) (y : Bool) :
    msgKeys ((voteCrossChainProposal host v p w y s).after s) = msgKeys s :=
  authorized_keeps msgKeys <| checked_keeps msgKeys fun _ _ _ h => by
    obtain ⟨_, -, h⟩ := Option.bind_eq_some.1 h
    obtain ⟨_, -, ⟨⟩⟩ := Option.bind_eq_some.1 h
    rfl

theorem finalizeCrossChainProposal_msgKeys (p : Nat) :
    msgKeys ((finalizeCrossChainProposal host p s).after s) = msgKeys s :=
  checked_keeps msgKeys fun _ _ _ h => by
    obtain ⟨_, -, ⟨⟩⟩ := Option.bind_eq_some.1 h
    rfl

theorem executeCrossChainProposal_msgKeys (x : Address) (p : Nat) :
    msgKeys ((executeCrossChainProposal host x p s).after s) = msgKeys s :=
  authorized_keeps msgKeys <| checked_keeps msgKeys fun _ _ _ h => by cases h; rfl

end Frames

/-! ## What a call does to the messages -/

/-- What one call can do to the message keys, guards included. -/
inductive MsgStep (host : Host) (s : State) : Call → State → Prop
  /-- The call leaves the message keys as they were. -/
  | frame {c : Call} {s' : State} : msgKeys s' = msgKeys s → MsgStep host s c s'
  /-- `send_message` stores a pending outbound message under the next id, with the next
      nonce of its target chain. -/
  | send {s' : State} (sender : Address) (targetChainId messageType payloadHash : Nat) :
      msgKeys s' = MsgKeys.storeNext
        { msgKeys s with
          nonces := Function.update s.nonces targetChainId
            (some ((s.nonces targetChainId).getD 0 + 1)) }
        ⟨s.msgCnt.getD 0 + 1, 0, targetChainId, messageType, payloadHash, sender,
          (s.nonces targetChainId).getD 0 + 1, 0, 0, host.timestamp, host.timestamp⟩ →
      MsgStep host s (.sendMessage sender targetChainId messageType payloadHash) s'
  /-- `receive_message` stores a pending inbound message under the next id, with the
      nonce the relayer gave. -/
  | receive {s' : State} (relayer : Address) (sourceChainId messageType payloadHash nonce : Nat) :
      sourceChainId ≠ 0 →
      msgKeys s' = (msgKeys s).storeNext ⟨s.msgCnt.getD 0 + 1, sourceChainId, 0, messageType,
        payloadHash, relayer, nonce, 0, 0, host.timestamp, host.timestamp⟩ →
      MsgStep host s (.receiveMessage relayer sourceChainId messageType payloadHash nonce) s'
  /-- `confirm_message` or `execute_message` finds message `m` expired and marks it. -/
  | expire {c : Call} {s' : State} (m : Nat) (msg : CrossChainMessage) :
      s.messages m = some msg → msg.status ≠ 2 →
      msgKeys s' = (msgKeys s).rewrite m { msg with status := 4, updatedAt := host.timestamp } →
      MsgStep host s c s'
  /-- `confirm_message(v, m)` records the confirmation of `v`, an active validator of the
      bridge of `m`'s chain that had not confirmed `m`. -/
  | confirm {s' : State} (v : Address) (m : Nat) (config : CrossChainConfig)
      (msg : CrossChainMessage) (chain : ChainRecord) (record : ValidatorRecord) :
      s.config = some config → s.messages m = some msg → msg.status ≠ 2 → msg.status ≠ 4 →
      s.chains msg.chainId = some chain → s.validators chain.bridgeId v = some record →
      record.isActive = true → (m, v) ∉ s.confirmers →
      msgKeys s' = { (msgKeys s).rewrite m { msg with
          confirmations := msg.confirmations + 1
          updatedAt := host.timestamp
          status := if msg.confirmations + 1 ≥ config.minConfirmations then 1 else msg.status } with
        confirmers := insert (m, v) s.confirmers
        totalConfirmed := if msg.confirmations + 1 ≥ config.minConfirmations
          then (getStats s).totalConfirmed + 1 else (getStats s).totalConfirmed } →
      MsgStep host s (.confirmMessage v m) s'
  /-- `execute_message` executes message `m`, confirmed enough, before its expiry. -/
  | execute {s' : State} (e : Address) (m : Nat) (config : CrossChainConfig)
      (msg : CrossChainMessage) :
      s.config = some config → s.messages m = some msg → msg.status ≠ 2 →
      config.minConfirmations ≤ msg.confirmations →
      host.timestamp ≤ msg.createdAt + config.messageExpirySeconds →
      msgKeys s' = { (msgKeys s).rewrite m { msg with status := 2, updatedAt := host.timestamp } with
        totalExecuted := (getStats s).totalExecuted + 1 } →
      MsgStep host s (.executeMessage e m) s'

section Steps

variable {host : Host} {s : State}

theorem MsgStep.of_authorized {β : Type} {c : Call} {caller : Address}
    {k : Outcome ContractError β State} (h : MsgStep host s c (k.after s)) :
    MsgStep host s c ((authorized host caller k).after s) := by
  unfold authorized
  split
  · exact h
  · exact .frame rfl

/-- A call made of checks and writes steps as its writes do. -/
theorem MsgStep.of_checked {α β : Type} {c : Call} {checks : Except ContractError α}
    {writes : α → Option (β × State)}
    (h : ∀ a b s', checks = .ok a → writes a = some (b, s') → MsgStep host s c s') :
    MsgStep host s c ((checked s checks writes).after s) := by
  unfold checked
  split
  · exact .frame rfl
  · rename_i a
    cases hw : writes a with
    | none => exact .frame rfl
    | some p => exact h a p.1 p.2 rfl hw

theorem pendingMessage_eq_ok {m : Nat} {config : CrossChainConfig} {msg : CrossChainMessage}
    (h : pendingMessage s m = .ok (config, msg)) :
    s.config = some config ∧ s.messages m = some msg ∧ msg.status ≠ 2 := by
  simp only [pendingMessage, Except.bind_eq_ok, requireNotPaused_eq_ok, getConfig_eq_ok,
    getMessage_eq_ok, Except.throw_eq, Except.pure_eq, Except.error_bind, Except.ok_bind,
    Except.ite_error_eq_ok, Except.ok.injEq, Prod.mk.injEq] at h
  obtain ⟨_, -, _, hc, _, hm, h2, rfl, rfl⟩ := h
  exact ⟨hc, hm, h2⟩

theorem confirmationChecks_eq_ok {v : Address} {m : Nat} {msg : CrossChainMessage}
    {chain : ChainRecord} {record : ValidatorRecord}
    (h : confirmationChecks s v m msg = .ok (chain, record)) :
    s.chains msg.chainId = some chain ∧ s.validators chain.bridgeId v = some record ∧
      record.isActive = true ∧ (m, v) ∉ s.confirmers := by
  simp only [confirmationChecks, Except.bind_eq_ok, getChain_eq_ok, okOr_eq_ok, Except.throw_eq,
    Except.pure_eq, Except.error_bind, Except.ok_bind, Except.ite_error_eq_ok, Except.ok.injEq,
    Prod.mk.injEq] at h
  obtain ⟨_, hc, _, hr, ha, hn, rfl, rfl⟩ := h
  exact ⟨hc, hr, by simpa using ha, hn⟩

theorem expired_eq_some_false {now : Nat} {config : CrossChainConfig} {msg : CrossChainMessage}
    (h : expired now config msg = some false) :
    now ≤ msg.createdAt + config.messageExpirySeconds := by
  obtain ⟨d, hd, hf⟩ := Option.map_eq_some'.1 h
  obtain ⟨-, rfl⟩ := addU_eq_some.1 hd
  simpa using hf

theorem countConfirmed_msgKeys {config : CrossChainConfig} {c : Nat} {s' : State}
    (h : countConfirmed config c s = some s') :
    msgKeys s' = { msgKeys s with
      totalConfirmed := if c ≥ config.minConfirmations
        then (getStats s).totalConfirmed + 1 else (getStats s).totalConfirmed } := by
  unfold countConfirmed at h
  split_ifs at h with hc
  · obtain ⟨st, hst, rfl⟩ := Option.map_eq_some'.1 h
    obtain ⟨n, hn, rfl⟩ := Option.map_eq_some'.1 hst
    obtain ⟨-, rfl⟩ := addU_eq_some.1 hn
    simp only [hc, if_true]
    rfl
  · cases h
    simp only [hc, if_false]
    rfl

theorem recordConfirmation_msgKeys {config : CrossChainConfig} {v : Address} {m : Nat}
    {msg : CrossChainMessage} {chain : ChainRecord} {record : ValidatorRecord} {b : Nat} {s' : State}
    (h : recordConfirmation host config v m msg chain record s = some (b, s')) :
    msgKeys s' = { (msgKeys s).rewrite m { msg with
        confirmations := msg.confirmations + 1
        updatedAt := host.timestamp
        status := if msg.confirmations + 1 ≥ config.minConfirmations then 1 else msg.status } with
      confirmers := insert (m, v) s.confirmers
      totalConfirmed := if msg.confirmations + 1 ≥ config.minConfirmations
        then (getStats s).totalConfirmed + 1 else (getStats s).totalConfirmed } := by
  obtain ⟨c, hc, h⟩ := Option.bind_eq_some.1 h
  obtain ⟨-, rfl⟩ := addU_eq_some.1 hc
  obtain ⟨s2, hs2, h⟩ := Option.bind_eq_some.1 h
  obtain ⟨_, -, ⟨⟩⟩ := Option.bind_eq_some.1 h
  show (msgKeys s2).rewrite m _ = _
  rw [countConfirmed_msgKeys hs2]
  rfl

theorem sendMessage_step (x : Address) (t ty p : Nat) :
    MsgStep host s (.sendMessage x t ty p) ((sendMessage host x t ty p s).after s) :=
  .of_authorized <| .of_checked fun _ _ _ _ h => by
    obtain ⟨_, hid, h⟩ := Option.bind_eq_some.1 h
    obtain ⟨-, rfl⟩ := addU_eq_some.1 hid
    obtain ⟨_, hn, h⟩ := Option.bind_eq_some.1 h
    obtain ⟨-, rfl⟩ := addU_eq_some.1 hn
    obtain ⟨_, hs, ⟨⟩⟩ := Option.bind_eq_some.1 h
    exact .send x t ty p (storeNewMessage_msgKeys hs)

theorem receiveMessage_step (x : Address) (c ty p n : Nat) :
    MsgStep host s (.receiveMessage x c ty p n) ((receiveMessage host x c ty p n s).after s) :=
  .of_authorized <| .of_checked fun _ _ _ hc h => by
    have h0 : c ≠ 0 := by
      rintro rfl
      simp at hc
    obtain ⟨_, hid, h⟩ := Option.bind_eq_some.1 h
    obtain ⟨-, rfl⟩ := addU_eq_some.1 hid
    obtain ⟨_, hs, ⟨⟩⟩ := Option.bind_eq_some.1 h
    exact .receive x c ty p n h0 (storeNewMessage_msgKeys hs)

theorem confirmMessage_step (v : Address) (m : Nat) :
    MsgStep host s (.confirmMessage v m) ((confirmMessage host v m s).after s) := by
  refine .of_authorized ?_
  split
  · exact .frame rfl
  · rename_i config msg hp
    obtain ⟨hc, hm, h2⟩ := pendingMessage_eq_ok hp
    split_ifs with h4
    · exact .frame rfl
    split
    · exact .frame rfl
    · exact .expire m msg hm h2 rfl
    · refine .of_checked fun ⟨chain, record⟩ _ _ hcc hw => ?_
      obtain ⟨hch, hv, ha, hn⟩ := confirmationChecks_eq_ok hcc
      exact .confirm v m config msg chain record hc hm h2 h4 hch hv ha hn
        (recordConfirmation_msgKeys hw)

theorem executeMessage_step (e : Address) (m : Nat) :
    MsgStep host s (.executeMessage e m) ((executeMessage host e m s).after s) := by
  refine .of_authorized ?_
  split
  · exact .frame rfl
  · rename_i config msg hp
    obtain ⟨hc, hm, h2⟩ := pendingMessage_eq_ok hp
    split
    · exact .frame rfl
    · exact .expire m msg hm h2 rfl
    · rename_i hexp
      refine .of_checked fun _ _ _ hmin hw => ?_
      have hmin : config.minConfirmations ≤ msg.confirmations := by
        simpa [Except.throw_eq, Except.pure_eq] using hmin
      refine .execute e m config msg hc hm h2 hmin (expired_eq_some_false hexp) ?_
      obtain ⟨_, hs, ⟨⟩⟩ := Option.bind_eq_some.1 hw
      obtain ⟨st, hst, rfl⟩ := Option.map_eq_some'.1 hs
      obtain ⟨n, hn, rfl⟩ := Option.map_eq_some'.1 hst
      obtain ⟨-, rfl⟩ := addU_eq_some.1 hn
      rfl

/-- Every call takes one of the steps of `MsgStep`. -/
theorem msgStep_apply (host : Host) (c : Call) (s : State) : MsgStep host s c (c.apply host s) := by
  cases c with
  | init a g o n e => exact .frame (init_msgKeys host s a g o n e)
  | pause a => exact .frame (setPausedBy_msgKeys host s a true)
  | unpause a => exact .frame (setPausedBy_msgKeys host s a false)
  | grantRole a x r => exact .frame (grantRole_msgKeys host s a x r)
  | registerBridge a x n cs => exact .frame (registerBridge_msgKeys host s a x n cs)
  | updateBridgeStatus a b st => exact .frame (updateBridgeStatus_msgKeys host s a b st)
  | registerChain a c n b => exact .frame (registerChain_msgKeys host s a c n b)
  | deactivateChain a c => exact .frame (deactivateChain_msgKeys host s a c)
  | sendMessage x t ty p => exact sendMessage_step x t ty p
  | receiveMessage x c ty p n => exact receiveMessage_step x c ty p n
  | registerValidator a v b => exact .frame (registerValidator_msgKeys host s a v b)
  | deactivateValidator a v b => exact .frame (deactivateValidator_msgKeys host s a v b)
  | confirmMessage v m => exact confirmMessage_step v m
  | executeMessage x m => exact executeMessage_step x m
  | registerAssetMapping a x c h d => exact .frame (registerAssetMapping_msgKeys host s a x c h d)
  | deactivateAssetMapping a x c => exact .frame (deactivateAssetMapping_msgKeys host s a x c)
  | createCrossChainProposal x t ty c =>
    exact .frame (createCrossChainProposal_msgKeys host s x t ty c)
  | voteCrossChainProposal x p w y => exact .frame (voteCrossChainProposal_msgKeys host s x p w y)
  | finalizeCrossChainProposal p => exact .frame (finalizeCrossChainProposal_msgKeys host s p)
  | executeCrossChainProposal x p => exact .frame (executeCrossChainProposal_msgKeys host s x p)

end Steps

/-! ## The message invariant -/

/-- The validators holding a `CONFIRMER` key for message `m`. -/
def confirmersOf (confirmers : Finset (Nat × Address)) (m : Nat) : Finset Address :=
  (confirmers.filter (·.1 = m)).image Prod.snd

@[simp] theorem mem_confirmersOf {C : Finset (Nat × Address)} {m : Nat} {v : Address} :
    v ∈ confirmersOf C m ↔ (m, v) ∈ C := by
  simp [confirmersOf]

theorem confirmersOf_insert_self (C : Finset (Nat × Address)) (m : Nat) (v : Address) :
    confirmersOf (insert (m, v) C) m = insert v (confirmersOf C m) := by
  ext w
  simp [eq_comm]

theorem confirmersOf_insert_of_ne {C : Finset (Nat × Address)} {m m' : Nat} (v : Address)
    (h : m' ≠ m) : confirmersOf (insert (m, v) C) m' = confirmersOf C m' := by
  ext w
  simp [h]

/-- The ids of the executed messages, up to `cnt`. -/
def executedIds (messages : Nat → Option CrossChainMessage) (cnt : Nat) : Finset Nat :=
  (Finset.range (cnt + 1)).filter fun m => (messages m).any fun msg => msg.status == 2

theorem executedIds_storeNext {messages : Nat → Option CrossChainMessage} {c : Nat}
    {msg : CrossChainMessage} (hle : ∀ m x, messages m = some x → m ≤ c) (h : msg.status ≠ 2) :
    executedIds (Function.update messages (c + 1) (some msg)) (c + 1) = executedIds messages c := by
  ext i
  simp only [executedIds, Finset.mem_filter, Finset.mem_range, Function.update_apply]
  split_ifs with hi
  · subst hi
    simp [h]
  · constructor
    · rintro ⟨-, hx⟩
      refine ⟨?_, hx⟩
      cases hmi : messages i with
      | none => simp [hmi] at hx
      | some x => have := hle i x hmi; omega
    · rintro ⟨hi', hx⟩
      exact ⟨by omega, hx⟩

theorem card_executedIds_rewrite {messages : Nat → Option CrossChainMessage} {c m : Nat}
    {msg msg' : CrossChainMessage} (hm : messages m = some msg) (hle : m ≤ c) (h : msg.status ≠ 2) :
    (executedIds (Function.update messages m (some msg')) c).card =
      (executedIds messages c).card + if msg'.status = 2 then 1 else 0 := by
  have hnot : m ∉ executedIds messages c := by simp [executedIds, hm, h]
  have hids : executedIds (Function.update messages m (some msg')) c =
      if msg'.status = 2 then insert m (executedIds messages c) else executedIds messages c := by
    ext i
    by_cases hi : i = m
    · subst hi
      split_ifs with h' <;> simp [executedIds, h', hm, h]; omega
    · split_ifs <;> simp [executedIds, hi]
  rw [hids]
  split_ifs
  · exact Finset.card_insert_of_not_mem hnot
  · rfl

/-- The invariant of the message keys. -/
structure MsgInv (k : MsgKeys) : Prop where
  /-- Messages are stored under ids up to the message counter. -/
  stored_le : ∀ m msg, k.messages m = some msg → m ≤ k.msgCnt.getD 0
  /-- `CONFIRMER` keys name stored messages. -/
  confirmer_stored : ∀ m v, (m, v) ∈ k.confirmers → (k.messages m).isSome
  confirmations :
    ∀ m msg, k.messages m = some msg → msg.confirmations = (confirmersOf k.confirmers m).card
  executed : k.totalExecuted = (executedIds k.messages (k.msgCnt.getD 0)).card

theorem msgInv_empty : MsgInv (msgKeys State.empty) where
  stored_le _ _ h := nomatch h
  confirmer_stored _ _ h := nomatch h
  confirmations _ _ h := nomatch h
  executed := by simp [msgKeys, State.empty, getStats, executedIds]

section Preservation

variable {k : MsgKeys}

theorem MsgInv.setNonces (hi : MsgInv k) (nonces : Nat → Option Nat) :
    MsgInv { k with nonces := nonces } :=
  ⟨hi.1, hi.2, hi.3, hi.4⟩

theorem MsgInv.storeNext (hi : MsgInv k) {msg : CrossChainMessage} (h0 : msg.status = 0)
    (hc : msg.confirmations = 0) : MsgInv (k.storeNext msg) where
  stored_le m x hm := by
    simp only [MsgKeys.storeNext, Function.update_apply, Option.getD_some] at hm ⊢
    split_ifs at hm with h
    · omega
    · have := hi.stored_le m x hm; omega
  confirmer_stored m v hv := by
    simp only [MsgKeys.storeNext, Function.update_apply]
    split_ifs
    · rfl
    · exact hi.confirmer_stored m v hv
  confirmations m x hm := by
    simp only [MsgKeys.storeNext, Function.update_apply] at hm ⊢
    split_ifs at hm with h
    · cases hm
      rw [hc, eq_comm, Finset.card_eq_zero, Finset.eq_empty_iff_forall_not_mem]
      intro v hv
      obtain ⟨x, hx⟩ := Option.isSome_iff_exists.1 (hi.confirmer_stored m v (mem_confirmersOf.1 hv))
      have := hi.stored_le m x hx
      omega
    · exact hi.confirmations m x hm
  executed := by
    simp only [MsgKeys.storeNext, Option.getD_some]
    rw [executedIds_storeNext hi.stored_le (by omega), hi.executed]

/-- Rewriting a stored, unexecuted message keeps the invariant when its confirmations
    still count its `CONFIRMER` keys and the executed count follows its new status. -/
theorem MsgInv.rewrite (hi : MsgInv k) {m : Nat} {msg : CrossChainMessage} (msg' : CrossChainMessage)
    (hm : k.messages m = some msg) (h2 : msg.status ≠ 2) {C : Finset (Nat × Address)}
    (hC : ∀ m' v, (m', v) ∈ C → m' = m ∨ (m', v) ∈ k.confirmers)
    (hconf : msg'.confirmations = (confirmersOf C m).card)
    (hother : ∀ m', m' ≠ m → confirmersOf C m' = confirmersOf k.confirmers m') {t : Nat}
    (ht : t = k.totalExecuted + if msg'.status = 2 then 1 else 0) (tc : Nat) :
    MsgInv { k.rewrite m msg' with confirmers := C, totalConfirmed := tc, totalExecuted := t } where
  stored_le m' x hx := by
    simp only [MsgKeys.rewrite, Function.update_apply] at hx ⊢
    split_ifs at hx with h
    · exact h ▸ hi.stored_le m msg hm
    · exact hi.stored_le m' x hx
  confirmer_stored m' v hv := by
    simp only [MsgKeys.rewrite, Function.update_apply]
    split_ifs with h
    · rfl
    · exact hi.confirmer_stored m' v ((hC m' v hv).resolve_left h)
  confirmations m' x hx := by
    simp only [MsgKeys.rewrite, Function.update_apply] at hx ⊢
    split_ifs at hx with h
    · cases hx; exact h ▸ hconf
    · rw [hother m' h]; exact hi.confirmations m' x hx
  executed := by
    simp only [MsgKeys.rewrite]
    rw [card_executedIds_rewrite hm (hi.stored_le m msg hm) h2, ht, hi.executed]

end Preservation

section Steps

variable {host : Host} {s s' : State} {c : Call}

theorem msgInv_step (hi : MsgInv (msgKeys s)) (h : MsgStep host s c s') : MsgInv (msgKeys s') := by
  cases h with
  | frame h => rwa [h]
  | send _ _ _ _ h =>
    rw [h]
    refine (hi.setNonces _).storeNext ?_ ?_ <;> rfl
  | receive _ _ _ _ _ _ h =>
    rw [h]
    refine hi.storeNext ?_ ?_ <;> rfl
  | expire m msg hm h2 h =>
    rw [h]
    refine hi.rewrite { msg with status := 4, updatedAt := host.timestamp } hm h2
      (fun _ _ hv => .inr hv) (hi.confirmations m msg hm) (fun _ _ => rfl) ?_ (msgKeys s).totalConfirmed
    simp
  | confirm v m config msg chain record _ hm h2 _ _ _ _ hn h =>
    rw [h]
    clear h
    have hn : v ∉ confirmersOf (msgKeys s).confirmers m := mt mem_confirmersOf.1 hn
    refine hi.rewrite _ hm h2 (fun m' w hw => ?_) ?_ (fun m' hm' => confirmersOf_insert_of_ne v hm')
      ?_ _
    · rcases Finset.mem_insert.1 hw with hw | hw
      · exact .inl (Prod.mk.inj hw).1
      · exact .inr hw
    · rw [confirmersOf_insert_self, Finset.card_insert_of_not_mem hn, ← hi.confirmations m msg hm]
    · have : (if msg.confirmations + 1 ≥ config.minConfirmations then 1 else msg.status) ≠ 2 := by
        split_ifs <;> omega
      simp [MsgKeys.rewrite, this]
  | execute e m config msg _ hm h2 _ _ h =>
    rw [h]
    refine hi.rewrite { msg with status := 2, updatedAt := host.timestamp } hm h2
      (fun _ _ hv => .inr hv) (hi.confirmations m msg hm) (fun _ _ => rfl) ?_ (msgKeys s).totalConfirmed
    simp [msgKeys]

end Steps

theorem reachable_msgInv {s : State} (hs : Reachable s) : MsgInv (msgKeys s) := by
  induction hs with
  | empty => exact msgInv_empty
  | step host c _ ih => exact msgInv_step ih (msgStep_apply host c _)

/-! ## Message safety -/

theorem update_eq_some {α : Type} {f : Nat → Option α} {m n : Nat} {a b : α}
    (h : Function.update f m (some a) n = some b) : (n = m ∧ a = b) ∨ (n ≠ m ∧ f n = some b) := by
  rw [Function.update_apply] at h
  split_ifs at h with hn
  · exact .inl ⟨hn, Option.some.inj h⟩
  · exact .inr ⟨hn, h⟩

/-- A message read after writing an unexecuted one over an unexecuted one is unexecuted. -/
theorem status_ne_of_update {f g : Nat → Option CrossChainMessage} {m n : Nat}
    {x y : CrossChainMessage} (hg : g = Function.update f m (some x)) (h : g n = some y)
    (hx : x.status ≠ 2) (hf : ∀ msg, f n = some msg → msg.status ≠ 2) : y.status ≠ 2 := by
  subst hg
  rcases update_eq_some h with ⟨-, rfl⟩ | ⟨-, h⟩
  · exact hx
  · exact hf y h

section Facts

variable {host : Host} {s s' : State} {c : Call}

theorem MsgStep.confirmer_added (h : MsgStep host s c s') {m : Nat} {v : Address}
    (hin : (m, v) ∈ s'.confirmers) (hnew : (m, v) ∉ s.confirmers) :
    c = .confirmMessage v m ∧ ∃ msg chain record, s.messages m = some msg ∧
      s.chains msg.chainId = some chain ∧ s.validators chain.bridgeId v = some record ∧
      record.isActive = true := by
  cases h with
  | confirm v' m' config msg chain record _ hm _ _ hch hv ha _ h =>
    have hc : s'.confirmers = insert (m', v') s.confirmers := congrArg MsgKeys.confirmers h
    rw [hc] at hin
    obtain ⟨rfl, rfl⟩ := Prod.mk.inj ((Finset.mem_insert.1 hin).resolve_right hnew)
    exact ⟨rfl, msg, chain, record, hm, hch, hv, ha⟩
  | frame h | send _ _ _ _ h | receive _ _ _ _ _ _ h | expire _ _ _ _ h
  | execute _ _ _ _ _ _ _ _ _ h =>
    have hc : s'.confirmers = s.confirmers := congrArg MsgKeys.confirmers h
    exact absurd (hc ▸ hin) hnew

theorem MsgStep.executed_by (h : MsgStep host s c s') {m : Nat} {msg' : CrossChainMessage}
    (hm' : s'.messages m = some msg') (h2' : msg'.status = 2)
    (hnot : ∀ msg, s.messages m = some msg → msg.status ≠ 2) :
    ∃ e config msg, c = .executeMessage e m ∧ s.config = some config ∧ s.messages m = some msg ∧
      config.minConfirmations ≤ msg.confirmations ∧
      host.timestamp ≤ msg.createdAt + config.messageExpirySeconds := by
  cases h with
  | frame h =>
    have hmsgs : s'.messages = s.messages := congrArg MsgKeys.messages h
    exact absurd h2' (hnot msg' (hmsgs ▸ hm'))
  | send _ _ _ _ h | receive _ _ _ _ _ _ h | expire _ _ _ _ h =>
    have hmsgs : s'.messages = Function.update s.messages _ (some _) := congrArg MsgKeys.messages h
    exact absurd h2' (status_ne_of_update hmsgs hm' (by simp_all) hnot)
  | confirm _ _ config msg _ _ _ _ h2 _ _ _ _ _ h =>
    have hmsgs : s'.messages = Function.update s.messages _ (some _) := congrArg MsgKeys.messages h
    have hx : (if msg.confirmations + 1 ≥ config.minConfirmations then 1 else msg.status) ≠ 2 := by
      split_ifs <;> omega
    exact absurd h2' (status_ne_of_update hmsgs hm' hx hnot)
  | execute e m0 config msg hc hm h2 hmin hexp h =>
    have hmsgs : s'.messages = Function.update s.messages m0 (some _) := congrArg MsgKeys.messages h
    rw [hmsgs] at hm'
    rcases update_eq_some hm' with ⟨rfl, -⟩ | ⟨-, hm'⟩
    · exact ⟨e, config, msg, rfl, hc, hm, hmin, hexp⟩
    · exact absurd h2' (hnot msg' hm')

theorem MsgStep.executed_stays (hi : MsgInv (msgKeys s)) (h : MsgStep host s c s') {m : Nat}
    {msg : CrossChainMessage} (hm : s.messages m = some msg) (h2 : msg.status = 2) :
    s'.messages m = some msg := by
  have hne : ∀ {m0 : Nat} {msg0 : CrossChainMessage}, s.messages m0 = some msg0 →
      msg0.status ≠ 2 → m ≠ m0 := by
    rintro m0 msg0 h0 h0' rfl
    exact h0' (Option.some.inj (h0.symm.trans hm) ▸ h2)
  have hle : m ≤ s.msgCnt.getD 0 := hi.stored_le m msg hm
  cases h with
  | frame h =>
    have hmsgs : s'.messages = s.messages := congrArg MsgKeys.messages h
    exact hmsgs ▸ hm
  | send _ _ _ _ h | receive _ _ _ _ _ _ h =>
    have hmsgs : s'.messages = Function.update s.messages (s.msgCnt.getD 0 + 1) (some _) :=
      congrArg MsgKeys.messages h
    rw [hmsgs, Function.update_noteq (by omega)]
    exact hm
  | expire m0 msg0 h0 h0' h | confirm _ m0 _ msg0 _ _ _ h0 h0' _ _ _ _ _ h
  | execute _ m0 _ msg0 _ h0 h0' _ _ h =>
    have hmsgs : s'.messages = Function.update s.messages m0 (some _) := congrArg MsgKeys.messages h
    rw [hmsgs, Function.update_noteq (hne h0 h0')]
    exact hm

end Facts

/-- What the messages satisfy in a state, and over every call made from it. -/
structure MessageSafety (s : State) : Prop where
  /-- A message's `confirmations` is the number of validators holding its `CONFIRMER` key. -/
  confirmations :
    ∀ m msg, s.messages m = some msg → msg.confirmations = (confirmersOf s.confirmers m).card
  /-- A `CONFIRMER(m, v)` key is only written by `confirm_message(v, m)`, `v` being then an
      active validator of the bridge of `m`'s chain. -/
  confirmer_added : ∀ (host : Host) (c : Call) m v, (m, v) ∈ (c.apply host s).confirmers → (m, v) ∉ s.confirmers →
    c = .confirmMessage v m ∧ ∃ msg chain record, s.messages m = some msg ∧
      s.chains msg.chainId = some chain ∧ s.validators chain.bridgeId v = some record ∧
      record.isActive = true
  /-- A message becomes `Executed` only by `execute_message`, confirmed enough and before
      its expiry. -/
  executed_by : ∀ (host : Host) (c : Call) m msg', (c.apply host s).messages m = some msg' → msg'.status = 2 →
    (∀ msg, s.messages m = some msg → msg.status ≠ 2) →
    ∃ e config msg, c = .executeMessage e m ∧ s.config = some config ∧ s.messages m = some msg ∧
      config.minConfirmations ≤ msg.confirmations ∧
      host.timestamp ≤ msg.createdAt + config.messageExpirySeconds
  /-- No call changes an executed message. -/
  executed_stays : ∀ (host : Host) (c : Call) m msg, s.messages m = some msg → msg.status = 2 →
    (c.apply host s).messages m = some msg
  /-- `total_executed` is the number of executed messages. -/
  total_executed : (getStats s).totalExecuted = (executedIds s.messages (s.msgCnt.getD 0)).card

theorem message_safety {s : State} (hs : Reachable s) : MessageSafety s where
  confirmations := (reachable_msgInv hs).confirmations
  confirmer_added host c _ _ := (msgStep_apply host c s).confirmer_added
  executed_by host c _ _ := (msgStep_apply host c s).executed_by
  executed_stays host c _ _ := (msgStep_apply host c s).executed_stays (reachable_msgInv hs)
  total_executed := (reachable_msgInv hs).executed

/-- A run that registers a bridge, a chain and a validator, relays a message, confirms
    it and executes it. -/
theorem message_safety_after_execution :
    let host : Host := ⟨100, fun _ => true⟩
    let s := exec State.empty [(host, .init ⟨0⟩ ⟨0⟩ ⟨0⟩ 1 3600),
      (host, .registerBridge ⟨0⟩ ⟨9⟩ "bridge" [1]), (host, .registerChain ⟨0⟩ 1 "chain" 1),
      (host, .registerValidator ⟨0⟩ ⟨1⟩ 1), (host, .receiveMessage ⟨2⟩ 1 0 0 7),
      (host, .confirmMessage ⟨1⟩ 1), (host, .executeMessage ⟨2⟩ 1)]
    Reachable s ∧ MessageSafety s :=
  ⟨reachable_exec .empty _, message_safety (reachable_exec .empty _)⟩

/-! ## Outbound nonces -/

/-- The nonce of `msg` when it is outbound (`source_chain_id = 0`) to chain `c`. -/
def outboundNonce (c : Nat) (msg : CrossChainMessage) : Option Nat :=
  if msg.sourceChainId = 0 ∧ msg.targetChainId = c then some msg.nonce else none

/-- The nonces of the outbound messages to chain `c` stored under ids up to `cnt`, in id
    order. -/
def outboundNonces (messages : Nat → Option CrossChainMessage) (cnt c : Nat) : List Nat :=
  (List.range (cnt + 1)).filterMap fun m => (messages m).bind (outboundNonce c)

theorem outboundNonces_storeNext (messages : Nat → Option CrossChainMessage) (cnt c : Nat)
    (msg : CrossChainMessage) :
    outboundNonces (Function.update messages (cnt + 1) (some msg)) (cnt + 1) c =
      outboundNonces messages cnt c ++ (outboundNonce c msg).toList := by
  unfold outboundNonces
  rw [List.range_succ, List.filterMap_append]
  congr 1
  · refine List.filterMap_congr fun m hm => ?_
    rw [Function.update_noteq (by simp at hm; omega)]
  · simp only [List.filterMap_cons, List.filterMap_nil, Function.update_same, Option.some_bind]
    cases outboundNonce c msg <;> rfl

theorem outboundNonces_rewrite {messages : Nat → Option CrossChainMessage} {m cnt c : Nat}
    {msg msg' : CrossChainMessage} (hm : messages m = some msg)
    (h : outboundNonce c msg' = outboundNonce c msg) :
    outboundNonces (Function.update messages m (some msg')) cnt c = outboundNonces messages cnt c := by
  unfold outboundNonces
  congr 1
  funext i
  by_cases hi : i = m
  · subst hi
    simp [hm, h]
  · rw [Function.update_noteq hi]

/-- The outbound messages to each chain carry the nonces `1, …, NONCE[c]`, in id order. -/
def NoncesInv (k : MsgKeys) : Prop :=
  ∀ c, outboundNonces k.messages (k.msgCnt.getD 0) c = List.range' 1 ((k.nonces c).getD 0)

section Nonces

variable {host : Host} {s s' : State} {c : Call}

theorem MsgStep.noncesInv (h : MsgStep host s c s') (hn : NoncesInv (msgKeys s)) :
    NoncesInv (msgKeys s') := by
  cases h with
  | frame h => rwa [h]
  | send _ t _ _ h =>
    intro c
    rw [h]
    simp only [MsgKeys.storeNext, Option.getD_some]
    rw [outboundNonces_storeNext, hn c]
    by_cases hc : c = t
    · subst hc
      rw [Function.update_same, Option.getD_some, List.range'_concat]
      simp [outboundNonce, msgKeys, Nat.add_comm]
    · simp [outboundNonce, msgKeys, Function.update_noteq hc, Ne.symm hc]
  | receive _ _ _ _ _ h0 h =>
    intro c
    rw [h]
    simp only [MsgKeys.storeNext, Option.getD_some]
    rw [outboundNonces_storeNext, hn c]
    simp [outboundNonce, h0]
  | expire m msg hm _ h | confirm _ m _ msg _ _ _ hm _ _ _ _ _ _ h
  | execute _ m _ msg _ hm _ _ _ h =>
    intro c
    rw [h]
    refine (outboundNonces_rewrite hm ?_).trans (hn c)
    rfl

end Nonces

/-- Whatever the interleaving of calls, the outbound messages to each chain `c` carry the
    nonces `1, 2, …, NONCE[c]`, each once, increasing with the message id. -/
theorem outbound_nonces {s : State} (hs : Reachable s) (c : Nat) :
    outboundNonces s.messages (s.msgCnt.getD 0) c = List.range' 1 ((s.nonces c).getD 0) := by
  suffices h : NoncesInv (msgKeys s) from h c
  induction hs with
  | empty => intro c; rfl
  | step host c _ ih => exact (msgStep_apply host c _).noncesInv ih

theorem outbound_nonces_two_chains :
    let host : Host := ⟨0, fun _ => true⟩
    let s := exec State.empty [(host, .init ⟨0⟩ ⟨0⟩ ⟨0⟩ 1 3600),
      (host, .registerBridge ⟨0⟩ ⟨9⟩ "bridge" [1, 2]), (host, .registerChain ⟨0⟩ 1 "one" 1),
      (host, .registerChain ⟨0⟩ 2 "two" 1), (host, .sendMessage ⟨3⟩ 1 0 0),
      (host, .sendMessage ⟨3⟩ 2 0 0), (host, .sendMessage ⟨3⟩ 2 5 0),
      (host, .receiveMessage ⟨4⟩ 2 0 0 7), (host, .sendMessage ⟨3⟩ 1 0 0)]
    Reachable s ∧ outboundNonces s.messages (s.msgCnt.getD 0) 1 = List.range' 1 ((s.nonces 1).getD 0) ∧
      (s.nonces 1).getD 0 = 2 :=
  ⟨reachable_exec .empty _, outbound_nonces (reachable_exec .empty _) 1, rfl⟩

/-! ## As built: a relayed message is stored again -/

/-- `receive_message` called twice with the same source chain and nonce stores the one
    relayed message twice, as messages 1 and 2; a validator confirms both and both are
    executed. -/
theorem receive_message_replays :
    let host : Host := ⟨0, fun _ => true⟩
    let s := exec State.empty [(host, .init ⟨0⟩ ⟨0⟩ ⟨0⟩ 1 3600),
      (host, .registerBridge ⟨0⟩ ⟨9⟩ "bridge" [1]), (host, .registerChain ⟨0⟩ 1 "chain" 1),
      (host, .registerValidator ⟨0⟩ ⟨1⟩ 1),
      (host, .receiveMessage ⟨2⟩ 1 0 0 7), (host, .receiveMessage ⟨2⟩ 1 0 0 7),
      (host, .confirmMessage ⟨1⟩ 1), (host, .confirmMessage ⟨1⟩ 2),
      (host, .executeMessage ⟨2⟩ 1), (host, .executeMessage ⟨2⟩ 2)]
    Reachable s ∧
      (s.messages 1).map (fun m => (m.sourceChainId, m.nonce, m.status)) = some (1, 7, 2) ∧
      (s.messages 2).map (fun m => (m.sourceChainId, m.nonce, m.status)) = some (1, 7, 2) ∧
      (getStats s).totalExecuted = 2 :=
  ⟨reachable_exec .empty _, rfl, rfl, rfl⟩

/-! ## As built: a message is counted confirmed at every later confirmation -/

/-- With one confirmation required, two validators confirming the one stored message
    count it twice in `total_confirmed`, above the one message there is. -/
theorem confirmed_counted_twice :
    let host : Host := ⟨0, fun _ => true⟩
    let s := exec State.empty [(host, .init ⟨0⟩ ⟨0⟩ ⟨0⟩ 1 3600),
      (host, .registerBridge ⟨0⟩ ⟨9⟩ "bridge" [1]), (host, .registerChain ⟨0⟩ 1 "chain" 1),
      (host, .registerValidator ⟨0⟩ ⟨1⟩ 1), (host, .registerValidator ⟨0⟩ ⟨2⟩ 1),
      (host, .receiveMessage ⟨3⟩ 1 0 0 7),
      (host, .confirmMessage ⟨1⟩ 1), (host, .confirmMessage ⟨2⟩ 1)]
    Reachable s ∧ s.msgCnt = some 1 ∧ (s.messages 1).map (·.confirmations) = some 2 ∧
      (getStats s).totalMessages = 1 ∧ (getStats s).totalConfirmed = 2 :=
  ⟨reachable_exec .empty _, rfl, rfl, rfl, rfl⟩

/-! ## As built: a message expiry past `u64` traps -/

section Expiry

variable {host : Host} {s : State} {m : Nat} {config : CrossChainConfig} {msg : CrossChainMessage}

theorem expired_eq_none {now : Nat} (ho : 2 ^ 64 ≤ msg.createdAt + config.messageExpirySeconds) :
    expired now config msg = none := by
  unfold expired addU
  rw [if_neg (Nat.not_lt.2 ho)]
  rfl

theorem confirmMessage_of_expiry_overflow {v : Address} (hv : host.authorizes v = true)
    (hp : pendingMessage s m = .ok (config, msg)) (h4 : msg.status ≠ 4)
    (ho : 2 ^ 64 ≤ msg.createdAt + config.messageExpirySeconds) :
    confirmMessage host v m s = .abort := by
  simp [confirmMessage, authorized, hv, hp, h4, expired_eq_none ho]

theorem executeMessage_of_expiry_overflow {e : Address} (he : host.authorizes e = true)
    (hp : pendingMessage s m = .ok (config, msg))
    (ho : 2 ^ 64 ≤ msg.createdAt + config.messageExpirySeconds) :
    executeMessage host e m s = .abort := by
  simp [executeMessage, authorized, he, hp, expired_eq_none ho]

end Expiry

/-- `initialize` accepts a `message_expiry_seconds` of `u64::MAX`, "never expire"; a
    message stored at time 1 then makes `created_at + message_expiry_seconds` overflow,
    and every `confirm_message` and `execute_message` of it traps, at any time. -/
theorem never_expire_traps :
    let s : State := exec State.empty [(⟨0, fun _ => true⟩, .init ⟨0⟩ ⟨0⟩ ⟨0⟩ 1 (2 ^ 64 - 1)),
      (⟨0, fun _ => true⟩, .registerBridge ⟨0⟩ ⟨9⟩ "bridge" [1]),
      (⟨0, fun _ => true⟩, .registerChain ⟨0⟩ 1 "chain" 1),
      (⟨0, fun _ => true⟩, .registerValidator ⟨0⟩ ⟨1⟩ 1),
      (⟨1, fun _ => true⟩, .sendMessage ⟨3⟩ 1 0 0)]
    Reachable s ∧ ((s.messages 1).map fun m => (m.status, m.createdAt)) = some (0, 1) ∧
      ∀ t, confirmMessage ⟨t, fun _ => true⟩ ⟨1⟩ 1 s = .abort ∧
        executeMessage ⟨t, fun _ => true⟩ ⟨3⟩ 1 s = .abort :=
  ⟨reachable_exec .empty _, rfl, fun _ =>
    ⟨confirmMessage_of_expiry_overflow rfl rfl (by decide) (by decide),
      executeMessage_of_expiry_overflow rfl rfl (by decide)⟩⟩

/-! ## Messages over every run -/

/-- The fields `send_message` and `receive_message` write once: all but the status, the
    confirmations and the update time. -/
def CrossChainMessage.frozen (msg : CrossChainMessage) : CrossChainMessage :=
  { msg with status := 0, confirmations := 0, updatedAt := 0 }

/-- The order a message's status moves in: `Pending` (0), `Confirmed` (1), `Expired` (4),
    `Executed` (2). No call writes another status. -/
def statusRank : Nat → Nat
  | 0 => 0
  | 1 => 1
  | 4 => 2
  | 2 => 3
  | _ => 0

/-- How a stored message may change: its frozen fields stay, its confirmations do not go
    down, and its status does not move back. -/
structure MsgMoved (msg msg' : CrossChainMessage) : Prop where
  frozen : msg'.frozen = msg.frozen
  confirmations : msg.confirmations ≤ msg'.confirmations
  status : statusRank msg.status ≤ statusRank msg'.status

theorem MsgMoved.refl (msg : CrossChainMessage) : MsgMoved msg msg := ⟨rfl, le_rfl, le_rfl⟩

theorem MsgMoved.trans {msg msg' msg'' : CrossChainMessage} (h₁ : MsgMoved msg msg')
    (h₂ : MsgMoved msg' msg'') : MsgMoved msg msg'' :=
  ⟨h₂.frozen.trans h₁.frozen, h₁.confirmations.trans h₂.confirmations, h₁.status.trans h₂.status⟩

/-- Every message stored in `s` is stored in `s'` under the same id, moved as `MsgMoved`
    allows. -/
def MsgsKept (s s' : State) : Prop :=
  ∀ m msg, s.messages m = some msg → ∃ msg', s'.messages m = some msg' ∧ MsgMoved msg msg'

namespace MsgsKept

variable {s s' s'' : State}

theorem of_messages (h : s'.messages = s.messages) : MsgsKept s s' :=
  fun _ msg hm => ⟨msg, h ▸ hm, .refl msg⟩

theorem trans (h₁ : MsgsKept s s') (h₂ : MsgsKept s' s'') : MsgsKept s s'' := fun m msg hm =>
  let ⟨msg', hm', h⟩ := h₁ m msg hm
  let ⟨msg'', hm'', h'⟩ := h₂ m msg' hm'
  ⟨msg'', hm'', h.trans h'⟩

/-- A message stored under an id that held none. -/
theorem write_fresh {n : Nat} {new : CrossChainMessage} (hfree : s.messages n = none)
    (h : s'.messages = Function.update s.messages n (some new)) : MsgsKept s s' := by
  intro m msg hm
  have hne : m ≠ n := by rintro rfl; simp [hfree] at hm
  exact ⟨msg, by rw [h, Function.update_noteq hne, hm], .refl msg⟩

/-- A stored message rewritten as `MsgMoved` allows. -/
theorem rewrite {n : Nat} {old new : CrossChainMessage} (hold : s.messages n = some old)
    (hmove : MsgMoved old new) (h : s'.messages = Function.update s.messages n (some new)) :
    MsgsKept s s' := by
  intro m msg hm
  by_cases hmn : m = n
  · subst hmn
    rw [hold, Option.some.injEq] at hm
    subst hm
    exact ⟨new, by rw [h, Function.update_same], hmove⟩
  · exact ⟨msg, by rw [h, Function.update_noteq hmn, hm], .refl msg⟩

end MsgsKept

theorem statusRank_le_executed (n : Nat) : statusRank n ≤ statusRank 2 := by
  unfold statusRank
  split <;> decide

theorem statusRank_le_expired {n : Nat} (h : n ≠ 2) : statusRank n ≤ statusRank 4 := by
  unfold statusRank
  split <;> first | decide | exact absurd rfl h

theorem statusRank_le_confirmed {n : Nat} (h2 : n ≠ 2) (h4 : n ≠ 4) (c : Prop) [Decidable c] :
    statusRank n ≤ statusRank (if c then 1 else n) := by
  split
  · unfold statusRank
    split <;> first | decide | exact absurd rfl h2 | exact absurd rfl h4
  · exact le_rfl

/-- One call from a state where messages are stored only up to the counter. -/
theorem MsgStep.msgsKept {host : Host} {s s' : State} {c : Call} (h : MsgStep host s c s')
    (hi : MsgInv (msgKeys s)) : MsgsKept s s' := by
  have fresh : s.messages (s.msgCnt.getD 0 + 1) = none := by
    cases hm : s.messages (s.msgCnt.getD 0 + 1) with
    | none => rfl
    | some msg => exact absurd (hi.stored_le _ msg hm) (by simp [msgKeys])
  cases h with
  | frame h => exact .of_messages (congrArg MsgKeys.messages h)
  | send _ _ _ _ h => exact .write_fresh fresh (congrArg MsgKeys.messages h)
  | receive _ _ _ _ _ _ h => exact .write_fresh fresh (congrArg MsgKeys.messages h)
  | expire m msg hm h2 h =>
    refine .rewrite hm ?_ (congrArg MsgKeys.messages h)
    exact ⟨rfl, le_rfl, statusRank_le_expired h2⟩
  | confirm _ m _ msg _ _ _ hm h2 h4 _ _ _ _ h =>
    refine .rewrite hm ?_ (congrArg MsgKeys.messages h)
    exact ⟨rfl, Nat.le_succ _, statusRank_le_confirmed h2 h4 _⟩
  | execute _ m _ msg _ hm _ _ _ h =>
    refine .rewrite hm ?_ (congrArg MsgKeys.messages h)
    exact ⟨rfl, le_rfl, statusRank_le_executed _⟩

/-- Every stored message's status is one the code writes: `Pending` (0), `Confirmed` (1),
    `Executed` (2) or `Expired` (4). -/
def StatusesKnown (k : MsgKeys) : Prop := ∀ m msg, k.messages m = some msg → msg.status ∈ [0, 1, 2, 4]

theorem StatusesKnown.update {k k' : MsgKeys} (hi : StatusesKnown k) {n : Nat}
    {msg : CrossChainMessage} (hm : k'.messages = Function.update k.messages n (some msg))
    (h : msg.status ∈ [0, 1, 2, 4]) : StatusesKnown k' := by
  intro m x hx
  rw [hm] at hx
  rcases update_eq_some hx with ⟨-, rfl⟩ | ⟨-, hx⟩
  · exact h
  · exact hi m x hx

theorem MsgStep.statusesKnown {host : Host} {s s' : State} {c : Call} (h : MsgStep host s c s')
    (hi : StatusesKnown (msgKeys s)) : StatusesKnown (msgKeys s') := by
  cases h with
  | frame h => rwa [h]
  | send _ _ _ _ h => rw [h]; exact hi.update rfl (by simp)
  | receive _ _ _ _ _ _ h => rw [h]; exact hi.update rfl (by simp)
  | expire _ _ _ _ h => rw [h]; exact hi.update rfl (by simp)
  | confirm _ m _ msg _ _ _ hm _ _ _ _ _ _ h =>
    rw [h]
    refine hi.update rfl ?_
    split
    · simp
    · exact hi m msg hm
  | execute _ _ _ _ _ _ _ _ _ h => rw [h]; exact hi.update rfl (by simp)

theorem reachable_statusesKnown {s : State} (hs : Reachable s) : StatusesKnown (msgKeys s) := by
  induction hs with
  | empty => exact fun _ _ h => nomatch h
  | step host c _ ih => exact (msgStep_apply host c _).statusesKnown ih

/-- Over every run from a reachable state, no stored message is removed or moved, none of
    the fields its send or relay wrote changes, its confirmations never go down, and its
    status moves only forward: `Pending`, `Confirmed`, `Expired`, `Executed`; no stored
    status is any other value. -/
theorem messages_persist {s : State} (hs : Reachable s) (cs : List (Host × Call)) :
    MsgsKept s (exec s cs) ∧
      ∀ m msg, (exec s cs).messages m = some msg → msg.status ∈ [0, 1, 2, 4] := by
  refine ⟨?_, reachable_statusesKnown (reachable_exec hs cs)⟩
  induction cs generalizing s with
  | nil => exact .of_messages rfl
  | cons hc cs ih =>
    exact ((msgStep_apply hc.1 hc.2 s).msgsKept (reachable_msgInv hs)).trans
      (ih (.step hc.1 hc.2 hs))

/-- A relayed message, then confirmed and executed. -/
theorem messages_persist_to_execution :
    let host : Host := ⟨100, fun _ => true⟩
    let s : State := exec State.empty [(host, .init ⟨0⟩ ⟨0⟩ ⟨0⟩ 1 3600),
      (host, .registerBridge ⟨0⟩ ⟨9⟩ "bridge" [1]), (host, .registerChain ⟨0⟩ 1 "chain" 1),
      (host, .registerValidator ⟨0⟩ ⟨1⟩ 1), (host, .receiveMessage ⟨2⟩ 1 0 0 7)]
    let cs : List (Host × Call) := [(host, .confirmMessage ⟨1⟩ 1), (host, .executeMessage ⟨2⟩ 1)]
    (Reachable s ∧ (MsgsKept s (exec s cs) ∧
      ∀ m msg, (exec s cs).messages m = some msg → msg.status ∈ [0, 1, 2, 4])) ∧
      ((exec s cs).messages 1).map (fun msg => (msg.status, msg.confirmations)) = some (2, 1) :=
  ⟨⟨reachable_exec .empty _, messages_persist (reachable_exec .empty _) _⟩, rfl⟩

end StellarInsured.CrossChain
