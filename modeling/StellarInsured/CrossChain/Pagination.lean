import StellarInsured.CrossChain.Messages

/-
  StellarInsured.CrossChain.Pagination — the message list of `CrossChainContract`
  (`MSG_LIST`, `MSG_CNT`, `total_messages`) and `get_messages_paginated` over it.

  `send_message` and `receive_message` are the only calls that add a message, and each
  stores it under the next id and appends that id to the list; the others rewrite a
  stored message's status, confirmations and time, never its id (`MsgStep`).

  Proved, over every reachable state:
  - `reachable_listInv`: with `n` the message counter, `MSG_LIST` is `[1, …, n]`,
    message `i` is stored with `message_id = i` for each `i` in it, and
    `total_messages = n`;
  - `messages_paginated`: a page that starts at or past `n` is empty; one that starts
    before it is the messages `start+1, …, min(start+L, n)`, in order, where `L` is
    `limit` for `1 <= limit <= 50` and `50` otherwise; `total_count` is `n`. This needs
    `MSG_LIST` to hold fewer than `2^32 - 49` ids, which the network's bound on a ledger
    entry's size keeps it far below.
  `start_index + effective_limit` is a `u32` sum, so the bound is needed
  (`paginated_overflow`): after `2^32 - 1` relayed messages, a state no network reaches,
  the page at `2^32 - 2` traps.
-/

namespace StellarInsured.CrossChain

/-! ## The list invariant -/

structure ListInv (k : MsgKeys) : Prop where
  list_eq : k.msgList.getD [] = List.range' 1 (k.msgCnt.getD 0)
  stored : ∀ i, 1 ≤ i → i ≤ k.msgCnt.getD 0 → ∃ msg, k.messages i = some msg ∧ msg.messageId = i
  total : k.totalMessages = k.msgCnt.getD 0

theorem listInv_empty : ListInv (msgKeys State.empty) where
  list_eq := rfl
  stored _ h1 h := absurd (h1.trans h) (by decide)
  total := rfl

section Preservation

variable {k : MsgKeys}

theorem ListInv.setNonces (hi : ListInv k) (nonces : Nat → Option Nat) :
    ListInv { k with nonces := nonces } :=
  ⟨hi.1, hi.2, hi.3⟩

theorem ListInv.storeNext (hi : ListInv k) {msg : CrossChainMessage}
    (hid : msg.messageId = k.msgCnt.getD 0 + 1) : ListInv (k.storeNext msg) where
  list_eq := by
    simp only [MsgKeys.storeNext, Option.getD_some, hi.list_eq, List.range'_concat, Nat.one_mul,
      Nat.add_comm 1]
  stored i h1 h := by
    simp only [MsgKeys.storeNext, Option.getD_some, Function.update_apply] at h ⊢
    split_ifs with hi'
    · exact ⟨msg, rfl, hid.trans hi'.symm⟩
    · exact hi.stored i h1 (by omega)
  total := by simp only [MsgKeys.storeNext, Option.getD_some, hi.total]

/-- Rewriting a stored message under its own id keeps the list invariant, whatever the
    rewrite does to the confirmation keys and counts. -/
theorem ListInv.rewrite (hi : ListInv k) {m : Nat} {msg : CrossChainMessage}
    (hm : k.messages m = some msg) {k' : MsgKeys} (msg' : CrossChainMessage)
    (hmsgs : k'.messages = Function.update k.messages m (some msg'))
    (hid : msg'.messageId = msg.messageId) (hl : k'.msgList = k.msgList) (hc : k'.msgCnt = k.msgCnt)
    (ht : k'.totalMessages = k.totalMessages) : ListInv k' where
  list_eq := by rw [hl, hc]; exact hi.list_eq
  stored i h1 h := by
    rw [hc] at h
    rw [hmsgs, Function.update_apply]
    split_ifs with him
    · subst him
      obtain ⟨x, hx, hxi⟩ := hi.stored i h1 h
      rw [hm] at hx
      cases hx
      exact ⟨msg', rfl, hid.trans hxi⟩
    · exact hi.stored i h1 h
  total := by rw [ht, hc]; exact hi.total

end Preservation

theorem listInv_step {host : Host} {s s' : State} {c : Call} (hi : ListInv (msgKeys s))
    (h : MsgStep host s c s') : ListInv (msgKeys s') := by
  cases h with
  | frame h => rwa [h]
  | send _ _ _ _ h => rw [h]; exact (hi.setNonces _).storeNext rfl
  | receive _ _ _ _ _ _ h => rw [h]; exact hi.storeNext rfl
  | expire _ _ hm _ h | confirm _ _ _ _ _ _ _ hm _ _ _ _ _ _ h | execute _ _ _ _ _ hm _ _ _ h =>
    exact hi.rewrite hm _ (congrArg MsgKeys.messages h) rfl (by rw [h]; rfl) (by rw [h]; rfl)
      (by rw [h]; rfl)

theorem reachable_listInv {s : State} (hs : Reachable s) : ListInv (msgKeys s) := by
  induction hs with
  | empty => exact listInv_empty
  | step host c _ ih => exact listInv_step ih (msgStep_apply host c _)

/-! ## `get_messages_paginated` -/

/-- Stored ids read back, in order, to the messages carrying them. -/
theorem filterMap_stored {messages : Nat → Option CrossChainMessage} :
    ∀ {ids : List Nat}, (∀ i ∈ ids, ∃ msg, messages i = some msg ∧ msg.messageId = i) →
      (ids.filterMap messages).map (·.messageId) = ids
  | [], _ => rfl
  | i :: ids, h => by
    obtain ⟨msg, hm, hi⟩ := h i (List.mem_cons_self _ _)
    rw [List.filterMap_cons_some hm, List.map_cons, hi,
      filterMap_stored fun j hj => h j (List.mem_cons_of_mem _ hj)]

theorem mem_filterMap_stored {messages : Nat → Option CrossChainMessage} {ids : List Nat}
    (h : ∀ i ∈ ids, ∃ msg, messages i = some msg ∧ msg.messageId = i) {msg : CrossChainMessage}
    (hm : msg ∈ ids.filterMap messages) : messages msg.messageId = some msg := by
  obtain ⟨i, hi, hmi⟩ := List.mem_filterMap.1 hm
  obtain ⟨x, hx, rfl⟩ := h i hi
  obtain rfl : msg = x := Option.some.inj (hmi.symm.trans hx)
  exact hmi

/-- The loop's reads of `MSG_LIST` at `start..end`, with `MSG_LIST = [1, …, n]`, are the
    messages stored under `start+1, …, end`. -/
theorem page_eq {s : State} {n : Nat} (hl : s.msgList.getD [] = List.range' 1 n) {start e : Nat}
    (he : e ≤ n) :
    (List.range' start (e - start)).filterMap (fun i => (s.msgList.getD [])[i]?.bind s.messages) =
      (List.range' (start + 1) (e - start)).filterMap s.messages := by
  rw [Nat.add_comm start 1, ← List.map_add_range' 1 start, List.filterMap_map, hl]
  refine List.filterMap_congr fun i hi => ?_
  rw [List.mem_range'_1] at hi
  simp [List.getElem?_range' 1 1 (show i < n by omega), Nat.add_comm]

/-- With the list invariant, a page starting before the end of the list and whose end
    fits a `u32` is the messages `start+1, …, min(start+L, n)`. -/
theorem getMessagesPaginated_of_listInv {s : State} (hi : ListInv (msgKeys s)) {startIndex limit : Nat}
    (hlt : startIndex < s.msgCnt.getD 0)
    (hfit : startIndex + (if limit > maxPaginationLimit ∨ limit = 0 then maxPaginationLimit else limit)
      < 2 ^ 32) :
    getMessagesPaginated s startIndex limit = some ⟨(List.range' (startIndex + 1)
      (min (startIndex + (if limit > maxPaginationLimit ∨ limit = 0 then maxPaginationLimit else limit))
        (s.msgCnt.getD 0) - startIndex)).filterMap s.messages, s.msgCnt.getD 0⟩ := by
  have hl : s.msgList.getD [] = List.range' 1 (s.msgCnt.getD 0) := hi.list_eq
  have hlen : (s.msgList.getD []).length = s.msgCnt.getD 0 := by rw [hl, List.length_range']
  simp only [getMessagesPaginated, hlen, if_neg (Nat.not_le.2 hlt), addU, if_pos hfit]
  rw [← page_eq hl (min_le_right _ _)]
  rfl

/-- In every reachable state whose `MSG_LIST` holds fewer than `2^32 - 49` ids, with `n`
    the message counter: `MSG_LIST` is `[1, …, n]`, message `i` is stored with
    `message_id = i`, `total_messages = n`, and `get_messages_paginated(start, limit)`
    returns `total_count = n` and the messages `start+1, …, min(start+L, n)` in order,
    none when `start ≥ n`. The bound holds on every network: `MSG_LIST` is one ledger
    entry, whose size the network keeps far below `2^32` ids. -/
theorem messages_paginated {s : State} (hs : Reachable s)
    (hcap : (s.msgList.getD []).length + 49 < 2 ^ 32) (startIndex limit : Nat) :
    let n := s.msgCnt.getD 0
    let L := if 1 ≤ limit ∧ limit ≤ 50 then limit else 50
    s.msgList.getD [] = List.range' 1 n ∧
      (∀ i, 1 ≤ i → i ≤ n → ∃ msg, s.messages i = some msg ∧ msg.messageId = i) ∧
      (getStats s).totalMessages = n ∧
      (n ≤ startIndex → getMessagesPaginated s startIndex limit = some ⟨[], n⟩) ∧
      (startIndex < n →
        ∃ r, getMessagesPaginated s startIndex limit = some ⟨r, n⟩ ∧
          r.map (·.messageId) = List.range' (startIndex + 1) (min (startIndex + L) n - startIndex) ∧
          ∀ msg ∈ r, s.messages msg.messageId = some msg) := by
  intro n L
  have hi := reachable_listInv hs
  have hL : (if limit > maxPaginationLimit ∨ limit = 0 then maxPaginationLimit else limit) = L := by
    simp only [L, maxPaginationLimit]
    split_ifs <;> omega
  have hl : s.msgList.getD [] = List.range' 1 n := hi.list_eq
  have hlen : (s.msgList.getD []).length = n := by rw [hl, List.length_range']
  refine ⟨hl, hi.stored, hi.total, fun hge => ?_, fun hlt => ?_⟩
  · simp only [getMessagesPaginated, hlen, if_pos hge]
  · -- the page's end, at most `n - 1 + 50`, fits the `u32` sum
    have hfit : startIndex + L < 2 ^ 32 := by
      have : L ≤ 50 := by simp only [L]; split_ifs <;> omega
      omega
    have hids : ∀ i ∈ List.range' (startIndex + 1) (min (startIndex + L) n - startIndex),
        ∃ msg, s.messages i = some msg ∧ msg.messageId = i := fun i hi' => by
      rw [List.mem_range'_1] at hi'
      exact hi.stored i (by omega) (show i ≤ n by omega)
    have hpage := getMessagesPaginated_of_listInv hi hlt (by rw [hL]; exact hfit)
    rw [hL] at hpage
    exact ⟨_, hpage, filterMap_stored hids, fun _ => mem_filterMap_stored hids⟩

/-- `test_get_messages_paginated`'s contract: five relayed messages. -/
def pageRun : List (Host × Call) :=
  [(⟨0, fun _ => true⟩, .init ⟨0⟩ ⟨0⟩ ⟨0⟩ 1 3600),
   (⟨0, fun _ => true⟩, .registerBridge ⟨0⟩ ⟨9⟩ "bridge" [1]),
   (⟨0, fun _ => true⟩, .registerChain ⟨0⟩ 1 "chain" 1)] ++
  List.replicate 5 (⟨0, fun _ => true⟩, .receiveMessage ⟨2⟩ 1 0 0 0)

/-- The pages of `test_get_messages_paginated`: five relayed messages, read from index 1
    two at a time. -/
theorem messages_paginated_after_five :
    let s := exec State.empty pageRun
    (Reachable s ∧ (s.msgList.getD []).length + 49 < 2 ^ 32) ∧
      let n := s.msgCnt.getD 0
      let L := if 1 ≤ 2 ∧ 2 ≤ 50 then 2 else 50
      s.msgList.getD [] = List.range' 1 n ∧
        (∀ i, 1 ≤ i → i ≤ n → ∃ msg, s.messages i = some msg ∧ msg.messageId = i) ∧
        (getStats s).totalMessages = n ∧
        (n ≤ 1 → getMessagesPaginated s 1 2 = some ⟨[], n⟩) ∧
        (1 < n →
          ∃ r, getMessagesPaginated s 1 2 = some ⟨r, n⟩ ∧
            r.map (·.messageId) = List.range' (1 + 1) (min (1 + L) n - 1) ∧
            ∀ msg ∈ r, s.messages msg.messageId = some msg) :=
  have hcap : ((exec State.empty pageRun).msgList.getD []).length + 49 < 2 ^ 32 := by decide
  ⟨⟨reachable_exec .empty _, hcap⟩, messages_paginated (reachable_exec .empty _) hcap 1 2⟩

/-! ## As built: the end of a page is a `u32` sum -/

section Relay

variable {host : Host} {relayer : Address} {sourceChainId messageType : Nat}

/-- `receive_message` for an active chain, unpaused, with its counters below `u64::MAX`,
    stores the message under the next id and leaves the pause flag, the config and the
    chains as they were. -/
theorem receiveMessage_apply (payloadHash nonce : Nat) {s : State} (hr : host.authorizes relayer = true)
    (hp : isPaused s = false) {config : CrossChainConfig} (hc : s.config = some config)
    {chain : ChainRecord} (hch : s.chains sourceChainId = some chain) (ha : chain.isActive = true)
    (h0 : sourceChainId ≠ 0) (hty : messageType ≤ 4) (hcnt : s.msgCnt.getD 0 + 1 < 2 ^ 64)
    (htot : (getStats s).totalMessages + 1 < 2 ^ 64) :
    let s' := (Call.receiveMessage relayer sourceChainId messageType payloadHash nonce).apply host s
    isPaused s' = isPaused s ∧ s'.config = s.config ∧ s'.chains = s.chains ∧
      s'.msgCnt = some (s.msgCnt.getD 0 + 1) := by
  have hid : addU 64 (s.msgCnt.getD 0) 1 = some (s.msgCnt.getD 0 + 1) := addU_eq_some.2 ⟨hcnt, rfl⟩
  have htot' : addU 64 (getStats s).totalMessages 1 = some ((getStats s).totalMessages + 1) :=
    addU_eq_some.2 ⟨htot, rfl⟩
  simp only [getStats] at htot'
  simp only [isPaused] at hp
  simp [Call.apply, setMessage, getStats, isPaused, receiveMessage, authorized, hr, checked, requireNotPaused, hp, getConfig, hc,
    okOr, Nat.not_lt.2 hty, h0, getChain, hch, ha, hid, storeNewMessage, updateStatsField, htot',
    trapping]

/-- Relaying `k` messages from a reachable state where relaying passes its checks counts
    `k` more messages. -/
theorem relay_exec (payloadHash nonce : Nat) {s : State} (hs : Reachable s)
    (hr : host.authorizes relayer = true) (hp : isPaused s = false) {config : CrossChainConfig}
    (hc : s.config = some config) {chain : ChainRecord} (hch : s.chains sourceChainId = some chain)
    (ha : chain.isActive = true) (h0 : sourceChainId ≠ 0) (hty : messageType ≤ 4) (k : Nat)
    (hk : s.msgCnt.getD 0 + k < 2 ^ 64) :
    (exec s (List.replicate k
      (host, .receiveMessage relayer sourceChainId messageType payloadHash nonce))).msgCnt.getD 0 =
        s.msgCnt.getD 0 + k := by
  induction k generalizing s with
  | zero => rfl
  | succ k ih =>
    have htot : (getStats s).totalMessages = s.msgCnt.getD 0 := (reachable_listInv hs).total
    obtain ⟨hp', hc', hch', hcnt'⟩ :=
      receiveMessage_apply payloadHash nonce hr hp hc hch ha h0 hty (by omega) (by omega)
    rw [List.replicate_succ, exec, ih (.step _ _ hs) (hp'.trans hp) (hc'.trans hc) (hch' ▸ hch)
      (by rw [hcnt']; simp only [Option.getD_some]; omega), hcnt', Option.getD_some]
    omega

theorem length_msgList {s : State} (hs : Reachable s) :
    (s.msgList.getD []).length = s.msgCnt.getD 0 := by
  have hl : s.msgList.getD [] = List.range' 1 (s.msgCnt.getD 0) := (reachable_listInv hs).list_eq
  rw [hl, List.length_range']

/-- A page that starts before the end of the list and whose end passes `u32::MAX` traps. -/
theorem getMessagesPaginated_of_overflow {s : State} {startIndex limit : Nat}
    (hlt : startIndex < (s.msgList.getD []).length)
    (ho : 2 ^ 32 ≤ startIndex +
      (if limit > maxPaginationLimit ∨ limit = 0 then maxPaginationLimit else limit)) :
    getMessagesPaginated s startIndex limit = none := by
  simp only [getMessagesPaginated, if_neg (Nat.not_le.2 hlt), addU, if_neg (Nat.not_lt.2 ho)]
  rfl

end Relay

/-- A contract with one bridge and one active chain. -/
def relaySetup : State :=
  exec State.empty [(⟨0, fun _ => true⟩, .init ⟨0⟩ ⟨0⟩ ⟨0⟩ 1 3600),
    (⟨0, fun _ => true⟩, .registerBridge ⟨0⟩ ⟨9⟩ "bridge" [1]),
    (⟨0, fun _ => true⟩, .registerChain ⟨0⟩ 1 "chain" 1)]

/-- `relaySetup`, then `k` messages relayed from its chain. -/
def relayedState (k : Nat) : State :=
  exec relaySetup (List.replicate k (⟨0, fun _ => true⟩, .receiveMessage ⟨2⟩ 1 0 0 0))

theorem relaySetup_reachable : Reachable relaySetup := reachable_exec .empty _

theorem relayedState_reachable (k : Nat) : Reachable (relayedState k) :=
  reachable_exec relaySetup_reachable _

theorem relayedState_msgCnt {k : Nat} (hk : k < 2 ^ 64) : (relayedState k).msgCnt.getD 0 = k := by
  have h0 : relaySetup.msgCnt.getD 0 = 0 := rfl
  have h := relay_exec 0 0 relaySetup_reachable
    (rfl : (⟨0, fun _ => true⟩ : Host).authorizes ⟨2⟩ = true) rfl rfl
    (rfl : relaySetup.chains 1 = some _) rfl (by decide) (by decide : (0 : Nat) ≤ 4) k (by rw [h0]; omega)
  rwa [h0, Nat.zero_add] at h

/-- The bound on `MSG_LIST` is needed: in the model, which does not bound a ledger entry's
    size, `2^32 - 1` relayed messages make the page at `2^32 - 2` trap on the `u32` sum
    `start_index + effective_limit`. No network lets the list grow so long. -/
theorem paginated_overflow :
    Reachable (relayedState (2 ^ 32 - 1)) ∧ (relayedState (2 ^ 32 - 1)).msgCnt.getD 0 = 2 ^ 32 - 1 ∧
      getMessagesPaginated (relayedState (2 ^ 32 - 1)) (2 ^ 32 - 2) 50 = none := by
  have hs := relayedState_reachable (2 ^ 32 - 1)
  have hn := relayedState_msgCnt (k := 2 ^ 32 - 1) (by decide)
  refine ⟨hs, hn, getMessagesPaginated_of_overflow ?_ (by decide)⟩
  rw [length_msgList hs, hn]
  decide

end StellarInsured.CrossChain
