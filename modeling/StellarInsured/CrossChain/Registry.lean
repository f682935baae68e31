import StellarInsured.CrossChain.Messages
import Mathlib.Algebra.Order.Ring.Nat

/-
  StellarInsured.CrossChain.Registry — the registries of `CrossChainContract` over whole
  runs: the bridges (`BRIDGE`, `BRIDGE_LIST`, `BRIDGE_CNT`), the chains (`CHAIN`,
  `CHAIN_LIST`), each bridge's validators (`VALIDATOR`, `VAL_LIST`), the asset mappings
  (`ASSET_MAP`, `ASSET_LIST`), and their four counts in the stats.

  What a call can do to them (`regKeys`) is said once, in `RegStep`: a call other than
  the eight registry calls and `confirm_message` leaves them as they were (`*_regKeys`);
  `register_*` stores a new record under a key it found free and lists it,
  `update_bridge_status` and `deactivate_*` rewrite a stored record, and
  `confirm_message` bumps a validator's `total_confirmations` (`regStep_apply`). Every
  result below is proved from it.

  Proved, over every reachable state (`registry_wf`, `RegInv`):
  - `BRIDGE_LIST` is `[1, …, BRIDGE_CNT]` and the bridges stored are exactly those, each
    under its own id, supporting some chain, with a status of at most 3;
  - `CHAIN_LIST`, every `VAL_LIST` and `ASSET_LIST` hold no key twice and list exactly
    the records stored; a chain's bridge, a validator's bridge and a mapping's chain are
    registered, and each record sits under its own key;
  - `total_bridges`, `total_chains`, `total_asset_mappings` are the lengths of the lists,
    and `total_validators` is the sum of the lengths of the bridges' `VAL_LIST`s.
  And over every run from a reachable state (`registrations_persist`): nothing
  registered is ever removed, and only a bridge's status and update time, the `is_active`
  flags and a validator's confirmation tally ever change. Every other change to the
  registries is made by a caller holding the `Admin` role (`registry_admin_only`).
-/

namespace StellarInsured.CrossChain

open Authorization

/-! ## The registry keys -/

/-- The keys the registry invariants read. -/
structure RegKeys where
  bridges : Nat → Option BridgeRegistration
  bridgeList : Option (List Nat)
  bridgeCnt : Option Nat
  chains : Nat → Option ChainRecord
  chainList : Option (List Nat)
  validators : Nat → Address → Option ValidatorRecord
  valLists : Nat → Option (List Address)
  assetMaps : Address → Nat → Option AssetMapping
  assetList : Option (List (Address × Nat))
  totalBridges : Nat
  totalChains : Nat
  totalValidators : Nat
  totalAssetMappings : Nat

def regKeys (s : State) : RegKeys :=
  ⟨s.bridges, s.bridgeList, s.bridgeCnt, s.chains, s.chainList, s.validators, s.valLists,
    s.assetMaps, s.assetList, (getStats s).totalBridges, (getStats s).totalChains,
    (getStats s).totalValidators, (getStats s).totalAssetMappings⟩

namespace RegKeys

/-- `bridge` stored under the next bridge id, listed and counted. -/
def addBridge (k : RegKeys) (bridge : BridgeRegistration) : RegKeys :=
  { k with
    bridges := Function.update k.bridges (k.bridgeCnt.getD 0 + 1) (some bridge)
    bridgeList := some (k.bridgeList.getD [] ++ [k.bridgeCnt.getD 0 + 1])
    bridgeCnt := some (k.bridgeCnt.getD 0 + 1)
    totalBridges := k.totalBridges + 1 }

/-- Bridge `b` rewritten to `bridge`. -/
def setBridge (k : RegKeys) (b : Nat) (bridge : BridgeRegistration) : RegKeys :=
  { k with bridges := Function.update k.bridges b (some bridge) }

/-- `chain` stored under `c`, listed and counted. -/
def addChain (k : RegKeys) (c : Nat) (chain : ChainRecord) : RegKeys :=
  { k with
    chains := Function.update k.chains c (some chain)
    chainList := some (k.chainList.getD [] ++ [c])
    totalChains := k.totalChains + 1 }

/-- Chain `c` rewritten to `chain`. -/
def setChain (k : RegKeys) (c : Nat) (chain : ChainRecord) : RegKeys :=
  { k with chains := Function.update k.chains c (some chain) }

/-- `record` stored for validator `v` of bridge `b`, listed and counted. -/
def addValidator (k : RegKeys) (b : Nat) (v : Address) (record : ValidatorRecord) : RegKeys :=
  { k with
    validators := Function.update k.validators b (Function.update (k.validators b) v (some record))
    valLists := Function.update k.valLists b (some ((k.valLists b).getD [] ++ [v]))
    totalValidators := k.totalValidators + 1 }

/-- The record of validator `v` of bridge `b` rewritten to `record`. -/
def setValidator (k : RegKeys) (b : Nat) (v : Address) (record : ValidatorRecord) : RegKeys :=
  { k with
    validators := Function.update k.validators b (Function.update (k.validators b) v (some record)) }

/-- `mapping` stored under `(a, c)`, listed and counted. -/
def addAsset (k : RegKeys) (a : Address) (c : Nat) (mapping : AssetMapping) : RegKeys :=
  { k with
    assetMaps := Function.update k.assetMaps a (Function.update (k.assetMaps a) c (some mapping))
    assetList := some (k.assetList.getD [] ++ [(a, c)])
    totalAssetMappings := k.totalAssetMappings + 1 }

/-- The mapping under `(a, c)` rewritten to `mapping`. -/
def setAsset (k : RegKeys) (a : Address) (c : Nat) (mapping : AssetMapping) : RegKeys :=
  { k with
    assetMaps := Function.update k.assetMaps a (Function.update (k.assetMaps a) c (some mapping)) }

end RegKeys

/-- `update_stats_field` with a closure that adds one to one counter. -/
theorem updateStatsField_bump {s s' : State} {w : Nat} {get : CrossChainStats → Nat}
    {set : CrossChainStats → Nat → CrossChainStats}
    (h : updateStatsField s (fun st => (addU w (get st) 1).map (set st)) = some s') :
    s' = { s with stats := some (set (getStats s) (get (getStats s) + 1)) } := by
  obtain ⟨st, hst, rfl⟩ := Option.map_eq_some'.1 h
  obtain ⟨n, hn, rfl⟩ := Option.map_eq_some'.1 hst
  obtain ⟨-, rfl⟩ := addU_eq_some.1 hn
  rfl

/-! ## Calls that leave the registries alone -/

section Frames

variable (host : Host) (s : State)

theorem init_regKeys (a g o : Address) (n e : Nat) :
    regKeys ((init host a g o n e s).after s) = regKeys s := by
  unfold init
  split_ifs
  all_goals first | rfl | exact authorized_keeps regKeys rfl

theorem setPausedBy_regKeys (admin : Address) (p : Bool) :
    regKeys ((setPausedBy host admin p s).after s) = regKeys s :=
  authorized_keeps regKeys <| checked_keeps regKeys fun _ _ _ h => by cases h; rfl

theorem grantRole_regKeys (admin x : Address) (r : Nat) :
    regKeys ((grantRole host admin x r s).after s) = regKeys s := by
  unfold grantRole
  cases grantRoleKeys host admin x r s.auth <;> rfl

theorem sendMessage_regKeys (x : Address) (t ty p : Nat) :
    regKeys ((sendMessage host x t ty p s).after s) = regKeys s :=
  authorized_keeps regKeys <| checked_keeps regKeys fun _ _ _ h => by
    obtain ⟨_, -, h⟩ := Option.bind_eq_some.1 h
    obtain ⟨_, -, h⟩ := Option.bind_eq_some.1 h
    obtain ⟨_, hs, ⟨⟩⟩ := Option.bind_eq_some.1 h
    exact (congrArg regKeys (updateStatsField_bump hs)).trans rfl

theorem receiveMessage_regKeys (x : Address) (c ty p n : Nat) :
    regKeys ((receiveMessage host x c ty p n s).after s) = regKeys s :=
  authorized_keeps regKeys <| checked_keeps regKeys fun _ _ _ h => by
    obtain ⟨_, -, h⟩ := Option.bind_eq_some.1 h
    obtain ⟨_, hs, ⟨⟩⟩ := Option.bind_eq_some.1 h
    exact (congrArg regKeys (updateStatsField_bump hs)).trans rfl

theorem executeMessage_regKeys (e : Address) (m : Nat) :
    regKeys ((executeMessage host e m s).after s) = regKeys s := by
  refine authorized_keeps regKeys ?_
  split
  · rfl
  · split
    · rfl
    · rfl
    · refine checked_keeps regKeys fun _ _ _ h => ?_
      obtain ⟨_, hs, ⟨⟩⟩ := Option.bind_eq_some.1 h
      exact (congrArg regKeys (updateStatsField_bump hs)).trans rfl

theorem createCrossChainProposal_regKeys (p : Address) (t : String) (ty c : Nat) :
    regKeys ((createCrossChainProposal host p t ty c s).after s) = regKeys s :=
  authorized_keeps regKeys <| checked_keeps regKeys fun _ _ _ h => by
    obtain ⟨_, -, h⟩ := Option.bind_eq_some.1 h
    obtain ⟨_, -, h⟩ := Option.bind_eq_some.1 h
    obtain ⟨_, hs, ⟨⟩⟩ := Option.bind_eq_some.1 h
    exact (congrArg regKeys (updateStatsField_bump hs)).trans rfl

theorem voteCrossChainProposal_regKeys (v : Address) (p : Nat) (w : Int) (y : Bool) :
    regKeys ((voteCrossChainProposal host v p w y s).after s) = regKeys s :=
  authorized_keeps regKeys <| checked_keeps regKeys fun _ _ _ h => by
    obtain ⟨_, -, h⟩ := Option.bind_eq_some.1 h
    obtain ⟨_, -, ⟨⟩⟩ := Option.bind_eq_some.1 h
    rfl

theorem finalizeCrossChainProposal_regKeys (p : Nat) :
    regKeys ((finalizeCrossChainProposal host p s).after s) = regKeys s :=
  checked_keeps regKeys fun _ _ _ h => by
    obtain ⟨_, -, ⟨⟩⟩ := Option.bind_eq_some.1 h
    rfl

theorem executeCrossChainProposal_regKeys (x : Address) (p : Nat) :
    regKeys ((executeCrossChainProposal host x p s).after s) = regKeys s :=
  authorized_keeps regKeys <| checked_keeps regKeys fun _ _ _ h => by cases h; rfl

end Frames

/-! ## What a call does to the registries -/

/-- What one call can do to the registry keys, guards included. -/
inductive RegStep (host : Host) (s : State) : Call → State → Prop
  /-- The call leaves the registry keys as they were. -/
  | frame {c : Call} {s' : State} : regKeys s' = regKeys s → RegStep host s c s'
  /-- `register_bridge` stores a bridge under the next id. -/
  | registerBridge {s' : State} (admin address : Address) (name : String) (supportedChains : List Nat) :
      getRole s.auth admin = .admin → supportedChains ≠ [] →
      regKeys s' = (regKeys s).addBridge ⟨s.bridgeCnt.getD 0 + 1, address, name, supportedChains, 0,
        host.timestamp, host.timestamp⟩ →
      RegStep host s (.registerBridge admin address name supportedChains) s'
  /-- `update_bridge_status` sets the status of a stored bridge, at most 3. -/
  | updateBridgeStatus {s' : State} (admin : Address) (b newStatus : Nat) (bridge : BridgeRegistration) :
      getRole s.auth admin = .admin → newStatus ≤ 3 → s.bridges b = some bridge →
      regKeys s' = (regKeys s).setBridge b
        { bridge with status := newStatus, updatedAt := host.timestamp } →
      RegStep host s (.updateBridgeStatus admin b newStatus) s'
  /-- `register_chain` stores a new chain, not 0, of a stored bridge. -/
  | registerChain {s' : State} (admin : Address) (c : Nat) (name : String) (b : Nat) :
      getRole s.auth admin = .admin → c ≠ 0 → (s.bridges b).isSome → s.chains c = none →
      regKeys s' = (regKeys s).addChain c ⟨c, name, b, true, host.timestamp⟩ →
      RegStep host s (.registerChain admin c name b) s'
  /-- `deactivate_chain` clears the flag of a stored chain. -/
  | deactivateChain {s' : State} (admin : Address) (c : Nat) (chain : ChainRecord) :
      getRole s.auth admin = .admin → s.chains c = some chain →
      regKeys s' = (regKeys s).setChain c { chain with isActive := false } →
      RegStep host s (.deactivateChain admin c) s'
  /-- `register_validator` stores a new validator of a stored bridge. -/
  | registerValidator {s' : State} (admin v : Address) (b : Nat) :
      getRole s.auth admin = .admin → (s.bridges b).isSome → s.validators b v = none →
      regKeys s' = (regKeys s).addValidator b v ⟨v, b, true, 0⟩ →
      RegStep host s (.registerValidator admin v b) s'
  /-- `deactivate_validator` clears the flag of a stored validator. -/
  | deactivateValidator {s' : State} (admin v : Address) (b : Nat) (record : ValidatorRecord) :
      getRole s.auth admin = .admin → s.validators b v = some record →
      regKeys s' = (regKeys s).setValidator b v { record with isActive := false } →
      RegStep host s (.deactivateValidator admin v b) s'
  /-- `confirm_message(v, m)` adds one to the tally of a stored validator. -/
  | confirmTally {s' : State} (v : Address) (m b : Nat) (record : ValidatorRecord) :
      s.validators b v = some record →
      regKeys s' = (regKeys s).setValidator b v
        { record with totalConfirmations := record.totalConfirmations + 1 } →
      RegStep host s (.confirmMessage v m) s'
  /-- `register_asset_mapping` stores a new mapping to a stored chain. -/
  | registerAssetMapping {s' : State} (admin a : Address) (c h d : Nat) :
      getRole s.auth admin = .admin → (s.chains c).isSome → s.assetMaps a c = none →
      regKeys s' = (regKeys s).addAsset a c ⟨a, c, h, d, true⟩ →
      RegStep host s (.registerAssetMapping admin a c h d) s'
  /-- `deactivate_asset_mapping` clears the flag of a stored mapping. -/
  | deactivateAssetMapping {s' : State} (admin a : Address) (c : Nat) (mapping : AssetMapping) :
      getRole s.auth admin = .admin → s.assetMaps a c = some mapping →
      regKeys s' = (regKeys s).setAsset a c { mapping with isActive := false } →
      RegStep host s (.deactivateAssetMapping admin a c) s'

section Steps

variable {host : Host} {s : State}

theorem RegStep.of_authorized {β : Type} {c : Call} {caller : Address}
    {k : Outcome ContractError β State} (h : RegStep host s c (k.after s)) :
    RegStep host s c ((authorized host caller k).after s) := by
  unfold authorized
  split
  · exact h
  · exact .frame rfl

/-- A call made of checks and writes steps as its writes do. -/
theorem RegStep.of_checked {α β : Type} {c : Call} {checks : Except ContractError α}
    {writes : α → Option (β × State)}
    (h : ∀ a b s', checks = .ok a → writes a = some (b, s') → RegStep host s c s') :
    RegStep host s c ((checked s checks writes).after s) := by
  unfold checked
  split
  · exact .frame rfl
  · rename_i a
    cases hw : writes a with
    | none => exact .frame rfl
    | some p => exact h a p.1 p.2 rfl hw

theorem registerBridge_step (admin x : Address) (n : String) (cs : List Nat) :
    RegStep host s (.registerBridge admin x n cs) ((registerBridge host admin x n cs s).after s) :=
  .of_authorized <| .of_checked fun _ _ _ hc h => by
    simp only [Except.bind_eq_ok, checkAdmin_eq_ok, requireNotPaused_eq_ok, getConfig_eq_ok,
      Except.throw_eq, Except.pure_eq, Except.error_bind, Except.ok_bind, Except.ite_error_eq_ok, List.isEmpty_iff] at hc
    obtain ⟨_, hr, _, -, _, -, hcs, -⟩ := hc
    obtain ⟨_, hid, h⟩ := Option.bind_eq_some.1 h
    obtain ⟨-, rfl⟩ := addU_eq_some.1 hid
    obtain ⟨_, hs, ⟨⟩⟩ := Option.bind_eq_some.1 h
    exact .registerBridge admin x n cs hr hcs ((congrArg regKeys (updateStatsField_bump hs)).trans rfl)

theorem updateBridgeStatus_step (admin : Address) (b st : Nat) :
    RegStep host s (.updateBridgeStatus admin b st) ((updateBridgeStatus host admin b st s).after s) :=
  .of_authorized <| .of_checked fun bridge _ _ hc h => by
    simp only [Except.bind_eq_ok, checkAdmin_eq_ok, getBridge_eq_ok, Except.throw_eq,
      Except.pure_eq, Except.error_bind, Except.ok_bind, Except.ite_error_eq_ok, gt_iff_lt,
      not_lt] at hc
    obtain ⟨_, hr, hst, hb⟩ := hc
    cases h
    exact .updateBridgeStatus admin b st bridge hr hst hb rfl

theorem registerChain_step (admin : Address) (c : Nat) (n : String) (b : Nat) :
    RegStep host s (.registerChain admin c n b) ((registerChain host admin c n b s).after s) :=
  .of_authorized <| .of_checked fun _ _ _ hc h => by
    simp only [Except.bind_eq_ok, checkAdmin_eq_ok, requireNotPaused_eq_ok, getBridge_eq_ok,
      Except.throw_eq, Except.pure_eq, Except.error_bind, Except.ok_bind, Except.ite_error_eq_ok, Bool.not_eq_true,
      Option.not_isSome, Option.isNone_iff_eq_none] at hc
    obtain ⟨_, hr, _, -, hc0, bridge, hb, hfree, -⟩ := hc
    obtain ⟨_, hs, ⟨⟩⟩ := Option.bind_eq_some.1 h
    exact .registerChain admin c n b hr hc0 (by simp [hb]) hfree
      ((congrArg regKeys (updateStatsField_bump hs)).trans rfl)

theorem deactivateChain_step (admin : Address) (c : Nat) :
    RegStep host s (.deactivateChain admin c) ((deactivateChain host admin c s).after s) :=
  .of_authorized <| .of_checked fun chain _ _ hc h => by
    simp only [Except.bind_eq_ok, checkAdmin_eq_ok, getChain_eq_ok] at hc
    obtain ⟨_, hr, hch⟩ := hc
    cases h
    exact .deactivateChain admin c chain hr hch rfl

theorem registerValidator_step (admin v : Address) (b : Nat) :
    RegStep host s (.registerValidator admin v b) ((registerValidator host admin v b s).after s) :=
  .of_authorized <| .of_checked fun _ _ _ hc h => by
    simp only [Except.bind_eq_ok, checkAdmin_eq_ok, requireNotPaused_eq_ok, getBridge_eq_ok,
      Except.throw_eq, Except.pure_eq, Except.error_bind, Except.ok_bind, Except.ite_error_eq_ok, Bool.not_eq_true,
      Option.not_isSome, Option.isNone_iff_eq_none] at hc
    obtain ⟨_, hr, _, -, bridge, hb, hfree, -⟩ := hc
    obtain ⟨_, hs, ⟨⟩⟩ := Option.bind_eq_some.1 h
    exact .registerValidator admin v b hr (by simp [hb]) hfree
      ((congrArg regKeys (updateStatsField_bump hs)).trans rfl)

theorem deactivateValidator_step (admin v : Address) (b : Nat) :
    RegStep host s (.deactivateValidator admin v b) ((deactivateValidator host admin v b s).after s) :=
  .of_authorized <| .of_checked fun record _ _ hc h => by
    simp only [Except.bind_eq_ok, checkAdmin_eq_ok, okOr_eq_ok] at hc
    obtain ⟨_, hr, hv⟩ := hc
    cases h
    exact .deactivateValidator admin v b record hr hv rfl

theorem countConfirmed_regKeys {config : CrossChainConfig} {c : Nat} {s' : State}
    (h : countConfirmed config c s = some s') : regKeys s' = regKeys s := by
  unfold countConfirmed at h
  split_ifs at h
  · exact (congrArg regKeys (updateStatsField_bump h)).trans rfl
  · cases h; rfl

theorem recordConfirmation_regKeys {config : CrossChainConfig} {v : Address} {m : Nat}
    {msg : CrossChainMessage} {chain : ChainRecord} {record : ValidatorRecord} {n : Nat} {s' : State}
    (h : recordConfirmation host config v m msg chain record s = some (n, s')) :
    regKeys s' = (regKeys s).setValidator chain.bridgeId v
      { record with totalConfirmations := record.totalConfirmations + 1 } := by
  obtain ⟨_, -, h⟩ := Option.bind_eq_some.1 h
  obtain ⟨s2, hs2, h⟩ := Option.bind_eq_some.1 h
  obtain ⟨_, ht, ⟨⟩⟩ := Option.bind_eq_some.1 h
  obtain ⟨-, rfl⟩ := addU_eq_some.1 ht
  show (regKeys s2).setValidator _ _ _ = _
  rw [countConfirmed_regKeys hs2]
  rfl

theorem confirmMessage_regStep (v : Address) (m : Nat) :
    RegStep host s (.confirmMessage v m) ((confirmMessage host v m s).after s) := by
  refine .of_authorized ?_
  split
  · exact .frame rfl
  · split_ifs
    · exact .frame rfl
    split
    · exact .frame rfl
    · exact .frame rfl
    · refine .of_checked fun ⟨chain, record⟩ _ _ hcc hw => ?_
      exact .confirmTally v m chain.bridgeId record (confirmationChecks_eq_ok hcc).2.1
        (recordConfirmation_regKeys hw)

theorem registerAssetMapping_step (admin a : Address) (c h d : Nat) :
    RegStep host s (.registerAssetMapping admin a c h d)
      ((registerAssetMapping host admin a c h d s).after s) :=
  .of_authorized <| .of_checked fun _ _ _ hc hw => by
    simp only [Except.bind_eq_ok, checkAdmin_eq_ok, requireNotPaused_eq_ok, getChain_eq_ok,
      Except.throw_eq, Except.pure_eq, Except.error_bind, Except.ok_bind, Except.ite_error_eq_ok, Bool.not_eq_true,
      Option.not_isSome, Option.isNone_iff_eq_none] at hc
    obtain ⟨_, hr, _, -, chain, hch, hfree, -⟩ := hc
    obtain ⟨_, hs, ⟨⟩⟩ := Option.bind_eq_some.1 hw
    exact .registerAssetMapping admin a c h d hr (by simp [hch]) hfree
      ((congrArg regKeys (updateStatsField_bump hs)).trans rfl)

theorem deactivateAssetMapping_step (admin a : Address) (c : Nat) :
    RegStep host s (.deactivateAssetMapping admin a c)
      ((deactivateAssetMapping host admin a c s).after s) :=
  .of_authorized <| .of_checked fun mapping _ _ hc h => by
    simp only [Except.bind_eq_ok, checkAdmin_eq_ok, getAssetMapping_eq_ok] at hc
    obtain ⟨_, hr, hm⟩ := hc
    cases h
    exact .deactivateAssetMapping admin a c mapping hr hm rfl

/-- Every call takes one of the steps of `RegStep`. -/
theorem regStep_apply (host : Host) (c : Call) (s : State) : RegStep host s c (c.apply host s) := by
  cases c with
  | init a g o n e => exact .frame (init_regKeys host s a g o n e)
  | pause a => exact .frame (setPausedBy_regKeys host s a true)
  | unpause a => exact .frame (setPausedBy_regKeys host s a false)
  | grantRole a x r => exact .frame (grantRole_regKeys host s a x r)
  | registerBridge a x n cs => exact registerBridge_step a x n cs
  | updateBridgeStatus a b st => exact updateBridgeStatus_step a b st
  | registerChain a c n b => exact registerChain_step a c n b
  | deactivateChain a c => exact deactivateChain_step a c
  | sendMessage x t ty p => exact .frame (sendMessage_regKeys host s x t ty p)
  | receiveMessage x c ty p n => exact .frame (receiveMessage_regKeys host s x c ty p n)
  | registerValidator a v b => exact registerValidator_step a v b
  | deactivateValidator a v b => exact deactivateValidator_step a v b
  | confirmMessage v m => exact confirmMessage_regStep v m
  | executeMessage x m => exact .frame (executeMessage_regKeys host s x m)
  | registerAssetMapping a x c h d => exact registerAssetMapping_step a x c h d
  | deactivateAssetMapping a x c => exact deactivateAssetMapping_step a x c
  | createCrossChainProposal x t ty c =>
    exact .frame (createCrossChainProposal_regKeys host s x t ty c)
  | voteCrossChainProposal x p w y => exact .frame (voteCrossChainProposal_regKeys host s x p w y)
  | finalizeCrossChainProposal p => exact .frame (finalizeCrossChainProposal_regKeys host s p)
  | executeCrossChainProposal x p => exact .frame (executeCrossChainProposal_regKeys host s x p)

end Steps

/-! ## The registry invariant -/

theorem isSome_update_some {α β : Type} [DecidableEq α] {f : α → Option β} {a x : α} {v : β}
    (h : (f x).isSome) : (Function.update f a (some v) x).isSome := by
  rw [Function.update_apply]
  split <;> simp_all

theorem nodup_append_single {α : Type} {l : List α} {a : α} (hl : l.Nodup) (ha : a ∉ l) :
    (l ++ [a]).Nodup := by
  simpa using hl.concat ha

/-- A sum over a list without repeats, one of whose terms grows by one. -/
theorem sum_map_bump {l : List Nat} (hl : l.Nodup) {b : Nat} (hb : b ∈ l) {f g : Nat → Nat}
    (hgb : g b = f b + 1) (hg : ∀ x, x ≠ b → g x = f x) : (l.map g).sum = (l.map f).sum + 1 := by
  induction l with
  | nil => cases hb
  | cons x l ih =>
    rw [List.nodup_cons] at hl
    simp only [List.map_cons, List.sum_cons]
    by_cases hx : x = b
    · subst hx
      rw [hgb, List.map_congr_left fun y hy => hg y (ne_of_mem_of_not_mem hy hl.1)]
      omega
    · rw [hg x hx, ih hl.2 ((List.mem_cons.1 hb).resolve_left (Ne.symm hx))]
      omega

/-- The registries agree with their lists, their records with their keys, and the stats
    with both. -/
structure RegInv (k : RegKeys) : Prop where
  /-- `BRIDGE_LIST` is `[1, …, BRIDGE_CNT]`. -/
  bridgeList_eq : k.bridgeList.getD [] = List.range' 1 (k.bridgeCnt.getD 0)
  /-- The bridges stored are those listed. -/
  bridge_stored : ∀ b, (k.bridges b).isSome ↔ b ∈ k.bridgeList.getD []
  /-- A bridge sits under its own id, supports some chain, and has a status of at most 3. -/
  bridge_wf : ∀ b r, k.bridges b = some r → r.bridgeId = b ∧ r.supportedChains ≠ [] ∧ r.status ≤ 3
  total_bridges : k.totalBridges = k.bridgeCnt.getD 0
  chainList_nodup : (k.chainList.getD []).Nodup
  /-- The chains stored are those listed. -/
  chain_stored : ∀ c, (k.chains c).isSome ↔ c ∈ k.chainList.getD []
  /-- A chain sits under its own id, not 0, and its bridge is registered. -/
  chain_wf : ∀ c r, k.chains c = some r → r.chainId = c ∧ c ≠ 0 ∧ (k.bridges r.bridgeId).isSome
  total_chains : k.totalChains = (k.chainList.getD []).length
  valList_nodup : ∀ b, ((k.valLists b).getD []).Nodup
  /-- The validators stored for a bridge are those of its `VAL_LIST`. -/
  validator_stored : ∀ b v, (k.validators b v).isSome ↔ v ∈ (k.valLists b).getD []
  /-- A validator's record names it and its bridge, which is registered. -/
  validator_wf : ∀ b v r, k.validators b v = some r →
    r.validator = v ∧ r.bridgeId = b ∧ (k.bridges b).isSome
  /-- `total_validators` counts the validators of every registered bridge. -/
  total_validators :
    k.totalValidators = ((k.bridgeList.getD []).map fun b => ((k.valLists b).getD []).length).sum
  assetList_nodup : (k.assetList.getD []).Nodup
  /-- The mappings stored are those listed. -/
  asset_stored : ∀ a c, (k.assetMaps a c).isSome ↔ (a, c) ∈ k.assetList.getD []
  /-- A mapping names its asset and its chain, which is registered. -/
  asset_wf : ∀ a c m, k.assetMaps a c = some m →
    m.stellarAsset = a ∧ m.remoteChainId = c ∧ (k.chains c).isSome
  total_assets : k.totalAssetMappings = (k.assetList.getD []).length

theorem regInv_empty : RegInv (regKeys State.empty) where
  bridgeList_eq := rfl
  bridge_stored := by simp [regKeys, State.empty]
  bridge_wf := by simp [regKeys, State.empty]
  total_bridges := rfl
  chainList_nodup := List.nodup_nil
  chain_stored := by simp [regKeys, State.empty]
  chain_wf := by simp [regKeys, State.empty]
  total_chains := rfl
  valList_nodup := fun _ => List.nodup_nil
  validator_stored := by simp [regKeys, State.empty]
  validator_wf := by simp [regKeys, State.empty]
  total_validators := rfl
  assetList_nodup := List.nodup_nil
  asset_stored := by simp [regKeys, State.empty]
  asset_wf := by simp [regKeys, State.empty]
  total_assets := rfl

namespace RegInv

variable {k : RegKeys}

/-- A bridge not registered has no validators listed. -/
theorem valList_nil (hi : RegInv k) {b : Nat} (hb : k.bridges b = none) :
    (k.valLists b).getD [] = [] :=
  List.eq_nil_iff_forall_not_mem.2 fun v hv => by
    obtain ⟨r, hr⟩ := Option.isSome_iff_exists.1 ((hi.validator_stored b v).2 hv)
    simpa [hb] using (hi.validator_wf b v r hr).2.2

theorem addBridge (hi : RegInv k) {r : BridgeRegistration} (hid : r.bridgeId = k.bridgeCnt.getD 0 + 1)
    (hcs : r.supportedChains ≠ []) (hst : r.status ≤ 3) : RegInv (k.addBridge r) := by
  have hfresh : k.bridges (k.bridgeCnt.getD 0 + 1) = none := by
    rw [← Option.not_isSome_iff_eq_none, hi.bridge_stored, hi.bridgeList_eq, List.mem_range'_1]
    omega
  exact { hi with
    bridgeList_eq := by
      simp only [RegKeys.addBridge, Option.getD_some]
      rw [hi.bridgeList_eq, List.range'_concat, Nat.one_mul, Nat.add_comm]
    bridge_stored := fun b => by
      by_cases h : b = k.bridgeCnt.getD 0 + 1 <;>
        simp [RegKeys.addBridge, Function.update_apply, h, hi.bridge_stored]
    bridge_wf := fun b r' h => by
      simp only [RegKeys.addBridge, Function.update_apply] at h
      split_ifs at h with hb
      · cases h
        exact ⟨hb ▸ hid, hcs, hst⟩
      · exact hi.bridge_wf b r' h
    total_bridges := congrArg (· + 1) hi.total_bridges
    chain_wf := fun c r' h =>
      have := hi.chain_wf c r' h
      ⟨this.1, this.2.1, isSome_update_some this.2.2⟩
    validator_wf := fun b v r' h =>
      have := hi.validator_wf b v r' h
      ⟨this.1, this.2.1, isSome_update_some this.2.2⟩
    total_validators := by
      simp [RegKeys.addBridge, hi.total_validators, hi.valList_nil hfresh] }

theorem setBridge (hi : RegInv k) {b : Nat} {old r : BridgeRegistration} (hold : k.bridges b = some old)
    (hid : r.bridgeId = old.bridgeId) (hcs : r.supportedChains = old.supportedChains)
    (hst : r.status ≤ 3) : RegInv (k.setBridge b r) :=
  { hi with
    bridge_stored := fun b' => by
      by_cases h : b' = b <;> simp [RegKeys.setBridge, Function.update_apply, h, ← hi.bridge_stored, hold]
    bridge_wf := fun b' r' h => by
      simp only [RegKeys.setBridge, Function.update_apply] at h
      split_ifs at h with hb
      · cases h
        have := hi.bridge_wf b old hold
        exact ⟨hid.trans (hb ▸ this.1), hcs ▸ this.2.1, hst⟩
      · exact hi.bridge_wf b' r' h
    chain_wf := fun c r' h =>
      have := hi.chain_wf c r' h
      ⟨this.1, this.2.1, isSome_update_some this.2.2⟩
    validator_wf := fun b' v r' h =>
      have := hi.validator_wf b' v r' h
      ⟨this.1, this.2.1, isSome_update_some this.2.2⟩ }

theorem addChain (hi : RegInv k) {c : Nat} {r : ChainRecord} (hid : r.chainId = c) (hc0 : c ≠ 0)
    (hb : (k.bridges r.bridgeId).isSome) (hfree : k.chains c = none) : RegInv (k.addChain c r) :=
  have hnew : c ∉ k.chainList.getD [] := by simp [← hi.chain_stored, hfree]
  { hi with
    chainList_nodup := nodup_append_single hi.chainList_nodup hnew
    chain_stored := fun c' => by
      by_cases h : c' = c <;> simp [RegKeys.addChain, Function.update_apply, h, hi.chain_stored]
    chain_wf := fun c' r' h => by
      simp only [RegKeys.addChain, Function.update_apply] at h
      split_ifs at h with hc
      · cases h
        exact ⟨hid.trans hc.symm, hc ▸ hc0, hb⟩
      · exact hi.chain_wf c' r' h
    total_chains := by simp [RegKeys.addChain, hi.total_chains]
    asset_wf := fun a c' m h =>
      have := hi.asset_wf a c' m h
      ⟨this.1, this.2.1, isSome_update_some this.2.2⟩ }

theorem setChain (hi : RegInv k) {c : Nat} {old r : ChainRecord} (hold : k.chains c = some old)
    (hid : r.chainId = old.chainId) (hb : r.bridgeId = old.bridgeId) : RegInv (k.setChain c r) :=
  { hi with
    chain_stored := fun c' => by
      by_cases h : c' = c <;> simp [RegKeys.setChain, Function.update_apply, h, ← hi.chain_stored, hold]
    chain_wf := fun c' r' h => by
      simp only [RegKeys.setChain, Function.update_apply] at h
      split_ifs at h with hc
      · cases h
        subst hc
        rw [hid, hb]
        exact hi.chain_wf c' old hold
      · exact hi.chain_wf c' r' h
    asset_wf := fun a c' m h =>
      have := hi.asset_wf a c' m h
      ⟨this.1, this.2.1, isSome_update_some this.2.2⟩ }

theorem addValidator (hi : RegInv k) {b : Nat} {v : Address} {r : ValidatorRecord}
    (hv : r.validator = v) (hrb : r.bridgeId = b) (hb : (k.bridges b).isSome)
    (hfree : k.validators b v = none) : RegInv (k.addValidator b v r) :=
  { hi with
    valList_nodup := fun b' => by
      by_cases h : b' = b
      · subst h
        simpa [RegKeys.addValidator] using
          nodup_append_single (hi.valList_nodup b') (by simp [← hi.validator_stored, hfree])
      · simpa [RegKeys.addValidator, Function.update_noteq h] using hi.valList_nodup b'
    validator_stored := fun b' v' => by
      by_cases h1 : b' = b <;> by_cases h2 : v' = v <;>
        simp [RegKeys.addValidator, Function.update_apply, h1, h2, hi.validator_stored]
    validator_wf := fun b' v' r' h => by
      by_cases h1 : b' = b
      · subst h1
        by_cases h2 : v' = v
        · subst h2
          simp only [RegKeys.addValidator, Function.update_same, Option.some.injEq] at h
          exact h ▸ ⟨hv, hrb, hb⟩
        · simp only [RegKeys.addValidator, Function.update_same, Function.update_noteq h2] at h
          exact hi.validator_wf b' v' r' h
      · simp only [RegKeys.addValidator, Function.update_noteq h1] at h
        exact hi.validator_wf b' v' r' h
    total_validators := by
      have hnd : (k.bridgeList.getD []).Nodup := hi.bridgeList_eq ▸ List.nodup_range' 1 _
      show k.totalValidators + 1 = _
      rw [hi.total_validators]
      exact (sum_map_bump hnd ((hi.bridge_stored b).1 hb) (by simp [RegKeys.addValidator])
        fun x hx => by simp [RegKeys.addValidator, Function.update_noteq hx]).symm }

theorem setValidator (hi : RegInv k) {b : Nat} {v : Address} {old r : ValidatorRecord}
    (hold : k.validators b v = some old) (hv : r.validator = old.validator)
    (hrb : r.bridgeId = old.bridgeId) : RegInv (k.setValidator b v r) :=
  { hi with
    validator_stored := fun b' v' => by
      by_cases h1 : b' = b <;> by_cases h2 : v' = v <;>
        simp_all [RegKeys.setValidator, Function.update_apply, ← hi.validator_stored]
    validator_wf := fun b' v' r' h => by
      by_cases h1 : b' = b
      · subst h1
        by_cases h2 : v' = v
        · subst h2
          simp only [RegKeys.setValidator, Function.update_same, Option.some.injEq] at h
          subst h
          rw [hv, hrb]
          exact hi.validator_wf b' v' old hold
        · simp only [RegKeys.setValidator, Function.update_same, Function.update_noteq h2] at h
          exact hi.validator_wf b' v' r' h
      · simp only [RegKeys.setValidator, Function.update_noteq h1] at h
        exact hi.validator_wf b' v' r' h }

theorem addAsset (hi : RegInv k) {a : Address} {c : Nat} {m : AssetMapping}
    (ha : m.stellarAsset = a) (hc : m.remoteChainId = c) (hch : (k.chains c).isSome)
    (hfree : k.assetMaps a c = none) : RegInv (k.addAsset a c m) :=
  { hi with
    assetList_nodup := nodup_append_single hi.assetList_nodup (by simp [← hi.asset_stored, hfree])
    asset_stored := fun a' c' => by
      by_cases h1 : a' = a <;> by_cases h2 : c' = c <;>
        simp [RegKeys.addAsset, Function.update_apply, h1, h2, hi.asset_stored]
    asset_wf := fun a' c' m' h => by
      by_cases h1 : a' = a
      · subst h1
        by_cases h2 : c' = c
        · subst h2
          simp only [RegKeys.addAsset, Function.update_same, Option.some.injEq] at h
          exact h ▸ ⟨ha, hc, hch⟩
        · simp only [RegKeys.addAsset, Function.update_same, Function.update_noteq h2] at h
          exact hi.asset_wf a' c' m' h
      · simp only [RegKeys.addAsset, Function.update_noteq h1] at h
        exact hi.asset_wf a' c' m' h
    total_assets := by simp [RegKeys.addAsset, hi.total_assets] }

theorem setAsset (hi : RegInv k) {a : Address} {c : Nat} {old m : AssetMapping}
    (hold : k.assetMaps a c = some old) (ha : m.stellarAsset = old.stellarAsset)
    (hc : m.remoteChainId = old.remoteChainId) : RegInv (k.setAsset a c m) :=
  { hi with
    asset_stored := fun a' c' => by
      by_cases h1 : a' = a <;> by_cases h2 : c' = c <;>
        simp_all [RegKeys.setAsset, Function.update_apply, ← hi.asset_stored]
    asset_wf := fun a' c' m' h => by
      by_cases h1 : a' = a
      · subst h1
        by_cases h2 : c' = c
        · subst h2
          simp only [RegKeys.setAsset, Function.update_same, Option.some.injEq] at h
          subst h
          rw [ha, hc]
          exact hi.asset_wf a' c' old hold
        · simp only [RegKeys.setAsset, Function.update_same, Function.update_noteq h2] at h
          exact hi.asset_wf a' c' m' h
      · simp only [RegKeys.setAsset, Function.update_noteq h1] at h
        exact hi.asset_wf a' c' m' h }

end RegInv

/-- One call keeps the registry invariant. -/
theorem RegStep.regInv {host : Host} {s s' : State} {c : Call} (h : RegStep host s c s')
    (hi : RegInv (regKeys s)) : RegInv (regKeys s') := by
  cases h with
  | frame h => exact h ▸ hi
  | registerBridge _ _ _ _ _ hcs h => exact h ▸ hi.addBridge rfl hcs (Nat.zero_le 3)
  | updateBridgeStatus _ _ _ _ _ hst hb h => exact h ▸ hi.setBridge hb rfl rfl hst
  | registerChain _ _ _ _ _ hc0 hb hfree h => exact h ▸ hi.addChain rfl hc0 hb hfree
  | deactivateChain _ _ _ _ hc h => exact h ▸ hi.setChain hc rfl rfl
  | registerValidator _ _ _ _ hb hfree h => exact h ▸ hi.addValidator rfl rfl hb hfree
  | deactivateValidator _ _ _ _ _ hv h => exact h ▸ hi.setValidator hv rfl rfl
  | confirmTally _ _ _ _ hv h => exact h ▸ hi.setValidator hv rfl rfl
  | registerAssetMapping _ _ _ _ _ _ hc hfree h => exact h ▸ hi.addAsset rfl rfl hc hfree
  | deactivateAssetMapping _ _ _ _ _ hm h => exact h ▸ hi.setAsset hm rfl rfl

theorem reachable_regInv {s : State} (hs : Reachable s) : RegInv (regKeys s) := by
  induction hs with
  | empty => exact regInv_empty
  | step host c _ ih => exact (regStep_apply host c _).regInv ih

/-- In every reachable state the registries agree with their lists, their records with
    their keys, and the stats with both. -/
theorem registry_wf {s : State} (hs : Reachable s) : RegInv (regKeys s) :=
  reachable_regInv hs

/-- A contract with one bridge, its chain, a validator of the bridge, an asset mapping to
    the chain, and one message relayed from it. -/
def registrySetup : State :=
  exec State.empty [(⟨0, fun _ => true⟩, .init ⟨0⟩ ⟨0⟩ ⟨0⟩ 1 3600),
    (⟨0, fun _ => true⟩, .registerBridge ⟨0⟩ ⟨9⟩ "bridge" [1]),
    (⟨0, fun _ => true⟩, .registerChain ⟨0⟩ 1 "chain" 1),
    (⟨0, fun _ => true⟩, .registerValidator ⟨0⟩ ⟨5⟩ 1),
    (⟨0, fun _ => true⟩, .registerAssetMapping ⟨0⟩ ⟨7⟩ 1 42 7),
    (⟨0, fun _ => true⟩, .receiveMessage ⟨2⟩ 1 0 0 0)]

theorem registrySetup_reachable : Reachable registrySetup := reachable_exec .empty _

theorem registry_wf_setup : Reachable registrySetup ∧ RegInv (regKeys registrySetup) :=
  ⟨registrySetup_reachable, registry_wf registrySetup_reachable⟩

/-! ## Registrations persist -/

/-- A bridge without the fields `update_bridge_status` writes. -/
def BridgeRegistration.frozen (r : BridgeRegistration) : BridgeRegistration :=
  { r with status := 0, updatedAt := 0 }

/-- A chain without its `is_active` flag. -/
def ChainRecord.frozen (r : ChainRecord) : ChainRecord := { r with isActive := false }

/-- A validator's record without its flag and its tally. -/
def ValidatorRecord.frozen (r : ValidatorRecord) : ValidatorRecord :=
  { r with isActive := false, totalConfirmations := 0 }

/-- A mapping without its `is_active` flag. -/
def AssetMapping.frozen (m : AssetMapping) : AssetMapping := { m with isActive := false }

/-- From `k` to `k'` every registration stays, with its frozen fields, and every list only
    grows at its end. -/
structure RegGrows (k k' : RegKeys) : Prop where
  bridges : ∀ b, (k.bridges b).isSome →
    (k'.bridges b).map BridgeRegistration.frozen = (k.bridges b).map BridgeRegistration.frozen
  chains : ∀ c, (k.chains c).isSome →
    (k'.chains c).map ChainRecord.frozen = (k.chains c).map ChainRecord.frozen
  validators : ∀ b v, (k.validators b v).isSome →
    (k'.validators b v).map ValidatorRecord.frozen = (k.validators b v).map ValidatorRecord.frozen
  assetMaps : ∀ a c, (k.assetMaps a c).isSome →
    (k'.assetMaps a c).map AssetMapping.frozen = (k.assetMaps a c).map AssetMapping.frozen
  bridgeList : k.bridgeList.getD [] <+: k'.bridgeList.getD []
  chainList : k.chainList.getD [] <+: k'.chainList.getD []
  valLists : ∀ b, (k.valLists b).getD [] <+: (k'.valLists b).getD []
  assetList : k.assetList.getD [] <+: k'.assetList.getD []

theorem isSome_of_map_eq {α β : Type} {f : α → β} {o o' : Option α} (h : o'.map f = o.map f)
    (ho : o.isSome) : o'.isSome := by
  have := congrArg Option.isSome h
  simp only [Option.isSome_map'] at this
  rwa [this]

/-- Writing a fresh key leaves every stored key as it was. -/
theorem map_update_fresh {α β γ : Type} [DecidableEq α] {g : α → Option β} {a x : α} {v : β}
    (f : β → γ) (hfree : g a = none) (hx : (g x).isSome) :
    (Function.update g a (some v) x).map f = (g x).map f := by
  rw [Function.update_noteq]
  rintro rfl
  simp [hfree] at hx

/-- Rewriting a stored key with the same frozen fields. -/
theorem map_update_frozen {α β γ : Type} [DecidableEq α] {g : α → Option β} {a : α} {old v : β}
    {f : β → γ} (hold : g a = some old) (hv : f v = f old) (x : α) :
    (Function.update g a (some v) x).map f = (g x).map f := by
  rw [Function.update_apply]
  split
  · subst_vars
    simp [hold, hv]
  · rfl

namespace RegGrows

variable {k k' k'' : RegKeys}

theorem refl (k : RegKeys) : RegGrows k k :=
  ⟨fun _ _ => rfl, fun _ _ => rfl, fun _ _ _ => rfl, fun _ _ _ => rfl, List.prefix_refl _,
    List.prefix_refl _, fun _ => List.prefix_refl _, List.prefix_refl _⟩

theorem trans (h₁ : RegGrows k k') (h₂ : RegGrows k' k'') : RegGrows k k'' where
  bridges b hb := (h₂.bridges b (isSome_of_map_eq (h₁.bridges b hb) hb)).trans (h₁.bridges b hb)
  chains c hc := (h₂.chains c (isSome_of_map_eq (h₁.chains c hc) hc)).trans (h₁.chains c hc)
  validators b v hv :=
    (h₂.validators b v (isSome_of_map_eq (h₁.validators b v hv) hv)).trans (h₁.validators b v hv)
  assetMaps a c hm :=
    (h₂.assetMaps a c (isSome_of_map_eq (h₁.assetMaps a c hm) hm)).trans (h₁.assetMaps a c hm)
  bridgeList := h₁.bridgeList.trans h₂.bridgeList
  chainList := h₁.chainList.trans h₂.chainList
  valLists b := (h₁.valLists b).trans (h₂.valLists b)
  assetList := h₁.assetList.trans h₂.assetList

theorem addBridge {r : BridgeRegistration} (hfresh : k.bridges (k.bridgeCnt.getD 0 + 1) = none) :
    RegGrows k (k.addBridge r) :=
  { refl k with
    bridges := fun _ => map_update_fresh _ hfresh
    bridgeList := List.prefix_append _ _ }

theorem setBridge {b : Nat} {old r : BridgeRegistration} (hold : k.bridges b = some old)
    (hr : r.frozen = old.frozen) : RegGrows k (k.setBridge b r) :=
  { refl k with bridges := fun b' _ => map_update_frozen hold hr b' }

theorem addChain {c : Nat} {r : ChainRecord} (hfree : k.chains c = none) :
    RegGrows k (k.addChain c r) :=
  { refl k with
    chains := fun _ => map_update_fresh _ hfree
    chainList := List.prefix_append _ _ }

theorem setChain {c : Nat} {old r : ChainRecord} (hold : k.chains c = some old)
    (hr : r.frozen = old.frozen) : RegGrows k (k.setChain c r) :=
  { refl k with chains := fun c' _ => map_update_frozen hold hr c' }

theorem addValidator {b : Nat} {v : Address} {r : ValidatorRecord} (hfree : k.validators b v = none) :
    RegGrows k (k.addValidator b v r) :=
  { refl k with
    validators := fun b' v' hv => by
      by_cases h : b' = b
      · subst h
        simpa [RegKeys.addValidator] using map_update_fresh _ hfree hv
      · simp [RegKeys.addValidator, Function.update_noteq h]
    valLists := fun b' => by
      by_cases h : b' = b
      · subst h
        simp [RegKeys.addValidator]
      · simp [RegKeys.addValidator, Function.update_noteq h] }

theorem setValidator {b : Nat} {v : Address} {old r : ValidatorRecord}
    (hold : k.validators b v = some old) (hr : r.frozen = old.frozen) :
    RegGrows k (k.setValidator b v r) :=
  { refl k with
    validators := fun b' v' _ => by
      by_cases h : b' = b
      · subst h
        simpa [RegKeys.setValidator] using map_update_frozen hold hr v'
      · simp [RegKeys.setValidator, Function.update_noteq h] }

theorem addAsset {a : Address} {c : Nat} {m : AssetMapping} (hfree : k.assetMaps a c = none) :
    RegGrows k (k.addAsset a c m) :=
  { refl k with
    assetMaps := fun a' c' hm => by
      by_cases h : a' = a
      · subst h
        simpa [RegKeys.addAsset] using map_update_fresh _ hfree hm
      · simp [RegKeys.addAsset, Function.update_noteq h]
    assetList := List.prefix_append _ _ }

theorem setAsset {a : Address} {c : Nat} {old m : AssetMapping}
    (hold : k.assetMaps a c = some old) (hm : m.frozen = old.frozen) :
    RegGrows k (k.setAsset a c m) :=
  { refl k with
    assetMaps := fun a' c' _ => by
      by_cases h : a' = a
      · subst h
        simpa [RegKeys.setAsset] using map_update_frozen hold hm c'
      · simp [RegKeys.setAsset, Function.update_noteq h] }

end RegGrows

/-- From a state satisfying the invariant, one call keeps every registration. -/
theorem RegStep.grows {host : Host} {s s' : State} {c : Call} (h : RegStep host s c s')
    (hi : RegInv (regKeys s)) : RegGrows (regKeys s) (regKeys s') := by
  cases h with
  | frame h => exact h ▸ .refl _
  | registerBridge _ _ _ _ _ _ h =>
    refine h ▸ .addBridge ?_
    rw [← Option.not_isSome_iff_eq_none, hi.bridge_stored, hi.bridgeList_eq, List.mem_range'_1]
    omega
  | updateBridgeStatus _ _ _ _ _ _ hb h => exact h ▸ .setBridge hb rfl
  | registerChain _ _ _ _ _ _ _ hfree h => exact h ▸ .addChain hfree
  | deactivateChain _ _ _ _ hc h => exact h ▸ .setChain hc rfl
  | registerValidator _ _ _ _ _ hfree h => exact h ▸ .addValidator hfree
  | deactivateValidator _ _ _ _ _ hv h => exact h ▸ .setValidator hv rfl
  | confirmTally _ _ _ _ hv h => exact h ▸ .setValidator hv rfl
  | registerAssetMapping _ _ _ _ _ _ _ hfree h => exact h ▸ .addAsset hfree
  | deactivateAssetMapping _ _ _ _ _ hm h => exact h ▸ .setAsset hm rfl

/-- Over every run from a reachable state, nothing registered is removed, the registry lists
    only grow at their ends, and no call changes the frozen fields of a registration. -/
theorem registrations_persist {s : State} (hs : Reachable s) (cs : List (Host × Call)) :
    RegGrows (regKeys s) (regKeys (exec s cs)) := by
  induction cs generalizing s with
  | nil => exact .refl _
  | cons hc cs ih =>
    exact ((regStep_apply hc.1 hc.2 s).grows (reachable_regInv hs)).trans (ih (.step hc.1 hc.2 hs))

/-- The chain, the validator and the mapping deactivated, the message confirmed: all stay. -/
theorem registrations_persist_setup :
    Reachable registrySetup ∧
      RegGrows (regKeys registrySetup) (regKeys (exec registrySetup
        [(⟨1, fun _ => true⟩, .deactivateChain ⟨0⟩ 1), (⟨1, fun _ => true⟩, .confirmMessage ⟨5⟩ 1),
          (⟨1, fun _ => true⟩, .deactivateValidator ⟨0⟩ ⟨5⟩ 1),
          (⟨1, fun _ => true⟩, .deactivateAssetMapping ⟨0⟩ ⟨7⟩ 1)])) :=
  ⟨registrySetup_reachable, registrations_persist registrySetup_reachable _⟩

/-! ## Who changes the registries -/

/-- The admin a registry call names. -/
def Call.registryAdmin : Call → Option Address
  | .registerBridge a _ _ _ | .updateBridgeStatus a _ _ | .registerChain a _ _ _
  | .deactivateChain a _ | .registerValidator a _ _ | .deactivateValidator a _ _
  | .registerAssetMapping a _ _ _ _ | .deactivateAssetMapping a _ _ => some a
  | _ => none

/-- A call that changes the registries is either `confirm_message`, adding one to the
    confirming validator's own tally, or a registry call whose admin holds the `Admin`
    role. -/
theorem registry_admin_only (host : Host) (c : Call) (s : State) :
    regKeys (c.apply host s) = regKeys s ∨
    (∃ v m b r, c = .confirmMessage v m ∧ s.validators b v = some r ∧
      regKeys (c.apply host s) = (regKeys s).setValidator b v
        { r with totalConfirmations := r.totalConfirmations + 1 }) ∨
    ∃ a, c.registryAdmin = some a ∧ getRole s.auth a = .admin := by
  rcases regStep_apply host c s with h | ⟨a, _, _, _, hr⟩ | ⟨a, _, _, _, hr⟩ | ⟨a, _, _, _, hr⟩ |
    ⟨a, _, _, hr⟩ | ⟨a, _, _, hr⟩ | ⟨a, _, _, _, hr⟩ | ⟨v, m, b, r, hv, h⟩ | ⟨a, _, _, _, _, hr⟩ |
    ⟨a, _, _, _, hr⟩
  · exact .inl h
  all_goals first
    | exact .inr (.inr ⟨a, rfl, hr⟩)
    | exact .inr (.inl ⟨v, m, b, r, rfl, hv, h⟩)

/-! ## Messages name registered chains -/

/-- Every stored message names a registered chain: its source, or its target when it leaves
    Stellar. -/
def MsgChainsRegistered (s : State) : Prop :=
  ∀ m msg, s.messages m = some msg → (s.chains msg.chainId).isSome

section Writes

variable {ε α β σ : Type} {s : σ}

/-- An entry point either writes nothing or writes what its body wrote. -/
theorem after_authorized {host : Host} {caller : Address} {k : Outcome ε β σ} :
    (authorized host caller k).after s = s ∨ (authorized host caller k).after s = k.after s := by
  unfold authorized
  split <;> simp

/-- A checked body writes only once its checks passed. -/
theorem after_checked {checks : Except ε α} {writes : α → Option (β × σ)} :
    (checked s checks writes).after s = s ∨ ∃ a, checks = .ok a := by
  unfold checked
  split
  · exact .inl rfl
  · exact .inr ⟨_, rfl⟩

end Writes

section MsgChains

variable {host : Host} {s s' : State}

/-- `send_message` writes only once it found its target chain. -/
theorem sendMessage_wrote (x : Address) (t ty p : Nat) :
    (sendMessage host x t ty p s).after s = s ∨ (s.chains t).isSome := by
  unfold sendMessage
  rcases after_authorized with h | h
  · exact .inl h
  rw [h]
  rcases after_checked with h | ⟨_, hc⟩
  · exact .inl h
  simp only [Except.bind_eq_ok, requireNotPaused_eq_ok, getConfig_eq_ok, getChain_eq_ok,
    Except.throw_eq, Except.pure_eq, Except.error_bind, Except.ok_bind,
    Except.ite_error_eq_ok] at hc
  obtain ⟨_, -, _, -, -, _, hch, -⟩ := hc
  simp [hch]

/-- `receive_message` writes only once it found its source chain. -/
theorem receiveMessage_wrote (x : Address) (c ty p n : Nat) :
    (receiveMessage host x c ty p n s).after s = s ∨ (s.chains c).isSome := by
  unfold receiveMessage
  rcases after_authorized with h | h
  · exact .inl h
  rw [h]
  rcases after_checked with h | ⟨_, hc⟩
  · exact .inl h
  simp only [Except.bind_eq_ok, requireNotPaused_eq_ok, getConfig_eq_ok, getChain_eq_ok,
    Except.throw_eq, Except.pure_eq, Except.error_bind, Except.ok_bind,
    Except.ite_error_eq_ok] at hc
  obtain ⟨_, -, _, -, -, -, _, hch, -⟩ := hc
  simp [hch]

/-- Writing message `n` keeps every message on a registered chain, if `n`'s chain is one. -/
theorem MsgChainsRegistered.update (hi : MsgChainsRegistered s)
    (hch : ∀ c, (s.chains c).isSome → (s'.chains c).isSome) {n : Nat} {msg : CrossChainMessage}
    (hmsgs : s'.messages = Function.update s.messages n (some msg))
    (hnew : (s.chains msg.chainId).isSome) : MsgChainsRegistered s' := by
  intro m msg' hm
  rw [hmsgs, Function.update_apply] at hm
  split_ifs at hm
  · cases hm
    exact hch _ hnew
  · exact hch _ (hi m msg' hm)

/-- A stored message written under the next id: its chain is registered, or the call
    wrote nothing and the message was already there. -/
theorem MsgChainsRegistered.store (hi : MsgChainsRegistered s)
    (hch : ∀ c, (s.chains c).isSome → (s'.chains c).isSome) {n : Nat} {msg : CrossChainMessage}
    (hmsgs : s'.messages = Function.update s.messages n (some msg))
    (hnew : s' = s ∨ (s.chains msg.chainId).isSome) : MsgChainsRegistered s' := by
  refine hi.update hch hmsgs (hnew.elim (fun h => hi n msg ?_) id)
  rw [← congrArg State.messages h, hmsgs, Function.update_same]

theorem MsgChainsRegistered.step (hs : Reachable s) (hi : MsgChainsRegistered s) (c : Call) :
    MsgChainsRegistered (c.apply host s) := by
  have hg := (regStep_apply host c s).grows (reachable_regInv hs)
  have hch : ∀ c', (s.chains c').isSome → ((c.apply host s).chains c').isSome :=
    fun c' h => isSome_of_map_eq (hg.chains c' h) h
  cases msgStep_apply host c s with
  | frame h =>
    have hmsgs : (c.apply host s).messages = s.messages := congrArg MsgKeys.messages h
    exact fun m msg hm => hch _ (hi m msg (hmsgs ▸ hm))
  | send x t ty p h =>
    exact hi.store hch (congrArg MsgKeys.messages h) (sendMessage_wrote x t ty p)
  | receive x c ty p n hc0 h =>
    refine hi.store hch (congrArg MsgKeys.messages h) ?_
    simpa [CrossChainMessage.chainId, hc0] using receiveMessage_wrote x c ty p n
  | expire m msg hm _ h => exact hi.update hch (congrArg MsgKeys.messages h) (hi m msg hm)
  | confirm _ m _ msg _ _ _ hm _ _ _ _ _ _ h =>
    exact hi.update hch (congrArg MsgKeys.messages h) (hi m msg hm)
  | execute _ m _ msg _ hm _ _ _ h => exact hi.update hch (congrArg MsgKeys.messages h) (hi m msg hm)

theorem reachable_msgChainsRegistered {s : State} (hs : Reachable s) : MsgChainsRegistered s := by
  induction hs with
  | empty => exact fun _ _ h => by cases h
  | step host c hs ih => exact ih.step hs c

/-- In every reachable state each stored message names a registered chain, whose bridge is
    registered. -/
theorem message_chains_registered {s : State} (hs : Reachable s) {m : Nat} {msg : CrossChainMessage}
    (hm : s.messages m = some msg) :
    ∃ chain, s.chains msg.chainId = some chain ∧ (s.bridges chain.bridgeId).isSome := by
  obtain ⟨chain, hc⟩ := Option.isSome_iff_exists.1 (reachable_msgChainsRegistered hs m msg hm)
  exact ⟨chain, hc, ((reachable_regInv hs).chain_wf _ chain hc).2.2⟩

theorem message_chains_registered_setup :
    Reachable registrySetup ∧ registrySetup.messages 1 = some ⟨1, 1, 0, 0, 0, ⟨2⟩, 0, 0, 0, 0, 0⟩ ∧
      ∃ chain, registrySetup.chains 1 = some chain ∧ (registrySetup.bridges chain.bridgeId).isSome :=
  ⟨registrySetup_reachable, rfl, message_chains_registered registrySetup_reachable (m := 1) rfl⟩

end MsgChains

/-! ## `confirm_message` always finds the chain -/

theorem pendingMessage_ne_chainNotSupported {s : State} {m : Nat} :
    pendingMessage s m ≠ .error .chainNotSupported := by
  intro h
  unfold pendingMessage requireNotPaused getConfig getMessage at h
  cases hp : isPaused s <;> cases hc : s.config <;> cases hm : s.messages m <;>
    simp [okOr, hp, hc, hm] at h
  split_ifs at h
  cases h

/-- The checks of `confirm_message` answer `ChainNotSupported` only for a message whose chain
    is not registered. -/
theorem confirmationChecks_chainNotSupported {s : State} {v : Address} {m : Nat}
    {msg : CrossChainMessage} (h : confirmationChecks s v m msg = .error .chainNotSupported) :
    s.chains msg.chainId = none := by
  unfold confirmationChecks getChain at h
  cases hc : s.chains msg.chainId with
  | none => rfl
  | some chain =>
    simp only [hc, okOr, Except.ok_bind] at h
    cases hv : s.validators chain.bridgeId v <;> simp [okOr, hv] at h
    split_ifs at h <;> cases h

/-- From a reachable state `confirm_message` never answers `ChainNotSupported`. -/
theorem confirm_finds_chain {s : State} (hs : Reachable s) (host : Host) (v : Address) (m : Nat)
    (s' : State) : confirmMessage host v m s ≠ .ret (.error .chainNotSupported) s' := by
  unfold confirmMessage authorized
  split
  · split
    · rename_i he
      rintro ⟨⟩
      exact pendingMessage_ne_chainNotSupported he
    · rename_i config msg hp
      split_ifs
      · simp
      split
      · simp
      · simp [markExpired]
      · unfold checked
        split
        · rename_i he
          rintro ⟨⟩
          obtain ⟨_, hm, -⟩ := pendingMessage_eq_ok hp
          have hc := reachable_msgChainsRegistered hs _ _ hm
          simp [confirmationChecks_chainNotSupported he] at hc
        · unfold trapping
          split <;> simp
  · simp

theorem confirm_finds_chain_setup :
    Reachable registrySetup ∧
      confirmMessage ⟨1, fun _ => true⟩ ⟨5⟩ 1 registrySetup ≠
        .ret (.error .chainNotSupported) registrySetup :=
  ⟨registrySetup_reachable, confirm_finds_chain registrySetup_reachable _ _ _ _⟩

end StellarInsured.CrossChain
