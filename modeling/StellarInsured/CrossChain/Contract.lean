import StellarInsured.Authorization.Library
import Mathlib.Data.Finset.Card
import Mathlib.Data.Finset.Image
import Mathlib.Data.Finmap

/-
  StellarInsured.CrossChain.Contract — `CrossChainContract`
  (contracts/cross_chain/src/lib.rs): bridges and chains, messages out (`send_message`)
  and in (`receive_message`), their confirmation by a bridge's validators and their
  execution, asset mappings, and cross-chain proposals with their votes.

  Storage is the authorization module's role keys and the contract's own keys, one
  field per key family. The `CONFIRMER` keys always hold `true`: they are a set. A
  payload or asset hash (`BytesN<32>`) is only compared, and a `Symbol` only stored.
  Counters and timestamps are `u32`/`u64`, vote tallies `i128`: their arithmetic traps
  on overflow (`addU`, `addI128`), which aborts the invocation.

  Each entry point follows its function's order of checks and writes: the caller's
  `require_auth` (`authorized`), then the checks, each `?` an early `Err` that writes
  nothing, then the writes on what the checks read (`checked`), computed without
  overflow or trapping (`trapping`). `confirm_message` and `execute_message` write on
  one `Err` path, marking an expired message, and keep their own bodies.
-/

namespace StellarInsured.CrossChain

open Authorization

/-- `MAX_PAGINATION_LIMIT`. -/
def maxPaginationLimit : Nat := 50

inductive ContractError where
  | unauthorized
  | paused
  | invalidInput
  | notFound
  | alreadyExists
  | invalidState
  | notInitialized
  | alreadyInitialized
  | invalidRole
  | roleNotFound
  | notTrustedContract
  | bridgeNotRegistered
  | chainNotSupported
  | messageAlreadyProcessed
  | insufficientConfirmations
  | assetNotMapped
  | messageExpired
  | invalidMessageFormat
  | bridgePaused
  | validatorAlreadyConfirmed
  | crossChainProposalNotFound
  | invalidChainId
  | nonceMismatch
  deriving DecidableEq, Repr

/-- `From<AuthError>`. -/
def ContractError.ofAuth : AuthError → ContractError
  | .unauthorized => .unauthorized
  | .invalidRole => .invalidRole
  | .roleNotFound => .roleNotFound
  | .notTrustedContract => .notTrustedContract

structure CrossChainConfig where
  admin : Address
  governanceContract : Address
  oracleContract : Address
  minConfirmations : Nat
  messageExpirySeconds : Nat
  deriving DecidableEq, Repr

structure BridgeRegistration where
  bridgeId : Nat
  address : Address
  name : String
  supportedChains : List Nat
  status : Nat
  registeredAt : Nat
  updatedAt : Nat
  deriving DecidableEq, Repr

structure ChainRecord where
  chainId : Nat
  name : String
  bridgeId : Nat
  isActive : Bool
  registeredAt : Nat
  deriving DecidableEq, Repr

structure CrossChainMessage where
  messageId : Nat
  sourceChainId : Nat
  targetChainId : Nat
  messageType : Nat
  payloadHash : Nat
  sender : Address
  nonce : Nat
  status : Nat
  confirmations : Nat
  createdAt : Nat
  updatedAt : Nat
  deriving DecidableEq, Repr

structure AssetMapping where
  stellarAsset : Address
  remoteChainId : Nat
  remoteAssetHash : Nat
  decimals : Nat
  isActive : Bool
  deriving DecidableEq, Repr

structure ValidatorRecord where
  validator : Address
  bridgeId : Nat
  isActive : Bool
  totalConfirmations : Nat
  deriving DecidableEq, Repr

structure CrossChainProposal where
  proposalId : Nat
  proposer : Address
  title : String
  proposalType : Nat
  chainId : Nat
  yesVotes : Int
  noVotes : Int
  totalVoters : Nat
  status : Nat
  votingEndsAt : Nat
  createdAt : Nat
  deriving DecidableEq, Repr

structure CrossChainStats where
  totalBridges : Nat
  totalChains : Nat
  totalMessages : Nat
  totalConfirmed : Nat
  totalExecuted : Nat
  totalValidators : Nat
  totalAssetMappings : Nat
  totalProposals : Nat
  deriving DecidableEq, Repr

structure PaginatedMessagesResult where
  messages : List CrossChainMessage
  totalCount : Nat
  deriving DecidableEq, Repr

/-- The contract's persistent storage. -/
structure State where
  auth : AuthStore
  paused : Option Bool
  config : Option CrossChainConfig
  bridges : Nat → Option BridgeRegistration
  bridgeList : Option (List Nat)
  bridgeCnt : Option Nat
  chains : Nat → Option ChainRecord
  chainList : Option (List Nat)
  messages : Nat → Option CrossChainMessage
  msgList : Option (List Nat)
  msgCnt : Option Nat
  nonces : Nat → Option Nat
  assetMaps : Address → Nat → Option AssetMapping
  assetList : Option (List (Address × Nat))
  validators : Nat → Address → Option ValidatorRecord
  valLists : Nat → Option (List Address)
  /-- The `(CONFIRMER, message_id, validator)` keys. -/
  confirmers : Finset (Nat × Address)
  proposals : Nat → Option CrossChainProposal
  propCnt : Option Nat
  propList : Option (List Nat)
  /-- The `(CC_VOTER, proposal_id, voter)` keys, with the vote's side. -/
  voters : Finmap fun _ : Nat × Address => Bool
  stats : Option CrossChainStats

/-! ## Helpers -/

def isPaused (s : State) : Bool := s.paused.getD false

def requireNotPaused (s : State) : Except ContractError Unit :=
  if isPaused s then .error .paused else .ok ()

@[simp] theorem requireNotPaused_eq_ok {s : State} {u : Unit} :
    requireNotPaused s = .ok u ↔ isPaused s = false := by
  unfold requireNotPaused; split <;> simp_all

def getConfig (s : State) : Except ContractError CrossChainConfig :=
  okOr s.config .notInitialized

@[simp] theorem getConfig_eq_ok {s : State} {c : CrossChainConfig} :
    getConfig s = .ok c ↔ s.config = some c :=
  okOr_eq_ok

/-- `require_admin(&env, &admin)?`, its `AuthError` converted. -/
def checkAdmin (s : State) (admin : Address) : Except ContractError Unit :=
  (requireAdmin s.auth admin).mapError .ofAuth

@[simp] theorem checkAdmin_eq_ok {s : State} {admin : Address} {u : Unit} :
    checkAdmin s admin = .ok u ↔ getRole s.auth admin = .admin := by
  unfold checkAdmin requireAdmin requireRole; split <;> simp_all [Except.mapError]

/-- `get_stats`, and what `update_stats_field` starts from. -/
def getStats (s : State) : CrossChainStats := s.stats.getD ⟨0, 0, 0, 0, 0, 0, 0, 0⟩

/-- `update_stats_field`; the closure's counter overflow (`none`) traps. -/
def updateStatsField (s : State) (updater : CrossChainStats → Option CrossChainStats) :
    Option State :=
  (updater (getStats s)).map fun st => { s with stats := some st }

def setMessage (s : State) (messageId : Nat) (msg : CrossChainMessage) : State :=
  { s with messages := Function.update s.messages messageId (some msg) }

def setBridge (s : State) (bridgeId : Nat) (bridge : BridgeRegistration) : State :=
  { s with bridges := Function.update s.bridges bridgeId (some bridge) }

def setChain (s : State) (chainId : Nat) (chain : ChainRecord) : State :=
  { s with chains := Function.update s.chains chainId (some chain) }

def setValidator (s : State) (bridgeId : Nat) (validator : Address) (record : ValidatorRecord) : State :=
  { s with
    validators := Function.update s.validators bridgeId
      (Function.update (s.validators bridgeId) validator (some record)) }

def setAssetMapping (s : State) (stellarAsset : Address) (remoteChainId : Nat) (mapping : AssetMapping) :
    State :=
  { s with
    assetMaps := Function.update s.assetMaps stellarAsset
      (Function.update (s.assetMaps stellarAsset) remoteChainId (some mapping)) }

def setProposal (s : State) (proposalId : Nat) (proposal : CrossChainProposal) : State :=
  { s with proposals := Function.update s.proposals proposalId (some proposal) }

/-! ## Infrastructure -/

/-- `initialize` (a keyword of Lean). -/
def init (host : Host) (admin governanceContract oracleContract : Address) (minConfirmations : Nat)
    (messageExpirySeconds : Nat) (s : State) : Outcome ContractError Unit State :=
  if (getAdmin s.auth).isSome then .ret (.error .alreadyInitialized) s
  else if minConfirmations = 0 then .ret (.error .invalidInput) s
  else if messageExpirySeconds = 0 then .ret (.error .invalidInput) s
  else authorized host admin <| .ret (.ok ()) { s with
    auth := initializeAdmin admin s.auth
    config := some ⟨admin, governanceContract, oracleContract, minConfirmations, messageExpirySeconds⟩ }

/-- `pause` and `unpause`: the admin sets the flag. -/
def setPausedBy (host : Host) (admin : Address) (paused : Bool) (s : State) :
    Outcome ContractError Unit State :=
  authorized host admin <| checked s (checkAdmin s admin) fun _ =>
    some ((), { s with paused := some paused })

def pause (host : Host) (admin : Address) : State → Outcome ContractError Unit State :=
  setPausedBy host admin true

def unpause (host : Host) (admin : Address) : State → Outcome ContractError Unit State :=
  setPausedBy host admin false

def getAdminAddress (s : State) : Except ContractError Address :=
  match getAdmin s.auth with
  | some a => .ok a
  | none => .error .notInitialized

/-- `grant_role` on the role keys: only `Admin` (0) and `Governance` (1) are granted. -/
def grantRoleKeys (host : Host) (admin account : Address) (roleId : Nat) (a : AuthStore) :
    Outcome ContractError Unit AuthStore :=
  if !host.authorizes admin then .abort
  else
    match requireAdmin a admin with
    | .error e => .ret (.error (.ofAuth e)) a
    | .ok () =>
      let role? : Option Role := match roleId with
        | 0 => some .admin
        | 1 => some .governance
        | _ => none
      match role? with
      | none => .ret (.error .invalidInput) a
      | some role =>
        match Authorization.grantRole admin account role a with
        | .ret (.error e) a' => .ret (.error (.ofAuth e)) a'
        | .ret (.ok ()) a' => .ret (.ok ()) a'
        | .abort => .abort

def grantRole (host : Host) (admin account : Address) (roleId : Nat) (s : State) :
    Outcome ContractError Unit State :=
  (grantRoleKeys host admin account roleId s.auth).mapState fun a => { s with auth := a }

/-! ## Bridges and chains -/

def registerBridge (host : Host) (admin address : Address) (name : String)
    (supportedChains : List Nat) (s : State) : Outcome ContractError Nat State :=
  authorized host admin <| checked s
    (do
      checkAdmin s admin
      requireNotPaused s
      let _ ← getConfig s
      if supportedChains.isEmpty then throw .invalidInput)
    fun _ => do
      let bridgeId ← addU 64 (s.bridgeCnt.getD 0) 1
      let s := { setBridge s bridgeId
          ⟨bridgeId, address, name, supportedChains, 0, host.timestamp, host.timestamp⟩ with
        bridgeCnt := some bridgeId
        bridgeList := some (s.bridgeList.getD [] ++ [bridgeId]) }
      let s ← updateStatsField s fun st =>
        (addU 32 st.totalBridges 1).map fun n => { st with totalBridges := n }
      return (bridgeId, s)

def getBridge (s : State) (bridgeId : Nat) : Except ContractError BridgeRegistration :=
  okOr (s.bridges bridgeId) .bridgeNotRegistered

@[simp] theorem getBridge_eq_ok {s : State} {bridgeId : Nat} {b : BridgeRegistration} :
    getBridge s bridgeId = .ok b ↔ s.bridges bridgeId = some b :=
  okOr_eq_ok

def updateBridgeStatus (host : Host) (admin : Address) (bridgeId newStatus : Nat) (s : State) :
    Outcome ContractError Unit State :=
  authorized host admin <| checked s
    (do
      checkAdmin s admin
      if newStatus > 3 then throw .invalidInput
      getBridge s bridgeId)
    fun bridge =>
      some ((), setBridge s bridgeId { bridge with status := newStatus, updatedAt := host.timestamp })

def getAllBridges (s : State) : List Nat := s.bridgeList.getD []

def registerChain (host : Host) (admin : Address) (chainId : Nat) (name : String) (bridgeId : Nat)
    (s : State) : Outcome ContractError Unit State :=
  authorized host admin <| checked s
    (do
      checkAdmin s admin
      requireNotPaused s
      if chainId = 0 then throw .invalidChainId
      let _ ← getBridge s bridgeId
      if (s.chains chainId).isSome then throw .alreadyExists)
    fun _ => do
      let s := { setChain s chainId ⟨chainId, name, bridgeId, true, host.timestamp⟩ with
        chainList := some (s.chainList.getD [] ++ [chainId]) }
      let s ← updateStatsField s fun st =>
        (addU 32 st.totalChains 1).map fun n => { st with totalChains := n }
      return ((), s)

def getChain (s : State) (chainId : Nat) : Except ContractError ChainRecord :=
  okOr (s.chains chainId) .chainNotSupported

@[simp] theorem getChain_eq_ok {s : State} {chainId : Nat} {c : ChainRecord} :
    getChain s chainId = .ok c ↔ s.chains chainId = some c :=
  okOr_eq_ok

def deactivateChain (host : Host) (admin : Address) (chainId : Nat) (s : State) :
    Outcome ContractError Unit State :=
  authorized host admin <| checked s
    (do
      checkAdmin s admin
      getChain s chainId)
    fun chain => some ((), setChain s chainId { chain with isActive := false })

def getSupportedChains (s : State) : List Nat := s.chainList.getD []

/-! ## Messages -/

/-- Store a new message under the next id, list it and count it (`get_next_message_id`,
    the `MESSAGE` and `MSG_LIST` writes, `total_messages += 1`). -/
def storeNewMessage (s : State) (messageId : Nat) (msg : CrossChainMessage) : Option State :=
  updateStatsField { setMessage s messageId msg with
      msgCnt := some messageId
      msgList := some (s.msgList.getD [] ++ [messageId]) }
    fun st => (addU 64 st.totalMessages 1).map fun n => { st with totalMessages := n }

def sendMessage (host : Host) (sender : Address) (targetChainId messageType payloadHash : Nat)
    (s : State) : Outcome ContractError Nat State :=
  authorized host sender <| checked s
    (do
      requireNotPaused s
      let _ ← getConfig s
      if messageType > 4 then throw .invalidMessageFormat
      let chain ← getChain s targetChainId
      if !chain.isActive then throw .chainNotSupported
      let bridge ← getBridge s chain.bridgeId
      if bridge.status ≠ 0 then throw .bridgePaused)
    fun _ => do
      let messageId ← addU 64 (s.msgCnt.getD 0) 1
      let nonce ← addU 64 ((s.nonces targetChainId).getD 0) 1
      let s' := { s with nonces := Function.update s.nonces targetChainId (some nonce) }
      let s' ← storeNewMessage s' messageId ⟨messageId, 0, targetChainId, messageType,
        payloadHash, sender, nonce, 0, 0, host.timestamp, host.timestamp⟩
      return (messageId, s')

def receiveMessage (host : Host) (relayer : Address) (sourceChainId messageType payloadHash nonce : Nat)
    (s : State) : Outcome ContractError Nat State :=
  authorized host relayer <| checked s
    (do
      requireNotPaused s
      let _ ← getConfig s
      if messageType > 4 then throw .invalidMessageFormat
      if sourceChainId = 0 then throw .invalidChainId
      let chain ← getChain s sourceChainId
      if !chain.isActive then throw .chainNotSupported)
    fun _ => do
      let messageId ← addU 64 (s.msgCnt.getD 0) 1
      let s' ← storeNewMessage s messageId ⟨messageId, sourceChainId, 0, messageType,
        payloadHash, relayer, nonce, 0, 0, host.timestamp, host.timestamp⟩
      return (messageId, s')

def getMessage (s : State) (messageId : Nat) : Except ContractError CrossChainMessage :=
  okOr (s.messages messageId) .notFound

@[simp] theorem getMessage_eq_ok {s : State} {messageId : Nat} {msg : CrossChainMessage} :
    getMessage s messageId = .ok msg ↔ s.messages messageId = some msg :=
  okOr_eq_ok

/-- `none`: `start_index + effective_limit` overflowed `u32`. The `unwrap` of
    `msg_list.get(i)` always succeeds, `i` being below the list's length. -/
def getMessagesPaginated (s : State) (startIndex limit : Nat) : Option PaginatedMessagesResult :=
  let effectiveLimit := if limit > maxPaginationLimit ∨ limit = 0 then maxPaginationLimit else limit
  let msgList := s.msgList.getD []
  let totalCount := msgList.length
  if startIndex ≥ totalCount then some ⟨[], totalCount⟩
  else do
    let stop ← addU 32 startIndex effectiveLimit
    let endIndex := min stop totalCount
    return ⟨(List.range' startIndex (endIndex - startIndex)).filterMap
      fun i => msgList[i]?.bind s.messages, totalCount⟩

/-! ## Validators, confirmation and execution -/

def registerValidator (host : Host) (admin validator : Address) (bridgeId : Nat) (s : State) :
    Outcome ContractError Unit State :=
  authorized host admin <| checked s
    (do
      checkAdmin s admin
      requireNotPaused s
      let _ ← getBridge s bridgeId
      if (s.validators bridgeId validator).isSome then throw .alreadyExists)
    fun _ => do
      let s := { setValidator s bridgeId validator ⟨validator, bridgeId, true, 0⟩ with
        valLists := Function.update s.valLists bridgeId
          (some ((s.valLists bridgeId).getD [] ++ [validator])) }
      let s ← updateStatsField s fun st =>
        (addU 32 st.totalValidators 1).map fun n => { st with totalValidators := n }
      return ((), s)

def deactivateValidator (host : Host) (admin validator : Address) (bridgeId : Nat) (s : State) :
    Outcome ContractError Unit State :=
  authorized host admin <| checked s
    (do
      checkAdmin s admin
      okOr (s.validators bridgeId validator) .notFound)
    fun record => some ((), setValidator s bridgeId validator { record with isActive := false })

/-- The chain whose bridge validates a message: its source, or its target when it
    leaves Stellar. -/
def CrossChainMessage.chainId (msg : CrossChainMessage) : Nat :=
  if msg.sourceChainId = 0 then msg.targetChainId else msg.sourceChainId

/-- The checks of `confirm_message` after the expiry test: the chain of the message,
    and the validator's record for its bridge, active and not yet confirming. -/
def confirmationChecks (s : State) (validator : Address) (messageId : Nat) (msg : CrossChainMessage) :
    Except ContractError (ChainRecord × ValidatorRecord) := do
  let chain ← getChain s msg.chainId
  let valRecord ← okOr (s.validators chain.bridgeId validator) .unauthorized
  if !valRecord.isActive then throw .unauthorized
  if (messageId, validator) ∈ s.confirmers then throw .validatorAlreadyConfirmed
  return (chain, valRecord)

/-- `total_confirmed += 1` once a message reaches the threshold. -/
def countConfirmed (config : CrossChainConfig) (confirmations : Nat) (s : State) : Option State :=
  if confirmations ≥ config.minConfirmations then
    updateStatsField s fun st => (addU 64 st.totalConfirmed 1).map fun n => { st with totalConfirmed := n }
  else some s

/-- The writes of `confirm_message`: the `CONFIRMER` key, the message, the confirmed
    count when the threshold is reached, and the validator's tally. -/
def recordConfirmation (host : Host) (config : CrossChainConfig) (validator : Address)
    (messageId : Nat) (msg : CrossChainMessage) (chain : ChainRecord) (valRecord : ValidatorRecord)
    (s : State) : Option (Nat × State) := do
  let confirmations ← addU 32 msg.confirmations 1
  let s ← countConfirmed config confirmations
    { s with confirmers := insert (messageId, validator) s.confirmers }
  let s := setMessage s messageId { msg with
    confirmations := confirmations
    updatedAt := host.timestamp
    status := if confirmations ≥ config.minConfirmations then 1 else msg.status }
  let total ← addU 64 valRecord.totalConfirmations 1
  let s := setValidator s chain.bridgeId validator { valRecord with totalConfirmations := total }
  return (confirmations, s)

/-- The expiry test of `confirm_message` and `execute_message`: `none` is the overflow
    of `msg.created_at + config.message_expiry_seconds`, `some true` an expired message. -/
def expired (now : Nat) (config : CrossChainConfig) (msg : CrossChainMessage) : Option Bool :=
  (addU 64 msg.createdAt config.messageExpirySeconds).map fun deadline => now > deadline

/-- Mark a message expired (`status = 4`) and return `MessageExpired`. -/
def markExpired {α : Type} (host : Host) (messageId : Nat) (msg : CrossChainMessage) (s : State) :
    Outcome ContractError α State :=
  .ret (.error .messageExpired) (setMessage s messageId { msg with status := 4, updatedAt := host.timestamp })

/-- The checks `confirm_message` and `execute_message` share before the expiry test:
    the config and the message, not executed. -/
def pendingMessage (s : State) (messageId : Nat) : Except ContractError (CrossChainConfig × CrossChainMessage) := do
  requireNotPaused s
  let config ← getConfig s
  let msg ← getMessage s messageId
  if msg.status = 2 then throw .messageAlreadyProcessed
  return (config, msg)

def confirmMessage (host : Host) (validator : Address) (messageId : Nat) (s : State) :
    Outcome ContractError Nat State :=
  authorized host validator <|
    match pendingMessage s messageId with
    | .error e => .ret (.error e) s
    | .ok (config, msg) =>
      if msg.status = 4 then .ret (.error .messageExpired) s
      else
        match expired host.timestamp config msg with
        | none => .abort
        | some true => markExpired host messageId msg s
        | some false =>
          checked s (confirmationChecks s validator messageId msg) fun (chain, valRecord) =>
            recordConfirmation host config validator messageId msg chain valRecord s

def executeMessage (host : Host) (executor : Address) (messageId : Nat) (s : State) :
    Outcome ContractError Unit State :=
  authorized host executor <|
    match pendingMessage s messageId with
    | .error e => .ret (.error e) s
    | .ok (config, msg) =>
      match expired host.timestamp config msg with
      | none => .abort
      | some true => markExpired host messageId msg s
      | some false =>
        checked s
          (if msg.confirmations < config.minConfirmations then throw .insufficientConfirmations
            else pure ())
          fun _ => do
            let s := setMessage s messageId { msg with status := 2, updatedAt := host.timestamp }
            let s ← updateStatsField s fun st =>
              (addU 64 st.totalExecuted 1).map fun n => { st with totalExecuted := n }
            return ((), s)

/-! ## Asset mappings -/

def registerAssetMapping (host : Host) (admin stellarAsset : Address)
    (remoteChainId remoteAssetHash decimals : Nat) (s : State) : Outcome ContractError Unit State :=
  authorized host admin <| checked s
    (do
      checkAdmin s admin
      requireNotPaused s
      let _ ← getChain s remoteChainId
      if (s.assetMaps stellarAsset remoteChainId).isSome then throw .alreadyExists)
    fun _ => do
      let s := { setAssetMapping s stellarAsset remoteChainId
          ⟨stellarAsset, remoteChainId, remoteAssetHash, decimals, true⟩ with
        assetList := some (s.assetList.getD [] ++ [(stellarAsset, remoteChainId)]) }
      let s ← updateStatsField s fun st =>
        (addU 32 st.totalAssetMappings 1).map fun n => { st with totalAssetMappings := n }
      return ((), s)

def getAssetMapping (s : State) (stellarAsset : Address) (remoteChainId : Nat) :
    Except ContractError AssetMapping :=
  okOr (s.assetMaps stellarAsset remoteChainId) .assetNotMapped

@[simp] theorem getAssetMapping_eq_ok {s : State} {a : Address} {c : Nat} {m : AssetMapping} :
    getAssetMapping s a c = .ok m ↔ s.assetMaps a c = some m :=
  okOr_eq_ok

def deactivateAssetMapping (host : Host) (admin stellarAsset : Address) (remoteChainId : Nat)
    (s : State) : Outcome ContractError Unit State :=
  authorized host admin <| checked s
    (do
      checkAdmin s admin
      getAssetMapping s stellarAsset remoteChainId)
    fun mapping =>
      some ((), setAssetMapping s stellarAsset remoteChainId { mapping with isActive := false })

def verifyAssetMapping (s : State) (stellarAsset : Address) (remoteChainId remoteAssetHash : Nat) :
    Except ContractError Bool :=
  (getAssetMapping s stellarAsset remoteChainId).map fun m =>
    m.isActive && m.remoteAssetHash = remoteAssetHash

/-! ## Cross-chain governance -/

def createCrossChainProposal (host : Host) (proposer : Address) (title : String)
    (proposalType chainId : Nat) (s : State) : Outcome ContractError Nat State :=
  authorized host proposer <| checked s
    (do
      requireNotPaused s
      let _ ← getConfig s
      if proposalType > 4 then throw .invalidInput)
    fun _ => do
      let votingEndsAt ← addU 64 host.timestamp (14 * 86400)
      let proposalId ← addU 64 (s.propCnt.getD 0) 1
      let s := { setProposal s proposalId
          ⟨proposalId, proposer, title, proposalType, chainId, 0, 0, 0, 0, votingEndsAt, host.timestamp⟩ with
        propCnt := some proposalId
        propList := some (s.propList.getD [] ++ [proposalId]) }
      let s ← updateStatsField s fun st =>
        (addU 32 st.totalProposals 1).map fun n => { st with totalProposals := n }
      return (proposalId, s)

def getCrossChainProposal (s : State) (proposalId : Nat) : Except ContractError CrossChainProposal :=
  okOr (s.proposals proposalId) .crossChainProposalNotFound

@[simp] theorem getCrossChainProposal_eq_ok {s : State} {p : Nat} {proposal : CrossChainProposal} :
    getCrossChainProposal s p = .ok proposal ↔ s.proposals p = some proposal :=
  okOr_eq_ok

/-- `vote_weight` added to the proposal's yes or no tally; `none` is the `i128` overflow. -/
def tally (proposal : CrossChainProposal) (voteWeight : Int) (isYes : Bool) :
    Option CrossChainProposal :=
  if isYes then (addI128 proposal.yesVotes voteWeight).map fun v => { proposal with yesVotes := v }
  else (addI128 proposal.noVotes voteWeight).map fun v => { proposal with noVotes := v }

def voteCrossChainProposal (host : Host) (voter : Address) (proposalId : Nat) (voteWeight : Int)
    (isYes : Bool) (s : State) : Outcome ContractError Unit State :=
  authorized host voter <| checked s
    (do
      requireNotPaused s
      if voteWeight ≤ 0 then throw .invalidInput
      let proposal ← getCrossChainProposal s proposalId
      if proposal.status ≠ 0 then throw .invalidState
      if host.timestamp ≥ proposal.votingEndsAt then throw .invalidState
      if (proposalId, voter) ∈ s.voters then throw .alreadyExists
      return proposal)
    fun proposal => do
      let proposal ← tally proposal voteWeight isYes
      let totalVoters ← addU 32 proposal.totalVoters 1
      return ((), { setProposal s proposalId { proposal with totalVoters := totalVoters } with
        voters := s.voters.insert (proposalId, voter) isYes })

/-- `(yes_votes * 100) / total_votes` on `i128`: `none` is the multiplication's overflow
    or `i128::MIN / -1`. -/
def yesPercent (yesVotes totalVotes : Int) : Option Int :=
  let scaled := yesVotes * 100
  if fitsI128 scaled ∧ fitsI128 (scaled.tdiv totalVotes) then some (scaled.tdiv totalVotes) else none

/-- The status `finalize_cross_chain_proposal` gives: `Expired` (4) with no votes,
    else `Passed` (1) above 50% yes, else `Rejected` (2); `none` is an overflow. -/
def finalStatus (proposal : CrossChainProposal) : Option Nat := do
  let totalVotes ← addI128 proposal.yesVotes proposal.noVotes
  if totalVotes = 0 then some 4
  else (yesPercent proposal.yesVotes totalVotes).map fun pct => if pct > 50 then 1 else 2

def finalizeCrossChainProposal (host : Host) (proposalId : Nat) (s : State) :
    Outcome ContractError Nat State :=
  checked s
    (do
      let proposal ← getCrossChainProposal s proposalId
      if proposal.status ≠ 0 then throw .invalidState
      if host.timestamp < proposal.votingEndsAt then throw .invalidState
      return proposal)
    fun proposal => do
      let newStatus ← finalStatus proposal
      return (newStatus, setProposal s proposalId { proposal with status := newStatus })

def executeCrossChainProposal (host : Host) (executor : Address) (proposalId : Nat) (s : State) :
    Outcome ContractError Unit State :=
  authorized host executor <| checked s
    (do
      requireNotPaused s
      let proposal ← getCrossChainProposal s proposalId
      if proposal.status ≠ 1 then throw .invalidState
      return proposal)
    fun proposal => some ((), setProposal s proposalId { proposal with status := 3 })

end StellarInsured.CrossChain
