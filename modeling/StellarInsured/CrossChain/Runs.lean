import StellarInsured.CrossChain.Contract

/-
  StellarInsured.CrossChain.Runs — runs of `CrossChainContract`: every entry point that
  writes storage (`Call`), each made at its own ledger time by any caller, from a
  freshly deployed contract (`Reachable`). The getters write nothing and are left out
  of the runs.
-/

namespace StellarInsured.CrossChain

inductive Call where
  | init (admin governanceContract oracleContract : Address) (minConfirmations messageExpirySeconds : Nat)
  | pause (admin : Address)
  | unpause (admin : Address)
  | grantRole (admin account : Address) (roleId : Nat)
  | registerBridge (admin address : Address) (name : String) (supportedChains : List Nat)
  | updateBridgeStatus (admin : Address) (bridgeId newStatus : Nat)
  | registerChain (admin : Address) (chainId : Nat) (name : String) (bridgeId : Nat)
  | deactivateChain (admin : Address) (chainId : Nat)
  | sendMessage (sender : Address) (targetChainId messageType payloadHash : Nat)
  | receiveMessage (relayer : Address) (sourceChainId messageType payloadHash nonce : Nat)
  | registerValidator (admin validator : Address) (bridgeId : Nat)
  | deactivateValidator (admin validator : Address) (bridgeId : Nat)
  | confirmMessage (validator : Address) (messageId : Nat)
  | executeMessage (executor : Address) (messageId : Nat)
  | registerAssetMapping (admin stellarAsset : Address) (remoteChainId remoteAssetHash decimals : Nat)
  | deactivateAssetMapping (admin stellarAsset : Address) (remoteChainId : Nat)
  | createCrossChainProposal (proposer : Address) (title : String) (proposalType chainId : Nat)
  | voteCrossChainProposal (voter : Address) (proposalId : Nat) (voteWeight : Int) (isYes : Bool)
  | finalizeCrossChainProposal (proposalId : Nat)
  | executeCrossChainProposal (executor : Address) (proposalId : Nat)
  deriving DecidableEq, Repr

/-- The storage a call leaves, run from `s`. -/
def Call.apply (host : Host) : Call → State → State
  | .init a g o n e, s => (CrossChain.init host a g o n e s).after s
  | .pause a, s => (CrossChain.pause host a s).after s
  | .unpause a, s => (CrossChain.unpause host a s).after s
  | .grantRole a x r, s => (CrossChain.grantRole host a x r s).after s
  | .registerBridge a x n cs, s => (CrossChain.registerBridge host a x n cs s).after s
  | .updateBridgeStatus a b st, s => (CrossChain.updateBridgeStatus host a b st s).after s
  | .registerChain a c n b, s => (CrossChain.registerChain host a c n b s).after s
  | .deactivateChain a c, s => (CrossChain.deactivateChain host a c s).after s
  | .sendMessage x t ty p, s => (CrossChain.sendMessage host x t ty p s).after s
  | .receiveMessage x c ty p n, s => (CrossChain.receiveMessage host x c ty p n s).after s
  | .registerValidator a v b, s => (CrossChain.registerValidator host a v b s).after s
  | .deactivateValidator a v b, s => (CrossChain.deactivateValidator host a v b s).after s
  | .confirmMessage v m, s => (CrossChain.confirmMessage host v m s).after s
  | .executeMessage x m, s => (CrossChain.executeMessage host x m s).after s
  | .registerAssetMapping a x c h d, s => (CrossChain.registerAssetMapping host a x c h d s).after s
  | .deactivateAssetMapping a x c, s => (CrossChain.deactivateAssetMapping host a x c s).after s
  | .createCrossChainProposal x t ty c, s => (CrossChain.createCrossChainProposal host x t ty c s).after s
  | .voteCrossChainProposal x p w y, s => (CrossChain.voteCrossChainProposal host x p w y s).after s
  | .finalizeCrossChainProposal p, s => (CrossChain.finalizeCrossChainProposal host p s).after s
  | .executeCrossChainProposal x p, s => (CrossChain.executeCrossChainProposal host x p s).after s

/-- A freshly deployed contract: no key is set. -/
def State.empty : State :=
  ⟨Authorization.AuthStore.empty, none, none, fun _ => none, none, none, fun _ => none, none, fun _ => none, none,
    none, fun _ => none, fun _ _ => none, none, fun _ _ => none, fun _ => none, ∅, fun _ => none,
    none, none, ∅, none⟩

/-- The states a deployed contract reaches, each call at its own ledger time. -/
inductive Reachable : State → Prop
  | empty : Reachable State.empty
  | step {s : State} (host : Host) (c : Call) : Reachable s → Reachable (c.apply host s)

/-- The state a list of calls leaves, run in order from `s`. -/
def exec : State → List (Host × Call) → State
  | s, [] => s
  | s, (host, c) :: cs => exec (c.apply host s) cs

theorem reachable_exec {s : State} (hs : Reachable s) (cs : List (Host × Call)) :
    Reachable (exec s cs) := by
  induction cs generalizing s with
  | nil => exact hs
  | cons hc cs ih => exact ih (.step hc.1 hc.2 hs)

end StellarInsured.CrossChain
