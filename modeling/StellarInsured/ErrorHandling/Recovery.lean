import StellarInsured.ErrorHandling.Types

/-
  StellarInsured.ErrorHandling.Recovery — `RecoveryContract` (error_handling/src/recovery.rs)
  over its registry (registry.rs): the admin, the pause flag, the authorized reporters,
  and the error log, an `ErrorCount` and one `Error(id)` key per entry. The TTL extensions
  and the published events are left out.

  What a call does to the log is said once, in `LogStep`: nothing; a new entry under
  `ErrorCount + 1`, the count moved to it (`report_error`); or a stored entry rewritten
  under its own id (`resolve_error`, `escalate_error`) (`logStep_apply`).

  Proved, over every reachable state (`error_log_law`):
  - an entry is stored under `Error(i)` exactly for `1 ≤ i ≤ ErrorCount`, with
    `entry_id = i`, and no call lowers `ErrorCount`;
  - a successful `report_error` returns `ErrorCount + 1`, an id with no entry yet, and
    writes no other entry;
  - a report rejected as unauthorized or paused returns that error and writes nothing;
  - `resolve_error` and `escalate_error` change only the status, and the action, of the
    entry they name, and write nothing when there is none.
  And `pending_errors`: in every state a run of fewer than `u64::MAX` calls reaches, for
  a caller it lets in, `get_pending_errors` returns the first `min(limit, 50)` pending
  entries among the ids `from_id..=ErrorCount`, in increasing `entry_id`, and writes
  nothing. Each call logs at most one entry (`errorCount_exec_le`), so the count stays
  below `u64::MAX`, which the loop's `u64` `id += 1` needs (`pending_scan_overflows`:
  after `u64::MAX` reports, more than any ledger runs, a scan from `u64::MAX` traps).
  And over every run from a reachable state (`entries_persist`): no logged entry is removed
  or moved, none of the fields `report_error` wrote changes but the status, and the action
  changes only to `ManualInterventionRequired`.
  And for every call from every state (`recovery_writes_guarded`), which call may write
  which key, and whose signature it needs. As built, `resolve_error` lets in any authorized
  reporter, not only the one that logged the entry: any of them that signs resolves any
  stored entry.
-/

namespace StellarInsured.ErrorHandling

/-- One invocation's view of the ledger: the host, and the sequence number the log
    records. -/
structure Ledger extends Host where
  sequence : Nat

/-- The contract's storage, one field per `DataKey`. -/
structure State where
  admin : Option Address
  paused : Option Bool
  errorCount : Option Nat
  errors : Nat → Option ErrorEntry
  reporters : Address → Option Bool

namespace Registry

def setAdmin (s : State) (admin : Address) : State := { s with admin := some admin }

def hasAdmin (s : State) : Bool := s.admin.isSome

def setPaused (s : State) (paused : Bool) : State := { s with paused := some paused }

def isPaused (s : State) : Bool := s.paused.getD false

def setAuthorizedReporter (s : State) (reporter : Address) (authorized : Bool) : State :=
  { s with reporters := Function.update s.reporters reporter (some authorized) }

def isAuthorizedReporter (s : State) (reporter : Address) : Bool := (s.reporters reporter).getD false

/-- `next_error_id`: the count plus one, stored and returned; the `u64` addition traps on
    overflow. -/
def nextErrorId (s : State) : Option (Nat × State) :=
  (addU 64 (s.errorCount.getD 0) 1).map fun count => (count, { s with errorCount := some count })

def getErrorCount (s : State) : Nat := s.errorCount.getD 0

/-- `save_error`: the entry is stored under its own `entry_id`. -/
def saveError (s : State) (entry : ErrorEntry) : State :=
  { s with errors := Function.update s.errors entry.entryId (some entry) }

def getError (s : State) (id : Nat) : Option ErrorEntry := s.errors id

end Registry

namespace RecoveryContract

open Registry

/-- `registry::get_admin(&env).require_auth()`: the stored admin signs; with no admin stored
    the `unwrap` aborts. -/
def asAdmin {α : Type} (host : Host) (s : State) (k : Outcome InsuranceError α State) :
    Outcome InsuranceError α State :=
  match s.admin with
  | none => .abort
  | some admin => authorized host admin k

/-- `initialize` (a keyword of Lean). -/
def init (host : Host) (admin : Address) (s : State) : Outcome InsuranceError Unit State :=
  if hasAdmin s then .ret (.error .alreadyInitialized) s
  else authorized host admin <| .ret (.ok ()) (setAdmin s admin)

def authorizeReporter (host : Host) (reporter : Address) (s : State) :
    Outcome InsuranceError Unit State :=
  asAdmin host s <| .ret (.ok ()) (setAuthorizedReporter s reporter true)

def revokeReporter (host : Host) (reporter : Address) (s : State) :
    Outcome InsuranceError Unit State :=
  asAdmin host s <| .ret (.ok ()) (setAuthorizedReporter s reporter false)

def deriveSeverity : InsuranceError → ErrorSeverity
  | .arithmeticOverflow | .contractPaused | .complianceViolation => .critical
  | .unauthorized | .claimExceedsLimit | .premiumPaymentOverdue | .externalCallFailed => .error
  | .oracleDataStale | .kycExpired | .storageExpired => .warning
  | _ => .info

def deriveRecoveryAction (error : InsuranceError) : RecoveryAction :=
  if error.isRetryable then .autoRetried
  else if error.requiresManualAction then .manualInterventionRequired
  else
    match error with
    | .arithmeticOverflow => .stateRolledBack
    | .contractPaused => .contractPaused
    | .paymentInvalidAmount | .claimExceedsLimit => .fundsEscrowed
    | _ => .none

/-- The entry `report_error` logs under `entryId`. -/
def reportedEntry (ledger : Ledger) (entryId : Nat) (sourceContract caller : Address)
    (error : InsuranceError) (subjectId : Option Nat) : ErrorEntry :=
  ⟨entryId, error.code, deriveSeverity error, sourceContract, caller, ledger.sequence,
    ledger.timestamp, error.message, error.hint, deriveRecoveryAction error, .pending, subjectId⟩

def reportError (ledger : Ledger) (sourceContract caller : Address) (error : InsuranceError)
    (subjectId : Option Nat) (s : State) : Outcome InsuranceError Nat State :=
  authorized ledger.toHost sourceContract <|
    if !isAuthorizedReporter s sourceContract then .ret (.error .unauthorized) s
    else if isPaused s then .ret (.error .contractPaused) s
    else trapping <| (nextErrorId s).map fun (entryId, s) =>
      (entryId, saveError s (reportedEntry ledger entryId sourceContract caller error subjectId))

def resolveError (host : Host) (caller : Address) (entryId : Nat) (s : State) :
    Outcome InsuranceError Unit State :=
  authorized host caller <|
    match s.admin with
    | none => .abort
    | some admin =>
      if caller ≠ admin ∧ isAuthorizedReporter s caller = false then .ret (.error .unauthorized) s
      else
        match getError s entryId with
        | none => .ret (.error .recordNotFound) s
        | some entry => .ret (.ok ()) (saveError s { entry with recoveryStatus := .resolved })

def escalateError (host : Host) (entryId : Nat) (s : State) : Outcome InsuranceError Unit State :=
  asAdmin host s <|
    match getError s entryId with
    | none => .ret (.error .recordNotFound) s
    | some entry => .ret (.ok ()) (saveError s { entry with
        recoveryAction := .manualInterventionRequired
        recoveryStatus := .escalatedToOperator })

def pause (host : Host) (s : State) : Outcome InsuranceError Unit State :=
  asAdmin host s <| .ret (.ok ()) (setPaused s true)

def resume (host : Host) (s : State) : Outcome InsuranceError Unit State :=
  asAdmin host s <| .ret (.ok ()) (setPaused s false)

/-! ## Queries -/

def getErrorView (s : State) (entryId : Nat) : Except InsuranceError ErrorEntry :=
  okOr (getError s entryId) .recordNotFound

/-- The loop of `get_pending_errors` over the ids from `id`, `fuel` of them left up to the
    count, with `found` pending entries found so far; `none` when `id += 1` passes
    `u64::MAX`. `found` stays below `limit`, at most 50, and cannot overflow its `u32`. -/
def collectPending (s : State) (limit : Nat) : (fuel id found : Nat) → Option (List ErrorEntry)
  | 0, _, _ => some []
  | fuel + 1, id, found =>
    if found < limit then
      match getError s id with
      | some entry =>
        if entry.recoveryStatus = .pending then
          (addU 64 id 1).bind fun id => (collectPending s limit fuel id (found + 1)).map (entry :: ·)
        else (addU 64 id 1).bind fun id => collectPending s limit fuel id found
      | none => (addU 64 id 1).bind fun id => collectPending s limit fuel id found
    else some []

def getPendingErrors (host : Host) (caller : Address) (fromId limit : Nat) (s : State) :
    Outcome InsuranceError (List ErrorEntry) State :=
  authorized host caller <|
    match s.admin with
    | none => .abort
    | some admin =>
      if caller ≠ admin ∧ isAuthorizedReporter s caller = false then .ret (.error .unauthorized) s
      else
        let limit := min limit 50
        let total := getErrorCount s
        trapping <| (collectPending s limit (total + 1 - fromId) fromId 0).map fun results =>
          (results, s)

end RecoveryContract

/-! ## Runs -/

open Registry RecoveryContract

/-- The entry points that write storage. -/
inductive Call where
  | init (admin : Address)
  | authorizeReporter (reporter : Address)
  | revokeReporter (reporter : Address)
  | reportError (sourceContract caller : Address) (error : InsuranceError) (subjectId : Option Nat)
  | resolveError (caller : Address) (entryId : Nat)
  | escalateError (entryId : Nat)
  | pause
  | resume
  deriving DecidableEq, Repr

/-- The storage a call leaves, run from `s`. -/
def Call.apply (ledger : Ledger) : Call → State → State
  | .init a, s => (RecoveryContract.init ledger.toHost a s).after s
  | .authorizeReporter r, s => (RecoveryContract.authorizeReporter ledger.toHost r s).after s
  | .revokeReporter r, s => (RecoveryContract.revokeReporter ledger.toHost r s).after s
  | .reportError src c e sub, s => (RecoveryContract.reportError ledger src c e sub s).after s
  | .resolveError c id, s => (RecoveryContract.resolveError ledger.toHost c id s).after s
  | .escalateError id, s => (RecoveryContract.escalateError ledger.toHost id s).after s
  | .pause, s => (RecoveryContract.pause ledger.toHost s).after s
  | .resume, s => (RecoveryContract.resume ledger.toHost s).after s

/-- A freshly deployed contract: no key is set. -/
def State.empty : State := ⟨none, none, none, fun _ => none, fun _ => none⟩

inductive Reachable : State → Prop
  | empty : Reachable State.empty
  | step {s : State} (ledger : Ledger) (c : Call) : Reachable s → Reachable (c.apply ledger s)

/-- The state a list of calls leaves, run in order from `s`. -/
def exec : State → List (Ledger × Call) → State
  | s, [] => s
  | s, (ledger, c) :: cs => exec (c.apply ledger s) cs

theorem reachable_exec {s : State} (hs : Reachable s) (cs : List (Ledger × Call)) :
    Reachable (exec s cs) := by
  induction cs generalizing s with
  | nil => exact hs
  | cons hc cs ih => exact ih (.step hc.1 hc.2 hs)

/-! ## What a call does to the log -/

/-- What one call can do to the error log, guards included. -/
inductive LogStep (s : State) : State → Prop
  /-- The count and the entries as they were. -/
  | keep {s' : State} : s'.errorCount = s.errorCount → s'.errors = s.errors → LogStep s s'
  /-- A new entry under the next id, the count moved to it. -/
  | report {s' : State} (entry : ErrorEntry) : entry.entryId = getErrorCount s + 1 →
      s'.errorCount = some entry.entryId →
      s'.errors = Function.update s.errors entry.entryId (some entry) → LogStep s s'
  /-- A stored entry rewritten under its own id, which it keeps. -/
  | rewrite {s' : State} (id : Nat) (entry entry' : ErrorEntry) : s.errors id = some entry →
      entry'.entryId = entry.entryId → s'.errorCount = s.errorCount →
      s'.errors = Function.update s.errors entry.entryId (some entry') → LogStep s s'

section Steps

variable {host : Host} {s : State}

theorem LogStep.of_authorized {α : Type} {caller : Address} {k : Outcome InsuranceError α State}
    (h : LogStep s (k.after s)) : LogStep s ((authorized host caller k).after s) := by
  unfold authorized
  split
  · exact h
  · exact .keep rfl rfl

theorem LogStep.of_asAdmin {α : Type} {k : Outcome InsuranceError α State}
    (h : LogStep s (k.after s)) : LogStep s ((asAdmin host s k).after s) := by
  unfold asAdmin
  split
  · exact .keep rfl rfl
  · exact .of_authorized h

theorem nextErrorId_eq_some {id : Nat} {s₁ : State} (h : nextErrorId s = some (id, s₁)) :
    id = getErrorCount s + 1 ∧ s₁ = { s with errorCount := some id } := by
  obtain ⟨count, hc, h⟩ := Option.map_eq_some'.1 h
  obtain ⟨-, rfl⟩ := addU_eq_some.1 hc
  cases h
  exact ⟨rfl, rfl⟩

theorem reportError_logStep (ledger : Ledger) (src caller : Address) (error : InsuranceError)
    (subjectId : Option Nat) :
    LogStep s ((reportError ledger src caller error subjectId s).after s) := by
  refine .of_authorized ?_
  split_ifs
  · exact .keep rfl rfl
  · exact .keep rfl rfl
  · cases h : nextErrorId s with
    | none => exact .keep rfl rfl
    | some p =>
      obtain ⟨id, s₁⟩ := p
      obtain ⟨hid, rfl⟩ := nextErrorId_eq_some h
      exact .report (reportedEntry ledger id src caller error subjectId) hid rfl rfl

theorem resolveError_logStep (caller : Address) (id : Nat) :
    LogStep s ((resolveError host caller id s).after s) := by
  refine .of_authorized ?_
  split
  · exact .keep rfl rfl
  · split_ifs
    · exact .keep rfl rfl
    · unfold getError
      split
      · exact .keep rfl rfl
      · rename_i entry hentry
        refine .rewrite id entry _ hentry ?_ rfl rfl
        rfl

theorem escalateError_logStep (id : Nat) : LogStep s ((escalateError host id s).after s) := by
  refine .of_asAdmin ?_
  unfold getError
  split
  · exact .keep rfl rfl
  · rename_i entry hentry
    refine .rewrite id entry _ hentry ?_ rfl rfl
    rfl

/-- Every call steps as `LogStep` says. -/
theorem logStep_apply (ledger : Ledger) (c : Call) (s : State) : LogStep s (c.apply ledger s) := by
  cases c with
  | init admin =>
    show LogStep s ((RecoveryContract.init ledger.toHost admin s).after s)
    unfold RecoveryContract.init
    split_ifs
    · exact .keep rfl rfl
    · exact .of_authorized (.keep rfl rfl)
  | authorizeReporter | revokeReporter | pause | resume => exact .of_asAdmin (.keep rfl rfl)
  | reportError src caller error subjectId => exact reportError_logStep ledger src caller error subjectId
  | resolveError caller id => exact resolveError_logStep caller id
  | escalateError id => exact escalateError_logStep id

end Steps

/-! ## The log over every run -/

/-- Entries are stored exactly under `1, …, ErrorCount`, each under its own id. -/
structure LogInv (s : State) : Prop where
  stored : ∀ i, (s.errors i).isSome ↔ 1 ≤ i ∧ i ≤ getErrorCount s
  entry_id : ∀ i e, s.errors i = some e → e.entryId = i

theorem LogStep.count_le {s s' : State} (h : LogStep s s') : getErrorCount s ≤ getErrorCount s' := by
  cases h with
  | keep hc => simp [getErrorCount, hc]
  | report _ hid hc => simp [getErrorCount, hc, hid]
  | rewrite _ _ _ _ _ hc => simp [getErrorCount, hc]

theorem LogStep.logInv {s s' : State} (h : LogStep s s') (hi : LogInv s) : LogInv s' := by
  cases h with
  | keep hc he =>
    have hn : getErrorCount s' = getErrorCount s := by simp [getErrorCount, hc]
    exact ⟨fun i => by rw [he, hn, hi.stored], fun i e => by rw [he]; exact hi.entry_id i e⟩
  | report entry hid hc he =>
    have hn : getErrorCount s' = getErrorCount s + 1 := by simp [getErrorCount, hc, hid]
    refine ⟨fun i => ?_, fun i e h => ?_⟩ <;> rw [he] at * <;> by_cases hi' : i = entry.entryId
    · subst hi'; simp [hn, hid]
    · have := hi.stored i
      simp only [Function.update_noteq hi', this, hn]
      omega
    · subst hi'; simp at h; exact h ▸ rfl
    · rw [Function.update_noteq hi'] at h; exact hi.entry_id i e h
  | rewrite id entry entry' hs hid hc he =>
    have hn : getErrorCount s' = getErrorCount s := by simp [getErrorCount, hc]
    have hself : entry.entryId = id := hi.entry_id id entry hs
    refine ⟨fun i => ?_, fun i e h => ?_⟩ <;> rw [he] at * <;> by_cases hi' : i = id
    · subst hi'; rw [hself, Function.update_same, hn, ← hi.stored, hs]; rfl
    · rw [hself, Function.update_noteq hi', hn, hi.stored]
    · subst hi'; rw [hself, Function.update_same] at h; cases h; rw [hid, hself]
    · rw [hself, Function.update_noteq hi'] at h; exact hi.entry_id i e h

theorem LogStep.count_le_succ {s s' : State} (h : LogStep s s') :
    getErrorCount s' ≤ getErrorCount s + 1 := by
  cases h with
  | keep hc => simp [getErrorCount, hc]
  | report _ hid hc => simp [getErrorCount, hc, hid]
  | rewrite _ _ _ _ _ hc => simp [getErrorCount, hc]

/-- Each call logs at most one entry. -/
theorem errorCount_exec_le (s : State) (cs : List (Ledger × Call)) :
    getErrorCount (exec s cs) ≤ getErrorCount s + cs.length := by
  induction cs generalizing s with
  | nil => exact Nat.le_add_right _ _
  | cons lc cs ih =>
    obtain ⟨ledger, c⟩ := lc
    have h₁ := (logStep_apply ledger c s).count_le_succ
    have h₂ := ih (c.apply ledger s)
    simp only [exec, List.length_cons]
    omega

theorem reachable_logInv {s : State} (hs : Reachable s) : LogInv s := by
  induction hs with
  | empty => exact ⟨fun i => by simp [State.empty, getErrorCount]; omega, nofun⟩
  | step ledger c _ ih => exact (logStep_apply ledger c _).logInv ih

/-! ## The error log law -/

section Law

variable {s : State}

theorem reportError_eq_ok {ledger : Ledger} {src caller : Address} {error : InsuranceError}
    {subjectId : Option Nat} {id : Nat} {s' : State}
    (h : reportError ledger src caller error subjectId s = .ret (.ok id) s') :
    id = getErrorCount s + 1 ∧ s'.errorCount = some id ∧
      s'.errors = Function.update s.errors id (some (reportedEntry ledger id src caller error subjectId)) := by
  simp only [reportError, authorized_eq_ret] at h
  obtain ⟨-, h⟩ := h
  split_ifs at h <;> try cases h
  obtain ⟨⟨_, s₁⟩, hn, h⟩ := Option.map_eq_some'.1 (trapping_eq_ok.1 h)
  obtain ⟨rfl, rfl⟩ := nextErrorId_eq_some hn
  cases h
  exact ⟨rfl, rfl, rfl⟩

/-- A report from a source that is not an authorized reporter, or made while paused, returns
    that error, or aborts unsigned, and writes nothing. -/
theorem reportError_rejected (ledger : Ledger) (src caller : Address) (error : InsuranceError)
    (subjectId : Option Nat) (h : isAuthorizedReporter s src = false ∨ isPaused s = true) :
    reportError ledger src caller error subjectId s = if ledger.authorizes src then
      .ret (.error (if isAuthorizedReporter s src then .contractPaused else .unauthorized)) s
    else .abort := by
  unfold reportError authorized
  rcases h with h | h
  · simp [h]
  · cases hr : isAuthorizedReporter s src <;> simp [h, hr]

theorem resolveError_after (hi : LogInv s) (host : Host) (caller : Address) (id : Nat) :
    (resolveError host caller id s).after s = s ∨ ∃ e, s.errors id = some e ∧
      (resolveError host caller id s).after s =
        { s with errors := Function.update s.errors id (some { e with recoveryStatus := .resolved }) } := by
  unfold resolveError authorized
  split_ifs
  · split
    · exact .inl rfl
    split_ifs
    · exact .inl rfl
    unfold getError
    split
    · exact .inl rfl
    · rename_i e he
      exact .inr ⟨e, he, by rw [Outcome.after_ret, saveError, hi.entry_id id e he]⟩
  · exact .inl rfl

theorem escalateError_after (hi : LogInv s) (host : Host) (id : Nat) :
    (escalateError host id s).after s = s ∨ ∃ e, s.errors id = some e ∧
      (escalateError host id s).after s = { s with errors := Function.update s.errors id (some
        { e with recoveryAction := .manualInterventionRequired
                 recoveryStatus := .escalatedToOperator }) } := by
  unfold escalateError asAdmin authorized
  split
  · exact .inl rfl
  split_ifs
  · unfold getError
    split
    · exact .inl rfl
    · rename_i e he
      exact .inr ⟨e, he, by rw [Outcome.after_ret, saveError, hi.entry_id id e he]⟩
  · exact .inl rfl

theorem after_eq_of_none {P : ErrorEntry → Prop} {s' : State} {id : Nat}
    (h : s' = s ∨ ∃ e, s.errors id = some e ∧ P e) (hn : s.errors id = none) : s' = s :=
  h.resolve_right fun ⟨_, he, _⟩ => by simp [hn] at he

end Law

/-- What the error log satisfies in a state, and over every call made from it. -/
structure ErrorLogLaw (s : State) : Prop where
  /-- Entries are stored exactly under `1, …, ErrorCount`. -/
  stored : ∀ i, (s.errors i).isSome ↔ 1 ≤ i ∧ i ≤ getErrorCount s
  /-- Each entry is stored under its own id. -/
  entry_id : ∀ i e, s.errors i = some e → e.entryId = i
  /-- No call lowers `ErrorCount`, so an id once given is not given again. -/
  count_mono : ∀ (ledger : Ledger) (c : Call), getErrorCount s ≤ getErrorCount (c.apply ledger s)
  /-- A successful report returns `ErrorCount + 1`, an id with no entry yet, moves the count
      to it and stores its entry there, and no other. -/
  report_fresh : ∀ ledger src caller error subjectId id s',
    reportError ledger src caller error subjectId s = .ret (.ok id) s' →
    id = getErrorCount s + 1 ∧ s.errors id = none ∧ getErrorCount s' = id ∧
      s'.errors = Function.update s.errors id (some (reportedEntry ledger id src caller error subjectId))
  /-- A report rejected as unauthorized or paused writes nothing. -/
  report_rejected : ∀ (ledger : Ledger) src caller error subjectId,
    isAuthorizedReporter s src = false ∨ isPaused s = true →
    reportError ledger src caller error subjectId s = if ledger.authorizes src then
      .ret (.error (if isAuthorizedReporter s src then .contractPaused else .unauthorized)) s
    else .abort
  /-- `resolve_error` only marks the entry it names resolved, and writes nothing without one. -/
  resolve : ∀ host caller id,
    (s.errors id = none → (resolveError host caller id s).after s = s) ∧
    ((resolveError host caller id s).after s = s ∨ ∃ e, s.errors id = some e ∧
      (resolveError host caller id s).after s =
        { s with errors := Function.update s.errors id (some { e with recoveryStatus := .resolved }) })
  /-- `escalate_error` only sets the action and status of the entry it names, and writes
      nothing without one. -/
  escalate : ∀ host id,
    (s.errors id = none → (escalateError host id s).after s = s) ∧
    ((escalateError host id s).after s = s ∨ ∃ e, s.errors id = some e ∧
      (escalateError host id s).after s = { s with errors := Function.update s.errors id (some
        { e with recoveryAction := .manualInterventionRequired
                 recoveryStatus := .escalatedToOperator }) })

/-- In every reachable state the log holds an entry exactly under each id from 1 to the
    count, under its own id; reports take fresh ids, rejected reports write nothing, and
    resolving or escalating touches only the status and action of the entry named. -/
theorem error_log_law {s : State} (hs : Reachable s) : ErrorLogLaw s :=
  have hi := reachable_logInv hs
  { stored := hi.stored
    entry_id := hi.entry_id
    count_mono := fun ledger c => (logStep_apply ledger c s).count_le
    report_fresh := fun _ _ _ _ _ id _ h => by
      obtain ⟨rfl, hc, he⟩ := reportError_eq_ok h
      refine ⟨rfl, ?_, by simp [getErrorCount, hc], he⟩
      cases hx : s.errors (getErrorCount s + 1) with
      | none => rfl
      | some x => have := (hi.stored (getErrorCount s + 1)).1 (by simp [hx]); omega
    report_rejected := fun ledger src caller error subjectId h =>
      reportError_rejected ledger src caller error subjectId h
    resolve := fun host caller id =>
      ⟨after_eq_of_none (resolveError_after hi host caller id), resolveError_after hi host caller id⟩
    escalate := fun host id =>
      ⟨after_eq_of_none (escalateError_after hi host id), escalateError_after hi host id⟩ }

theorem error_log_law_after_reports :
    let ledger : Ledger := ⟨⟨10, fun _ => true⟩, 7⟩
    let s := exec State.empty [(ledger, .init ⟨0⟩), (ledger, .authorizeReporter ⟨1⟩),
      (ledger, .reportError ⟨1⟩ ⟨2⟩ .oracleDataStale none),
      (ledger, .reportError ⟨3⟩ ⟨2⟩ .claimNotFound (some 4)),
      (ledger, .reportError ⟨1⟩ ⟨2⟩ .kycExpired (some 5)), (ledger, .resolveError ⟨0⟩ 1),
      (ledger, .escalateError 2)]
    Reachable s ∧ ErrorLogLaw s :=
  ⟨reachable_exec .empty _, error_log_law (reachable_exec .empty _)⟩

/-! ## `get_pending_errors` -/

/-- The entry stored under `id` when it is pending: what `get_pending_errors` collects. -/
def pendingEntry (s : State) (id : Nat) : Option ErrorEntry :=
  (getError s id).filter fun e => e.recoveryStatus = .pending

section Pending

variable {s : State} {limit : Nat}

/-- While no `id += 1` overflows, the loop returns the pending entries among its `fuel` ids,
    up to `limit - found` of them. -/
theorem collectPending_eq {fuel id found : Nat} (hfit : fuel ≠ 0 → id + fuel < 2 ^ 64) :
    collectPending s limit fuel id found =
      some (((List.range' id fuel).filterMap (pendingEntry s)).take (limit - found)) := by
  induction fuel generalizing id found with
  | zero => simp [collectPending]
  | succ fuel ih =>
    have hfit' := hfit (Nat.succ_ne_zero _)
    have hnext : addU 64 id 1 = some (id + 1) := addU_eq_some.2 ⟨by omega, rfl⟩
    have hrest : fuel ≠ 0 → id + 1 + fuel < 2 ^ 64 := fun _ => by omega
    rw [collectPending, List.range'_succ, List.filterMap_cons]
    split_ifs with hlt
    · cases he : getError s id with
      | none => simp [hnext, @ih (id + 1) found hrest, pendingEntry, he]
      | some entry =>
        by_cases hp : entry.recoveryStatus = .pending
        · have hk : limit - found = limit - (found + 1) + 1 := by omega
          simp [hp, hnext, @ih (id + 1) (found + 1) hrest, pendingEntry, he, Option.filter, hk]
        · simp [hp, hnext, @ih (id + 1) found hrest, pendingEntry, he, Option.filter]
    · simp [Nat.sub_eq_zero_of_le (Nat.not_lt.1 hlt)]

/-- Once the loop runs its body at `u64::MAX`, `id += 1` traps. -/
theorem collectPending_of_overflow {fuel id found : Nat} (hlt : found < limit)
    (ho : 2 ^ 64 ≤ id + 1) : collectPending s limit (fuel + 1) id found = none := by
  have hnext : addU 64 id 1 = none := if_neg (Nat.not_lt.2 ho)
  rw [collectPending, if_pos hlt]
  split
  · split <;> simp [hnext]
  · simp [hnext]

/-- In a reachable state the pending entries of a range come in increasing `entry_id`. -/
theorem pendingEntry_pairwise (hi : LogInv s) (id n : Nat) :
    ((List.range' id n).filterMap (pendingEntry s)).Pairwise fun a b => a.entryId < b.entryId := by
  refine (List.pairwise_lt_range' id n).filterMap _ fun a a' h b hb b' hb' => ?_
  simp only [pendingEntry, getError, Option.mem_def, Option.filter_eq_some] at hb hb'
  rw [hi.entry_id a b hb.1, hi.entry_id a' b' hb'.1]
  exact h

end Pending

/-- In every state a run of fewer than `u64::MAX` calls reaches from a fresh contract, for a
    caller the contract lets in, `get_pending_errors` returns the first `min(limit, 50)`
    pending entries among the ids `from_id..=ErrorCount`, in increasing `entry_id` order,
    and writes nothing. Each call logs at most one entry, so `ErrorCount` stays below
    `u64::MAX`, and no ledger runs `u64::MAX` calls. -/
theorem pending_errors (cs : List (Ledger × Call)) (hcs : cs.length < 2 ^ 64 - 1) {host : Host}
    {caller admin : Address} (hauth : host.authorizes caller = true)
    (hadmin : (exec State.empty cs).admin = some admin)
    (hcaller : caller = admin ∨ isAuthorizedReporter (exec State.empty cs) caller = true)
    (fromId limit : Nat) :
    let s := exec State.empty cs
    let r := ((List.range' fromId (getErrorCount s + 1 - fromId)).filterMap (pendingEntry s)).take
      (min limit 50)
    getPendingErrors host caller fromId limit s = .ret (.ok r) s ∧
      r.Pairwise fun a b => a.entryId < b.entryId := by
  intro s r
  have hcount : getErrorCount s < 2 ^ 64 - 1 :=
    Nat.lt_of_le_of_lt (errorCount_exec_le State.empty cs)
      (by rw [show getErrorCount State.empty = 0 from rfl]; omega)
  have hadmin : s.admin = some admin := hadmin
  have hc : collectPending s (min limit 50) (getErrorCount s + 1 - fromId) fromId 0 = some r :=
    collectPending_eq fun h => by omega
  have hlet : ¬(caller ≠ admin ∧ isAuthorizedReporter s caller = false) := by
    rcases hcaller with h | h <;> simp [h]
  refine ⟨?_, (pendingEntry_pairwise (reachable_logInv (reachable_exec .empty cs)) _ _).sublist
    (List.take_sublist _ _)⟩
  simp only [getPendingErrors, authorized, hauth, hadmin, if_neg hlet, hc]
  rfl

/-- `test_get_pending_errors`: two entries logged, the first resolved; a scan from 1 with
    limit 20 returns the second. -/
def pendingRun : List (Ledger × Call) :=
  [(⟨⟨10, fun _ => true⟩, 7⟩, .init ⟨0⟩), (⟨⟨10, fun _ => true⟩, 7⟩, .authorizeReporter ⟨1⟩),
   (⟨⟨10, fun _ => true⟩, 7⟩, .reportError ⟨1⟩ ⟨2⟩ .oracleDataStale none),
   (⟨⟨10, fun _ => true⟩, 7⟩, .reportError ⟨1⟩ ⟨2⟩ .kycExpired (some 5)),
   (⟨⟨10, fun _ => true⟩, 7⟩, .resolveError ⟨0⟩ 1)]

theorem pending_errors_after_reports :
    let s := exec State.empty pendingRun
    (pendingRun.length < 2 ^ 64 - 1 ∧ (⟨10, fun _ => true⟩ : Host).authorizes ⟨1⟩ = true ∧
      s.admin = some ⟨0⟩ ∧ (⟨1⟩ = (⟨0⟩ : Address) ∨ isAuthorizedReporter s ⟨1⟩ = true)) ∧
    let r := ((List.range' 1 (getErrorCount s + 1 - 1)).filterMap (pendingEntry s)).take (min 20 50)
    (getPendingErrors ⟨10, fun _ => true⟩ ⟨1⟩ 1 20 s = .ret (.ok r) s ∧
      r.Pairwise fun a b => a.entryId < b.entryId) ∧ r.map (·.entryId) = [2] :=
  ⟨⟨by decide, rfl, rfl, .inr rfl⟩,
    pending_errors pendingRun (by decide) (rfl : (⟨10, fun _ => true⟩ : Host).authorizes ⟨1⟩ = true)
      rfl (.inr rfl) 1 20, by decide⟩

/-! ## As built: `id += 1` at `u64::MAX` traps -/

section Reports

variable {ledger : Ledger} {src : Address}

/-- A signed report from an authorized source, unpaused, with the count below `u64::MAX`,
    moves the count up by one and leaves the admin, the reporters and the pause flag. -/
theorem reportError_apply (caller : Address) (error : InsuranceError) (subjectId : Option Nat)
    {s : State} (hsrc : ledger.authorizes src = true) (hr : isAuthorizedReporter s src = true)
    (hp : isPaused s = false) (hc : getErrorCount s + 1 < 2 ^ 64) :
    ((Call.reportError src caller error subjectId).apply ledger s).admin = s.admin ∧
      isAuthorizedReporter ((Call.reportError src caller error subjectId).apply ledger s) src =
        true ∧
      isPaused ((Call.reportError src caller error subjectId).apply ledger s) = false ∧
      getErrorCount ((Call.reportError src caller error subjectId).apply ledger s) =
        getErrorCount s + 1 := by
  have hn : addU 64 (s.errorCount.getD 0) 1 = some (s.errorCount.getD 0 + 1) :=
    addU_eq_some.2 ⟨hc, rfl⟩
  simp only [isAuthorizedReporter, isPaused] at hr hp
  simp [Call.apply, reportError, authorized, hsrc, isAuthorizedReporter, hr, isPaused, hp,
    nextErrorId, hn, trapping, saveError, getErrorCount]

/-- `k` such reports move the count up by `k` and leave the admin. -/
theorem report_exec (caller : Address) (error : InsuranceError) (subjectId : Option Nat)
    {s : State} (hsrc : ledger.authorizes src = true) (hr : isAuthorizedReporter s src = true)
    (hp : isPaused s = false) (k : Nat) (hk : getErrorCount s + k < 2 ^ 64) :
    (exec s (List.replicate k (ledger, .reportError src caller error subjectId))).admin = s.admin ∧
      getErrorCount (exec s (List.replicate k (ledger, .reportError src caller error subjectId))) =
        getErrorCount s + k := by
  induction k generalizing s with
  | zero => exact ⟨rfl, rfl⟩
  | succ k ih =>
    obtain ⟨ha, hr', hp', hc⟩ := reportError_apply caller error subjectId hsrc hr hp (by omega)
    obtain ⟨ha', hc'⟩ := ih hr' hp' (by rw [hc]; omega)
    rw [List.replicate_succ, exec, ha', ha, hc', hc]
    exact ⟨rfl, by omega⟩

end Reports

/-- A contract with an admin and one authorized reporter. -/
def reportSetup : State :=
  exec State.empty [(⟨⟨0, fun _ => true⟩, 0⟩, .init ⟨0⟩), (⟨⟨0, fun _ => true⟩, 0⟩, .authorizeReporter ⟨1⟩)]

/-- `reportSetup`, then `k` reports from its reporter. -/
def reportedState (k : Nat) : State :=
  exec reportSetup (List.replicate k (⟨⟨0, fun _ => true⟩, 0⟩, .reportError ⟨1⟩ ⟨2⟩ .oracleDataStale none))

theorem reportSetup_reachable : Reachable reportSetup := reachable_exec .empty _

theorem reportedState_count {k : Nat} (hk : k < 2 ^ 64) :
    (reportedState k).admin = some ⟨0⟩ ∧ getErrorCount (reportedState k) = k := by
  have h0 : getErrorCount reportSetup = 0 := rfl
  have h := report_exec ⟨2⟩ .oracleDataStale none
    (rfl : (⟨⟨0, fun _ => true⟩, 0⟩ : Ledger).authorizes ⟨1⟩ = true)
    (rfl : isAuthorizedReporter reportSetup ⟨1⟩ = true) rfl k (by rw [h0]; omega)
  rw [h0, Nat.zero_add] at h
  exact ⟨h.1, h.2⟩

/-- The bound on the run is needed: the loop ends each pass with a `u64` `id += 1`, so after
    `u64::MAX` reports a scan from `u64::MAX` traps. -/
theorem pending_scan_overflows :
    Reachable (reportedState (2 ^ 64 - 1)) ∧ getErrorCount (reportedState (2 ^ 64 - 1)) = 2 ^ 64 - 1 ∧
      getPendingErrors ⟨0, fun _ => true⟩ ⟨0⟩ (2 ^ 64 - 1) 50 (reportedState (2 ^ 64 - 1)) = .abort := by
  obtain ⟨ha, hn⟩ := @reportedState_count (2 ^ 64 - 1) (by decide)
  refine ⟨reachable_exec reportSetup_reachable _, hn, ?_⟩
  have hfuel : getErrorCount (reportedState (2 ^ 64 - 1)) + 1 - (2 ^ 64 - 1) = 1 := by
    rw [hn, Nat.add_sub_cancel_left]
  have hc : collectPending (reportedState (2 ^ 64 - 1)) (min 50 50)
      (getErrorCount (reportedState (2 ^ 64 - 1)) + 1 - (2 ^ 64 - 1)) (2 ^ 64 - 1) 0 = none := by
    rw [hfuel]
    exact collectPending_of_overflow (by decide) (by decide)
  simp only [getPendingErrors, authorized, ha, ne_eq, not_true_eq_false, false_and, if_false, hc]
  rfl

/-! ## Logged entries persist -/

/-- An entry without the status and the action, the fields `resolve_error` and
    `escalate_error` write. -/
def ErrorEntry.frozen (e : ErrorEntry) : ErrorEntry :=
  { e with recoveryAction := .none, recoveryStatus := .pending }

/-- What a later log keeps of an earlier one: each entry is still stored under its id, with
    every field `report_error` wrote as it was but the status, and the action as it was or
    `ManualInterventionRequired`. -/
def EntriesKept (s s' : State) : Prop :=
  ∀ id e, s.errors id = some e → ∃ e', s'.errors id = some e' ∧ e'.frozen = e.frozen ∧
    (e'.recoveryAction = e.recoveryAction ∨ e'.recoveryAction = .manualInterventionRequired)

namespace EntriesKept

variable {s s' s'' : State}

theorem of_errors (h : s'.errors = s.errors) : EntriesKept s s' :=
  fun _ e he => ⟨e, h ▸ he, rfl, .inl rfl⟩

theorem trans (h : EntriesKept s s') (h' : EntriesKept s' s'') : EntriesKept s s'' := by
  intro id e he
  obtain ⟨e', he', hf, ha⟩ := h id e he
  obtain ⟨e'', he'', hf', ha'⟩ := h' id e' he'
  refine ⟨e'', he'', hf'.trans hf, ?_⟩
  rcases ha' with ha' | ha'
  · exact ha' ▸ ha
  · exact .inr ha'

/-- A new entry under an id that had none. -/
theorem write_fresh {id : Nat} {e : ErrorEntry} (hn : s.errors id = none)
    (h : s'.errors = Function.update s.errors id (some e)) : EntriesKept s s' := by
  intro i e₀ he
  have hi : i ≠ id := by
    rintro rfl
    simp [hn] at he
  exact ⟨e₀, by rw [h, Function.update_noteq hi, he], rfl, .inl rfl⟩

/-- A stored entry rewritten with the fields `report_error` wrote, its action kept or
    escalated. -/
theorem rewrite {id : Nat} {e e' : ErrorEntry} (he : s.errors id = some e)
    (h : s'.errors = Function.update s.errors id (some e')) (hf : e'.frozen = e.frozen)
    (ha : e'.recoveryAction = e.recoveryAction ∨ e'.recoveryAction = .manualInterventionRequired) :
    EntriesKept s s' := by
  intro i e₀ he₀
  rw [h, Function.update_apply]
  split_ifs with hi
  · subst hi
    rw [he] at he₀
    cases he₀
    exact ⟨e', rfl, hf, ha⟩
  · exact ⟨e₀, he₀, rfl, .inl rfl⟩

theorem of_authorized {α : Type} {host : Host} {caller : Address} {k : Outcome InsuranceError α State}
    (h : EntriesKept s (k.after s)) : EntriesKept s ((authorized host caller k).after s) := by
  unfold authorized
  split
  · exact h
  · exact of_errors rfl

theorem of_asAdmin {α : Type} {host : Host} {k : Outcome InsuranceError α State}
    (h : EntriesKept s (k.after s)) : EntriesKept s ((asAdmin host s k).after s) := by
  unfold asAdmin
  split
  · exact of_errors rfl
  · exact of_authorized h

end EntriesKept

section Persist

variable {s : State}

theorem reportError_entriesKept (hi : LogInv s) (ledger : Ledger) (src caller : Address)
    (error : InsuranceError) (subjectId : Option Nat) :
    EntriesKept s ((reportError ledger src caller error subjectId s).after s) := by
  refine .of_authorized ?_
  split_ifs
  · exact .of_errors rfl
  · exact .of_errors rfl
  · cases h : nextErrorId s with
    | none => exact .of_errors rfl
    | some p =>
      obtain ⟨id, s₁⟩ := p
      obtain ⟨hid, rfl⟩ := nextErrorId_eq_some h
      refine .write_fresh ?_ rfl
      show s.errors id = none
      exact Option.not_isSome_iff_eq_none.1 fun h => by have := (hi.stored id).1 h; omega

/-- What one call keeps of the log. -/
theorem entriesKept_step (hi : LogInv s) (ledger : Ledger) (c : Call) :
    EntriesKept s (c.apply ledger s) := by
  cases c with
  | init admin =>
    show EntriesKept s ((RecoveryContract.init ledger.toHost admin s).after s)
    unfold RecoveryContract.init
    split_ifs
    · exact .of_errors rfl
    · exact .of_authorized (.of_errors rfl)
  | authorizeReporter | revokeReporter | pause | resume => exact .of_asAdmin (.of_errors rfl)
  | reportError src caller error subjectId =>
    exact reportError_entriesKept hi ledger src caller error subjectId
  | resolveError caller id =>
    rcases resolveError_after hi ledger.toHost caller id with h | ⟨e, he, h⟩
    · exact .of_errors (congrArg State.errors h)
    · exact .rewrite he (congrArg State.errors h) rfl (.inl rfl)
  | escalateError id =>
    rcases escalateError_after hi ledger.toHost id with h | ⟨e, he, h⟩
    · exact .of_errors (congrArg State.errors h)
    · exact .rewrite he (congrArg State.errors h) rfl (.inr rfl)

end Persist

/-- Over every run from a reachable state no logged entry is removed or moved, none of the
    fields `report_error` wrote changes but the status, and the action changes only to
    `ManualInterventionRequired`. -/
theorem entries_persist {s : State} (hs : Reachable s) (cs : List (Ledger × Call)) :
    EntriesKept s (exec s cs) := by
  induction cs generalizing s with
  | nil => exact .of_errors rfl
  | cons lc cs ih =>
    obtain ⟨ledger, c⟩ := lc
    exact (entriesKept_step (reachable_logInv hs) ledger c).trans (ih (.step ledger c hs))

/-- Two entries logged, then resolved, escalated and resolved again, and a third logged. -/
theorem entries_persist_after_reports :
    let ledger : Ledger := ⟨⟨10, fun _ => true⟩, 7⟩
    let s := exec reportSetup [(ledger, .reportError ⟨1⟩ ⟨2⟩ .oracleDataStale none),
      (ledger, .reportError ⟨1⟩ ⟨2⟩ .kycExpired (some 5))]
    Reachable s ∧ EntriesKept s (exec s [(ledger, .resolveError ⟨0⟩ 1), (ledger, .escalateError 1),
      (ledger, .resolveError ⟨1⟩ 1), (ledger, .escalateError 2),
      (ledger, .reportError ⟨1⟩ ⟨2⟩ .claimNotFound none)]) :=
  ⟨reachable_exec reportSetup_reachable _, entries_persist (reachable_exec reportSetup_reachable _) _⟩

/-! ## Who writes which key -/

/-- The stored admin signs. -/
def AdminSigned (host : Host) (s : State) : Prop :=
  ∃ admin, s.admin = some admin ∧ host.authorizes admin = true

/-- The calls that may write the log, each signed as its guard asks. -/
def LogWriter (ledger : Ledger) (s : State) : Call → Prop
  | .reportError src _ _ _ =>
    ledger.authorizes src = true ∧ isAuthorizedReporter s src = true ∧ isPaused s = false
  | .resolveError caller _ =>
    ledger.authorizes caller = true ∧ (s.admin = some caller ∨ isAuthorizedReporter s caller = true)
  | .escalateError _ => AdminSigned ledger.toHost s
  | _ => False

/-- Each key of the registry is as it was before `c`, or `c` is a call that may write it and
    passed its guard. -/
structure WriteGuarded (ledger : Ledger) (s : State) (c : Call) (s' : State) : Prop where
  admin : s'.admin = s.admin ∨ s.admin = none ∧ ∃ a, c = .init a ∧ ledger.authorizes a = true
  reporters : s'.reporters = s.reporters ∨
    (∃ r, c = .authorizeReporter r ∨ c = .revokeReporter r) ∧ AdminSigned ledger.toHost s
  paused : s'.paused = s.paused ∨ (c = .pause ∨ c = .resume) ∧ AdminSigned ledger.toHost s
  log : s'.errorCount = s.errorCount ∧ s'.errors = s.errors ∨ LogWriter ledger s c

section Guards

variable {ledger : Ledger} {s : State} {c : Call}

theorem WriteGuarded.refl : WriteGuarded ledger s c s := ⟨.inl rfl, .inl rfl, .inl rfl, .inl ⟨rfl, rfl⟩⟩

theorem WriteGuarded.of_authorized {α : Type} {caller : Address} {k : Outcome InsuranceError α State}
    (h : ledger.authorizes caller = true → WriteGuarded ledger s c (k.after s)) :
    WriteGuarded ledger s c ((authorized ledger.toHost caller k).after s) := by
  unfold authorized
  split
  · exact h ‹_›
  · exact .refl

theorem WriteGuarded.of_asAdmin {α : Type} {k : Outcome InsuranceError α State}
    (h : AdminSigned ledger.toHost s → WriteGuarded ledger s c (k.after s)) :
    WriteGuarded ledger s c ((asAdmin ledger.toHost s k).after s) := by
  unfold asAdmin
  split
  · exact .refl
  · exact .of_authorized fun ha => h ⟨_, ‹_›, ha⟩

theorem reportError_writeGuarded (src caller : Address) (error : InsuranceError)
    (subjectId : Option Nat) :
    WriteGuarded ledger s (.reportError src caller error subjectId)
      ((reportError ledger src caller error subjectId s).after s) := by
  refine .of_authorized fun ha => ?_
  split_ifs with hr hp
  · exact .refl
  · exact .refl
  · cases h : nextErrorId s with
    | none => exact .refl
    | some p =>
      obtain ⟨id, s₁⟩ := p
      obtain ⟨-, rfl⟩ := nextErrorId_eq_some h
      exact ⟨.inl rfl, .inl rfl, .inl rfl, .inr ⟨ha, by simpa using hr, by simpa using hp⟩⟩

theorem resolveError_writeGuarded (caller : Address) (id : Nat) :
    WriteGuarded ledger s (.resolveError caller id) ((resolveError ledger.toHost caller id s).after s) := by
  refine .of_authorized fun ha => ?_
  split
  · exact .refl
  · rename_i admin hadm
    split_ifs with hn
    · exact .refl
    · have hc : s.admin = some caller ∨ isAuthorizedReporter s caller = true := by
        by_cases hc : caller = admin
        · exact .inl (hc ▸ hadm)
        · exact .inr (by simpa [hc] using hn)
      split
      · exact .refl
      · exact ⟨.inl rfl, .inl rfl, .inl rfl, .inr ⟨ha, hc⟩⟩

/-- An authorized reporter that signs resolves any stored entry, the one another reporter
    logged included. -/
theorem resolveError_of_reporter {caller : Address} {id : Nat} {entry : ErrorEntry}
    (ha : ledger.authorizes caller = true) (hadmin : s.admin.isSome)
    (hr : isAuthorizedReporter s caller = true) (he : s.errors id = some entry) :
    resolveError ledger.toHost caller id s =
      .ret (.ok ()) (saveError s { entry with recoveryStatus := .resolved }) := by
  obtain ⟨admin, hadmin⟩ := Option.isSome_iff_exists.1 hadmin
  simp [resolveError, authorized, ha, hadmin, hr, getError, he]

/-- The admin is set only by `initialize` on a contract with none, signed by the new admin;
    the reporters only by `authorize_reporter` and `revoke_reporter`, and the pause flag only
    by `pause` and `resume`, each signed by the stored admin; the count and the entries only
    by a report signed by an authorized reporter while not paused, a resolution signed by the
    admin or by any authorized reporter, or an escalation signed by the stored admin. And
    any authorized reporter that signs resolves any stored entry, whoever logged it. -/
theorem recovery_writes_guarded (ledger : Ledger) (c : Call) (s : State) :
    WriteGuarded ledger s c (c.apply ledger s) ∧
      ∀ caller id entry, ledger.authorizes caller = true → s.admin.isSome →
        isAuthorizedReporter s caller = true → s.errors id = some entry →
        resolveError ledger.toHost caller id s =
          .ret (.ok ()) (saveError s { entry with recoveryStatus := .resolved }) := by
  refine ⟨?_, fun _ _ _ => resolveError_of_reporter⟩
  cases c with
  | init a =>
    show WriteGuarded ledger s _ ((RecoveryContract.init ledger.toHost a s).after s)
    unfold RecoveryContract.init
    split_ifs with h
    · exact .refl
    · exact .of_authorized fun ha =>
        ⟨.inr ⟨by simpa [hasAdmin] using h, a, rfl, ha⟩, .inl rfl, .inl rfl, .inl ⟨rfl, rfl⟩⟩
  | authorizeReporter r =>
    exact .of_asAdmin fun ha => ⟨.inl rfl, .inr ⟨⟨r, .inl rfl⟩, ha⟩, .inl rfl, .inl ⟨rfl, rfl⟩⟩
  | revokeReporter r =>
    exact .of_asAdmin fun ha => ⟨.inl rfl, .inr ⟨⟨r, .inr rfl⟩, ha⟩, .inl rfl, .inl ⟨rfl, rfl⟩⟩
  | reportError src caller error subjectId => exact reportError_writeGuarded src caller error subjectId
  | resolveError caller id => exact resolveError_writeGuarded caller id
  | escalateError id =>
    refine .of_asAdmin fun ha => ?_
    split
    · exact .refl
    · exact ⟨.inl rfl, .inl rfl, .inl rfl, .inr ha⟩
  | pause => exact .of_asAdmin fun ha => ⟨.inl rfl, .inl rfl, .inr ⟨.inl rfl, ha⟩, .inl ⟨rfl, rfl⟩⟩
  | resume => exact .of_asAdmin fun ha => ⟨.inl rfl, .inl rfl, .inr ⟨.inr rfl, ha⟩, .inl ⟨rfl, rfl⟩⟩

end Guards

/-- Reporters 1 and 2 authorized; 1 logs entry 1, and 2 resolves it. -/
def resolveRun : List (Ledger × Call) :=
  [(⟨⟨10, fun _ => true⟩, 7⟩, .init ⟨0⟩), (⟨⟨10, fun _ => true⟩, 7⟩, .authorizeReporter ⟨1⟩),
   (⟨⟨10, fun _ => true⟩, 7⟩, .authorizeReporter ⟨2⟩),
   (⟨⟨10, fun _ => true⟩, 7⟩, .reportError ⟨1⟩ ⟨1⟩ .oracleDataStale none)]

/-- Entry 1, logged by reporter 1, is resolved by reporter 2. -/
theorem reporter_resolves_anothers_entry :
    let ledger : Ledger := ⟨⟨10, fun _ => true⟩, 7⟩
    let s := exec State.empty resolveRun
    ∃ entry, s.errors 1 = some entry ∧ entry.sourceContract = ⟨1⟩ ∧
      resolveError ledger.toHost ⟨2⟩ 1 s =
        .ret (.ok ()) (saveError s { entry with recoveryStatus := .resolved }) :=
  ⟨_, rfl, rfl, (recovery_writes_guarded _ (.resolveError ⟨2⟩ 1) _).2 ⟨2⟩ 1 _ rfl rfl rfl rfl⟩

end StellarInsured.ErrorHandling
