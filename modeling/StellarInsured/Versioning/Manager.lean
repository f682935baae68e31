import StellarInsured.Host

/-
  StellarInsured.Versioning.Manager — `VersionManager`, `UpgradeableContract` and the
  hook helpers (contracts/shared/src/versioning.rs, upgradeable.rs).

  The engine owns four reserved keys of a contract's instance storage: the version
  (`VERSION`), the transition history (`VERS_HIS`), the migration state as a `u32`
  code (`MIG_STA`) and the time of the last migration (`LAST_MIG`). The rest of the
  storage is the contract's own (`app`) and opaque to the engine. A migration hook is
  any function of the whole storage: it may write anything, return an error after
  writing, or abort the invocation.

  `migrate` checks, in order, that the target is above the declared source, that the
  stored version is the declared source and that no migration is in progress
  (`checkMigration`); it writes `InProgress` and runs the hook; on the hook's error it
  writes `RollbackRequired` and returns that error; otherwise it writes the target
  version, trims the history with its `pop_back` loop, prepends the new transition,
  stamps the time and writes `Complete` (`recordMigration`).

  Proved: `checkMigration_eq_ok` (what the checks let through), `trimHistory_eq_take`
  (the `pop_back` loop keeps the 99 newest entries whatever the length), and one
  lemma per entry point saying what it writes; the `UpgradeableContract` calls are the
  engine's calls with the facade's defaults, and `composeHooks` runs its hooks in
  sequence, stopping at the first that does not succeed. `migrate_success`: a hook that
  returns `Ok` and leaves `VERS_HIS` as it found it gives a migration that succeeds and
  keeps the hook's writes to the contract's own storage; a hook that clears `VERS_HIS`
  makes it fail with `NotInitialized` (`history_clearing_hook`).
-/

namespace StellarInsured.Versioning

inductive VersioningError where
  | notInitialized
  | versionMismatch
  | migrationInProgress
  | migrationFailed
  | unauthorizedUpgrade
  | invalidVersionNumber
  | migrationHookFailed
  | schemaValidationFailed
  | rollbackFailed
  deriving DecidableEq, Repr

inductive MigrationState where
  | none
  | inProgress
  | complete
  | rollbackRequired
  deriving DecidableEq, Repr

/-- `state as u32`. -/
def migrationStateToU32 : MigrationState → Nat
  | .none => 0
  | .inProgress => 1
  | .complete => 2
  | .rollbackRequired => 3

def u32ToMigrationState : Nat → Except VersioningError MigrationState
  | 0 => .ok .none
  | 1 => .ok .inProgress
  | 2 => .ok .complete
  | 3 => .ok .rollbackRequired
  | _ => .error .invalidVersionNumber

theorem u32ToMigrationState_toU32 (m : MigrationState) :
    u32ToMigrationState (migrationStateToU32 m) = .ok m := by
  cases m <;> rfl

/-- The decoding succeeds exactly on the four codes. -/
theorem u32ToMigrationState_ok_iff (c : Nat) :
    (∃ m, u32ToMigrationState c = .ok m) ↔ c ≤ 3 := by
  match c with
  | 0 | 1 | 2 | 3 => simp [u32ToMigrationState]
  | c + 4 => simp [u32ToMigrationState]

structure VersionTransition where
  fromVersion : Nat
  toVersion : Nat
  migratedBy : Address
  migrationTimestamp : Nat
  success : Bool
  message : String
  deriving DecidableEq, Repr

structure VersionInfo where
  currentVersion : Nat
  migrationCount : Nat
  lastMigrationTime : Nat
  migrationState : Nat
  deriving DecidableEq, Repr

/-- `MAX_VERSION_HISTORY`. -/
def maxVersionHistory : Nat := 100

/-- The reserved keys; `none` is an absent key. -/
structure Keys where
  contractVersion : Option Nat
  contractVersionHistory : Option (List VersionTransition)
  migrationState : Option Nat
  lastMigrationTime : Option Nat
  deriving DecidableEq, Repr

def Keys.empty : Keys := ⟨none, none, none, none⟩

structure Store (σ : Type) where
  keys : Keys
  app : σ
  deriving DecidableEq, Repr

/-- `MigrationHook`: `Fn(&Env) -> Result<(), VersioningError>`. -/
abbrev Hook (σ : Type) := Store σ → Outcome VersioningError Unit (Store σ)

variable {σ : Type}

namespace Store

/-- `set(&MIGRATION_STATE, &(m as u32))`. -/
def setMigrationState (s : Store σ) (m : MigrationState) : Store σ :=
  { s with keys := { s.keys with migrationState := some (migrationStateToU32 m) } }

/-- `set(&CONTRACT_VERSION, &v)`. -/
def setVersion (s : Store σ) (v : Nat) : Store σ :=
  { s with keys := { s.keys with contractVersion := some v } }

@[simp] theorem setMigrationState_keys (s : Store σ) (m : MigrationState) :
    (s.setMigrationState m).keys = { s.keys with migrationState := some (migrationStateToU32 m) } := rfl

@[simp] theorem setMigrationState_app (s : Store σ) (m : MigrationState) :
    (s.setMigrationState m).app = s.app := rfl

@[simp] theorem setVersion_keys (s : Store σ) (v : Nat) :
    (s.setVersion v).keys = { s.keys with contractVersion := some v } := rfl

@[simp] theorem setVersion_app (s : Store σ) (v : Nat) : (s.setVersion v).app = s.app := rfl

end Store

/-- `get(&MIGRATION_STATE).unwrap_or(0)`, as `version_info`, `ensure_compatible` and
    `migrate` read it. -/
def storedMigrationState (s : Store σ) : Nat := s.keys.migrationState.getD 0

/-! ### Hooks that write only the contract's own keys -/

/-- The storage-safety rule of upgradeable.rs: "Application data should use different
    keys to avoid conflicts". -/
def Hook.KeepsReserved (hook : Hook σ) : Prop :=
  ∀ s r s', hook s = .ret r s' → s'.keys = s.keys

/-! ## `VersionManager` -/

namespace VersionManager

/-- `initialize` (a keyword of Lean). -/
def init (host : Host) (initialVersion : Nat) (s : Store σ) :
    Outcome VersioningError Unit (Store σ) :=
  if s.keys.contractVersion.isSome then .ret (.error .notInitialized) s
  else if initialVersion = 0 then .ret (.error .invalidVersionNumber) s
  else .ret (.ok ()) { s with keys :=
    ⟨some initialVersion, some [], some (migrationStateToU32 .none), some host.timestamp⟩ }

def currentVersion (s : Store σ) : Except VersioningError Nat :=
  match s.keys.contractVersion with
  | some v => .ok v
  | none => .error .notInitialized

def versionHistory (s : Store σ) : Except VersioningError (List VersionTransition) :=
  match s.keys.contractVersionHistory with
  | some h => .ok h
  | none => .error .notInitialized

def versionInfo (s : Store σ) : Except VersioningError VersionInfo := do
  let currentVersion ← currentVersion s
  let history ← versionHistory s
  return ⟨currentVersion, history.length, s.keys.lastMigrationTime.getD 0, storedMigrationState s⟩

def ensureCompatible (expectedVersion : Nat) (s : Store σ) : Except VersioningError Unit := do
  let migrationState := storedMigrationState s
  if migrationState = migrationStateToU32 .inProgress then throw .migrationInProgress
  if migrationState = migrationStateToU32 .rollbackRequired then throw .rollbackFailed
  let current ← currentVersion s
  if current ≠ expectedVersion then throw .versionMismatch

def validateVersionUpgrade (current newVersion : Nat) : Except VersioningError Unit :=
  if newVersion ≤ current then .error .invalidVersionNumber else .ok ()

/-- The checks `migrate` makes before it writes anything, in its order. -/
def checkMigration (fromVersion toVersion : Nat) (s : Store σ) : Except VersioningError Unit := do
  validateVersionUpgrade fromVersion toVersion
  let current ← currentVersion s
  if current ≠ fromVersion then throw .versionMismatch
  if storedMigrationState s = migrationStateToU32 .inProgress then throw .migrationInProgress

/-- `pop_back`, `n` times. -/
def popBack {α : Type} : Nat → List α → List α
  | 0, l => l
  | n + 1, l => popBack n l.dropLast

/-- The trim before the prepend: at `MAX_VERSION_HISTORY` entries or more,
    `for _ in new_len..history.len() { history.pop_back(); }` with `new_len = 99`. -/
def trimHistory (history : List VersionTransition) : List VersionTransition :=
  if history.length ≥ maxVersionHistory then
    popBack (history.length - (maxVersionHistory - 1)) history
  else history

/-- The transition a successful migration records. -/
def transition (host : Host) (fromVersion toVersion : Nat) (migrator : Address) :
    VersionTransition :=
  ⟨fromVersion, toVersion, migrator, host.timestamp, true, "Migration successful"⟩

/-- What `migrate` does once the hook succeeded and the new version is written. -/
def recordMigration (host : Host) (fromVersion toVersion : Nat) (migrator : Address)
    (s : Store σ) : Outcome VersioningError Unit (Store σ) :=
  match versionHistory s with
  | .error e => .ret (.error e) s
  | .ok history =>
    .ret (.ok ()) { s with keys := { s.keys with
      contractVersionHistory := some (transition host fromVersion toVersion migrator :: trimHistory history)
      lastMigrationTime := some host.timestamp
      migrationState := some (migrationStateToU32 .complete) } }

def migrate (host : Host) (fromVersion toVersion : Nat) (migrator : Address) (hook : Hook σ)
    (s : Store σ) : Outcome VersioningError Unit (Store σ) :=
  match checkMigration fromVersion toVersion s with
  | .error e => .ret (.error e) s
  | .ok () =>
    match hook (s.setMigrationState .inProgress) with
    | .abort => .abort
    | .ret (.error e) s' => .ret (.error e) (s'.setMigrationState .rollbackRequired)
    | .ret (.ok ()) s' => recordMigration host fromVersion toVersion migrator (s'.setVersion toVersion)

def resetMigrationState (host : Host) (admin : Address) (s : Store σ) :
    Outcome VersioningError Unit (Store σ) :=
  if host.authorizes admin then .ret (.ok ()) (s.setMigrationState .none) else .abort

/-! ### What each entry point writes -/

theorem checkMigration_eq_ok (fromVersion toVersion : Nat) (s : Store σ) :
    checkMigration fromVersion toVersion s = .ok () ↔
      fromVersion < toVersion ∧ s.keys.contractVersion = some fromVersion ∧
        storedMigrationState s ≠ migrationStateToU32 .inProgress := by
  cases h : s.keys.contractVersion <;>
    simp [checkMigration, validateVersionUpgrade, currentVersion, h]

theorem popBack_eq_take {α : Type} (n : Nat) (l : List α) : popBack n l = l.take (l.length - n) := by
  induction n generalizing l with
  | zero => simp [popBack]
  | succ n ih =>
    rw [popBack, ih, List.dropLast_eq_take, List.length_take, List.take_take]
    congr 1
    omega

/-- The `pop_back` loop keeps the 99 newest entries, whatever the history's length. -/
theorem trimHistory_eq_take (history : List VersionTransition) :
    trimHistory history = history.take (maxVersionHistory - 1) := by
  unfold trimHistory
  split
  · rw [popBack_eq_take]; congr 1; simp only [maxVersionHistory] at *; omega
  · rw [List.take_of_length_le]; simp only [maxVersionHistory] at *; omega

theorem init_eq (host : Host) (v : Nat) (s : Store σ) :
    init host v s =
      if s.keys.contractVersion.isSome then .ret (.error .notInitialized) s
      else if v = 0 then .ret (.error .invalidVersionNumber) s
      else .ret (.ok ()) ⟨⟨some v, some [], some 0, some host.timestamp⟩, s.app⟩ := rfl

/-- A migration the checks reject writes nothing and never runs the hook. -/
theorem migrate_of_check_error {fromVersion toVersion : Nat} {s : Store σ} {e : VersioningError}
    (h : checkMigration fromVersion toVersion s = .error e) (host : Host) (migrator : Address)
    (hook : Hook σ) : migrate host fromVersion toVersion migrator hook s = .ret (.error e) s := by
  simp [migrate, h]

theorem migrate_of_check_ok {fromVersion toVersion : Nat} {s : Store σ}
    (h : checkMigration fromVersion toVersion s = .ok ()) (host : Host) (migrator : Address)
    (hook : Hook σ) : migrate host fromVersion toVersion migrator hook s =
      match hook (s.setMigrationState .inProgress) with
      | .abort => .abort
      | .ret (.error e) s' => .ret (.error e) (s'.setMigrationState .rollbackRequired)
      | .ret (.ok ()) s' => recordMigration host fromVersion toVersion migrator (s'.setVersion toVersion) := by
  simp [migrate, h]

theorem recordMigration_of_history {s : Store σ} {history : List VersionTransition}
    (h : s.keys.contractVersionHistory = some history) (host : Host) (fromVersion toVersion : Nat)
    (migrator : Address) : recordMigration host fromVersion toVersion migrator s =
      .ret (.ok ()) { s with keys := { s.keys with
        contractVersionHistory := some (transition host fromVersion toVersion migrator ::
          history.take (maxVersionHistory - 1))
        lastMigrationTime := some host.timestamp
        migrationState := some (migrationStateToU32 .complete) } } := by
  simp [recordMigration, versionHistory, h, trimHistory_eq_take]

/-- The reserved keys after a migration succeeded over history `h`. -/
def migratedKeys (host : Host) (fromVersion toVersion : Nat) (migrator : Address)
    (h : List VersionTransition) : Keys :=
  ⟨some toVersion, some (transition host fromVersion toVersion migrator :: h.take (maxVersionHistory - 1)),
    some (migrationStateToU32 .complete), some host.timestamp⟩

/-- Everything a migration can do to the reserved keys, when its hook writes only the
    contract's own keys and the history is there whenever the version is: it is
    rejected or aborted and leaves them; its hook fails and it only writes
    `RollbackRequired`; or it returns `Ok` and writes `migratedKeys`. -/
theorem migrate_spec {hook : Hook σ} (hk : hook.KeepsReserved) {s : Store σ}
    (hh : s.keys.contractVersion.isSome → s.keys.contractVersionHistory.isSome) (host : Host)
    (fromVersion toVersion : Nat) (migrator : Address) :
    let o := migrate host fromVersion toVersion migrator hook s
    (o.result ≠ some (.ok ()) ∧ (o.after s).keys = s.keys) ∨
    (o.result ≠ some (.ok ()) ∧ checkMigration fromVersion toVersion s = .ok () ∧
      (o.after s).keys = { s.keys with migrationState := some (migrationStateToU32 .rollbackRequired) }) ∨
    (o.result = some (.ok ()) ∧ checkMigration fromVersion toVersion s = .ok () ∧
      ∃ h, s.keys.contractVersionHistory = some h ∧
        (o.after s).keys = migratedKeys host fromVersion toVersion migrator h) := by
  intro o
  cases hc : checkMigration fromVersion toVersion s with
  | error e => exact .inl (by simp [o, migrate_of_check_error hc])
  | ok u =>
    obtain ⟨-, hv, -⟩ := (checkMigration_eq_ok fromVersion toVersion s).1 hc
    obtain ⟨h, hh⟩ := Option.isSome_iff_exists.1 (hh (by simp [hv]))
    cases hr : hook (s.setMigrationState .inProgress) with
    | abort => exact .inl (by simp [o, migrate_of_check_ok hc, hr])
    | ret r s' =>
      have hks : s'.keys = _ := hk _ _ _ hr
      cases r with
      | error e =>
        refine .inr (.inl ⟨by simp [o, migrate_of_check_ok hc, hr], rfl, ?_⟩)
        simp [o, migrate_of_check_ok hc, hr, hks]
      | ok u' =>
        have hh' : (s'.setVersion toVersion).keys.contractVersionHistory = some h := by simp [hks, hh]
        refine .inr (.inr ⟨?_, rfl, h, hh, ?_⟩) <;>
          simp [o, migrate_of_check_ok hc, hr, recordMigration_of_history hh', migratedKeys]

/-- A migration from an initialized store whose hook returns `Ok` and leaves the history
    key `VERS_HIS` as it found it: the new store is the one the hook left, with the target
    version, the new transition in front of the 99 newest old ones, `Complete`, and the
    ledger time. -/
theorem migrate_success (host : Host) {fromVersion toVersion : Nat} (migrator : Address)
    {hook : Hook σ} {s s' : Store σ} {history : List VersionTransition}
    (hv : s.keys.contractVersion = some fromVersion) (hh : s.keys.contractVersionHistory = some history)
    (hlt : fromVersion < toVersion) (hst : storedMigrationState s ≠ migrationStateToU32 .inProgress)
    (hok : hook (s.setMigrationState .inProgress) = .ret (.ok ()) s')
    (hkeep : s'.keys.contractVersionHistory = s.keys.contractVersionHistory) :
    migrate host fromVersion toVersion migrator hook s =
      .ret (.ok ()) ⟨⟨some toVersion, some (transition host fromVersion toVersion migrator ::
        history.take 99), some (migrationStateToU32 .complete), some host.timestamp⟩, s'.app⟩ := by
  have hh' : (s'.setVersion toVersion).keys.contractVersionHistory = some history := by
    simp [hkeep, hh]
  rw [migrate_of_check_ok ((checkMigration_eq_ok fromVersion toVersion s).2 ⟨hlt, hv, hst⟩), hok]
  exact recordMigration_of_history hh' host fromVersion toVersion migrator

theorem migrate_success_at_one :
    let s : Store Unit := ⟨⟨some 1, some [], some 0, some 0⟩, ()⟩
    let host : Host := ⟨7, fun _ => true⟩
    (s.keys.contractVersion = some 1 ∧ s.keys.contractVersionHistory = some [] ∧ 1 < 2 ∧
      storedMigrationState s ≠ migrationStateToU32 .inProgress ∧
      (fun t => .ret (.ok ()) t : Hook Unit) (s.setMigrationState .inProgress) =
        .ret (.ok ()) (s.setMigrationState .inProgress) ∧
      (s.setMigrationState .inProgress).keys.contractVersionHistory = s.keys.contractVersionHistory) ∧
    migrate host 1 2 ⟨0⟩ (fun t => .ret (.ok ()) t) s =
      .ret (.ok ()) ⟨⟨some 2, some (transition host 1 2 ⟨0⟩ :: ([] : List VersionTransition).take 99),
        some (migrationStateToU32 .complete), some host.timestamp⟩, ()⟩ :=
  ⟨⟨rfl, rfl, by decide, by decide, rfl, rfl⟩,
    migrate_success ⟨7, fun _ => true⟩ ⟨0⟩ rfl rfl (by decide) (by decide) rfl rfl⟩

/-- A hook may write the reserved keys too: one that returns `Ok` after clearing
    `VERS_HIS` makes the migration fail with `NotInitialized`, after the new version is
    written. -/
theorem history_clearing_hook :
    let s : Store Unit := ⟨⟨some 1, some [], some 0, some 0⟩, ()⟩
    let hook : Hook Unit := fun t =>
      .ret (.ok ()) { t with keys := { t.keys with contractVersionHistory := none } }
    checkMigration 1 2 s = .ok () ∧
      hook (s.setMigrationState .inProgress) = .ret (.ok ()) ⟨⟨some 1, none, some 1, some 0⟩, ()⟩ ∧
      migrate ⟨7, fun _ => true⟩ 1 2 ⟨0⟩ hook s =
        .ret (.error .notInitialized) ⟨⟨some 2, none, some 1, some 0⟩, ()⟩ :=
  ⟨rfl, rfl, rfl⟩

/-! ### Rejections, in their order -/

/-- The first of `migrate`'s documented checks that fails: the target not above the
    source, no stored version, a stored version other than the source, a migration in
    progress. -/
def migrateRejection (fromVersion toVersion : Nat) (s : Store σ) : Option VersioningError :=
  if toVersion ≤ fromVersion then some .invalidVersionNumber
  else match s.keys.contractVersion with
    | none => some .notInitialized
    | some v =>
      if v ≠ fromVersion then some .versionMismatch
      else if storedMigrationState s = migrationStateToU32 .inProgress then some .migrationInProgress
      else none

/-- The first of `initialize`'s checks that fails: a stored version, then a zero one. -/
def initRejection (initialVersion : Nat) (s : Store σ) : Option VersioningError :=
  if s.keys.contractVersion.isSome then some .notInitialized
  else if initialVersion = 0 then some .invalidVersionNumber
  else none

theorem checkMigration_eq (fromVersion toVersion : Nat) (s : Store σ) :
    checkMigration fromVersion toVersion s =
      match migrateRejection fromVersion toVersion s with
      | some e => .error e
      | none => .ok () := by
  unfold checkMigration migrateRejection validateVersionUpgrade currentVersion
  by_cases h1 : toVersion ≤ fromVersion
  · simp [h1]
  · cases h : s.keys.contractVersion <;> simp [h1, h]
    split_ifs <;> simp_all

/-- `migrate` and `initialize` fail, writing nothing and without running the hook, exactly
    when one of their checks fails, and with the first failing check's error; otherwise
    `migrate` runs the hook on the store marked `InProgress`. -/
theorem rejected_in_order (host : Host) (fromVersion toVersion : Nat) (migrator : Address)
    (hook : Hook σ) (initialVersion : Nat) (s : Store σ) :
    migrate host fromVersion toVersion migrator hook s =
      (match migrateRejection fromVersion toVersion s with
      | some e => .ret (.error e) s
      | none =>
        match hook (s.setMigrationState .inProgress) with
        | .abort => .abort
        | .ret (.error e) s' => .ret (.error e) (s'.setMigrationState .rollbackRequired)
        | .ret (.ok ()) s' =>
          recordMigration host fromVersion toVersion migrator (s'.setVersion toVersion)) ∧
    init host initialVersion s =
      match initRejection initialVersion s with
      | some e => .ret (.error e) s
      | none => .ret (.ok ()) { s with keys :=
          ⟨some initialVersion, some [], some (migrationStateToU32 .none), some host.timestamp⟩ } := by
  constructor
  · unfold migrate
    rw [checkMigration_eq]
    cases migrateRejection fromVersion toVersion s <;> rfl
  · unfold init initRejection
    split_ifs <;> rfl

/-! ### A failed hook -/

theorem ensureCompatible_rollbackRequired (expectedVersion : Nat) {s : Store σ}
    (h : storedMigrationState s = migrationStateToU32 .rollbackRequired) :
    ensureCompatible expectedVersion s = .error .rollbackFailed := by
  simp [ensureCompatible, h, migrationStateToU32]

theorem ensureCompatible_eq_ok (expectedVersion : Nat) {s : Store σ}
    (h : storedMigrationState s = migrationStateToU32 .none)
    (hv : s.keys.contractVersion = some expectedVersion) :
    ensureCompatible expectedVersion s = .ok () := by
  simp [ensureCompatible, currentVersion, h, hv, migrationStateToU32]

/-- A migration whose checks pass and whose hook returns `Err(e)`, having written only the
    contract's own keys, returns `Err(e)` and writes only `RollbackRequired`; every
    `ensure_compatible` then fails with `RollbackFailed`, until `reset_migration_state`,
    after which the source version is compatible again. -/
theorem failed_hook_rolls_back (host : Host) {fromVersion toVersion : Nat} (migrator : Address)
    {hook : Hook σ} {s s' : Store σ} {e : VersioningError}
    (hv : s.keys.contractVersion = some fromVersion) (hft : fromVersion < toVersion)
    (hst : storedMigrationState s ≠ migrationStateToU32 .inProgress)
    (hhook : hook (s.setMigrationState .inProgress) = .ret (.error e) s')
    (hkeys : s'.keys = (s.setMigrationState .inProgress).keys) :
    let o := migrate host fromVersion toVersion migrator hook s
    o.result = some (.error e) ∧
      (o.after s).keys = { s.keys with
        migrationState := some (migrationStateToU32 .rollbackRequired) } ∧
      (∀ v, ensureCompatible v (o.after s) = .error .rollbackFailed) ∧
      ∀ (host' : Host) (admin : Address), host'.authorizes admin →
        ensureCompatible fromVersion ((resetMigrationState host' admin (o.after s)).after (o.after s))
          = .ok () := by
  have hc : checkMigration fromVersion toVersion s = .ok () :=
    (checkMigration_eq_ok fromVersion toVersion s).2 ⟨hft, hv, hst⟩
  have hm : migrate host fromVersion toVersion migrator hook s =
      .ret (.error e) (s'.setMigrationState .rollbackRequired) := by
    rw [migrate_of_check_ok hc, hhook]
  have hk : (s'.setMigrationState .rollbackRequired).keys = { s.keys with
      migrationState := some (migrationStateToU32 .rollbackRequired) } := by
    simp [hkeys]
  refine ⟨by rw [hm]; rfl, by rw [hm]; exact hk, fun v => ?_, fun host' admin ha => ?_⟩
  · rw [hm]
    exact ensureCompatible_rollbackRequired v (by simp [storedMigrationState, hk])
  · rw [hm]
    simp only [Outcome.after_ret, resetMigrationState, ha, if_true]
    exact ensureCompatible_eq_ok fromVersion (by simp [storedMigrationState])
      (by simp [hkeys, hv])

theorem failed_hook_rolls_back_at_one :
    let s : Store Unit := ⟨⟨some 1, some [], some 0, some 0⟩, ()⟩
    let hook : Hook Unit := fun s => .ret (.error .migrationHookFailed) s
    let host : Host := ⟨0, fun _ => true⟩
    let o := migrate host 1 2 ⟨0⟩ hook s
    (s.keys.contractVersion = some 1 ∧ 1 < 2 ∧
      storedMigrationState s ≠ migrationStateToU32 .inProgress ∧
      hook (s.setMigrationState .inProgress) =
        .ret (.error .migrationHookFailed) (s.setMigrationState .inProgress) ∧
      (s.setMigrationState .inProgress).keys = (s.setMigrationState .inProgress).keys) ∧
    (o.result = some (.error .migrationHookFailed) ∧
      (o.after s).keys = { s.keys with
        migrationState := some (migrationStateToU32 .rollbackRequired) } ∧
      (∀ v, ensureCompatible v (o.after s) = .error .rollbackFailed) ∧
      ∀ (host' : Host) (admin : Address), host'.authorizes admin →
        ensureCompatible 1 ((resetMigrationState host' admin (o.after s)).after (o.after s))
          = .ok ()) :=
  ⟨⟨rfl, by decide, by decide, rfl, rfl⟩,
    failed_hook_rolls_back ⟨0, fun _ => true⟩ ⟨0⟩ rfl (by decide) (by decide) rfl rfl⟩

end VersionManager

/-! ## `UpgradeableContract` and the hook helpers -/

namespace UpgradeableContract

/-- `initialize`: the engine's, at version 1. -/
def init (host : Host) (s : Store σ) : Outcome VersioningError Unit (Store σ) :=
  VersionManager.init host 1 s

def initializeWithVersion (host : Host) (version : Nat) (s : Store σ) :
    Outcome VersioningError Unit (Store σ) :=
  VersionManager.init host version s

def ensureVersionCompatible (expectedVersion : Nat) (s : Store σ) : Except VersioningError Unit :=
  VersionManager.ensureCompatible expectedVersion s

def upgrade (host : Host) (currentVersion newVersion : Nat) (migrator : Address) (hook : Hook σ)
    (s : Store σ) : Outcome VersioningError Unit (Store σ) :=
  VersionManager.migrate host currentVersion newVersion migrator hook s

def currentVersion (s : Store σ) : Except VersioningError Nat := VersionManager.currentVersion s

def versionInfo (s : Store σ) : Except VersioningError VersionInfo := VersionManager.versionInfo s

def versionHistory (s : Store σ) : Except VersioningError (List VersionTransition) :=
  VersionManager.versionHistory s

def resetMigrationState (host : Host) (admin : Address) (s : Store σ) :
    Outcome VersioningError Unit (Store σ) :=
  VersionManager.resetMigrationState host admin s

end UpgradeableContract

def defaultMigrationHook : Hook σ := fun s => .ret (.ok ()) s

theorem defaultMigrationHook_keepsReserved : (defaultMigrationHook : Hook σ).KeepsReserved := by
  rintro s r s' ⟨⟩
  rfl

/-- The description is not used: the hook only documents the pattern. -/
def loggedMigrationHook (_description : String) : Hook σ := fun s => .ret (.ok ()) s

def composeHooks (first second : Hook σ) : Hook σ := fun s =>
  match first s with
  | .ret (.ok ()) s' => second s'
  | o => o

theorem composeHooks_defaultMigrationHook (hook : Hook σ) :
    composeHooks defaultMigrationHook hook = hook := rfl

/-- `composeHooks` stops at the first hook that errs or aborts. -/
theorem composeHooks_of_not_ok {first : Hook σ} {s : Store σ}
    (h : ∀ s', first s ≠ .ret (.ok ()) s') (second : Hook σ) :
    composeHooks first second s = first s := by
  unfold composeHooks
  split
  · exact absurd ‹_› (h _)
  · rfl

end StellarInsured.Versioning
