import StellarInsured.Versioning.Manager
import Mathlib.Data.List.Chain

/-
  StellarInsured.Versioning.Runs — the versioning store over whole runs: any sequence
  of calls into `VersionManager` (the `UpgradeableContract` calls are the same calls)
  from a contract's empty storage, each at its own ledger time, with hooks that write
  only the contract's own keys.

  Proved, over every reachable state and every run:
  - `reachable_inv`: version, history and last-migration time are present together,
    and the migration state with them; the version is positive; the state code
    decodes; the history has at most 100 entries, each successful and forward,
    chained newest to oldest, the newest ending at the stored version and stamped with
    the last-migration time.
  - `version_step`: no step lowers the version; it changes only by a `migrate` that
    returns `Ok`, to that call's target, above the old version.
  - `history_law`: after `initialize(v0)`, the history is the transitions of the
    migrations that returned `Ok`, newest first: the 100 newest of them.
  - `reentrant_calls_rejected`: a hook runs on the store with `InProgress` written;
    whatever it writes to the contract's own keys and calls, short of
    `reset_migration_state`, the reserved keys stay as they are, `ensure_compatible`
    answers `MigrationInProgress` and a nested `migrate` returns an error.
  As built, `migrate` refuses `InProgress` only:
  - `migrate_lifts_rollback_freeze`: a contract frozen by a failed hook at version 1
    migrates to 2 with a hook that succeeds, back to `Complete`, with no reset.
-/

namespace StellarInsured.Versioning

open VersionManager

variable {σ : Type}

inductive Call (σ : Type) where
  | init (initialVersion : Nat)
  | currentVersion
  | versionInfo
  | versionHistory
  | ensureCompatible (expectedVersion : Nat)
  | migrate (fromVersion toVersion : Nat) (migrator : Address) (hook : Hook σ)
  | resetMigrationState (admin : Address)

namespace Call

/-- The storage a call leaves, run from `s`; the queries and `ensure_compatible` only
    read. -/
def apply (host : Host) : Call σ → Store σ → Store σ
  | init v, s => (VersionManager.init host v s).after s
  | migrate f t m hook, s => (VersionManager.migrate host f t m hook s).after s
  | resetMigrationState admin, s => (VersionManager.resetMigrationState host admin s).after s
  | currentVersion, s | versionInfo, s | versionHistory, s | ensureCompatible _, s => s

def WellFormed : Call σ → Prop
  | migrate _ _ _ hook => hook.KeepsReserved
  | _ => True

/-- The transition a call records: a migration's, when it returns `Ok`. -/
def recorded (host : Host) : Call σ → Store σ → List VersionTransition
  | migrate f t m hook, s =>
    if (VersionManager.migrate host f t m hook s).result = some (.ok ()) then [transition host f t m]
    else []
  | _, _ => []

end Call

def empty (a : σ) : Store σ := ⟨Keys.empty, a⟩

/-- The contract's own keys start anywhere. -/
inductive Reachable : Store σ → Prop
  | empty (a : σ) : Reachable (empty a)
  | step {s : Store σ} (host : Host) (c : Call σ) : c.WellFormed → Reachable s →
      Reachable (c.apply host s)

/-- A run: calls, each with the host of its invocation. -/
def exec : Store σ → List (Host × Call σ) → Store σ
  | s, [] => s
  | s, (host, c) :: run => exec (c.apply host s) run

/-- The transitions a run's migrations returning `Ok` recorded, oldest first. -/
def recorded : Store σ → List (Host × Call σ) → List VersionTransition
  | _, [] => []
  | s, (host, c) :: run => c.recorded host s ++ recorded (c.apply host s) run

theorem reachable_exec {s : Store σ} (hs : Reachable s) (run : List (Host × Call σ))
    (hwf : ∀ p ∈ run, p.2.WellFormed) : Reachable (exec s run) := by
  induction run generalizing s with
  | nil => exact hs
  | cons p run ih =>
    exact ih (.step p.1 p.2 (hwf p (List.mem_cons_self _ _)) hs) fun q hq =>
      hwf q (List.mem_cons_of_mem _ hq)

/-! ## The invariant -/

structure HistoryOk (history : List VersionTransition) : Prop where
  length_le : history.length ≤ maxVersionHistory
  forward : ∀ t ∈ history, t.success = true ∧ t.fromVersion < t.toVersion
  /-- Each entry starts where the one before it (older) ended. -/
  chain : history.Chain' fun newer older => newer.fromVersion = older.toVersion

structure Inv (k : Keys) : Prop where
  history_isSome : k.contractVersionHistory.isSome = k.contractVersion.isSome
  time_isSome : k.lastMigrationTime.isSome = k.contractVersion.isSome
  state_isSome : k.contractVersion.isSome → k.migrationState.isSome
  version_pos : ∀ v, k.contractVersion = some v → 0 < v
  state_decodes : ∀ c, k.migrationState = some c → ∃ m, u32ToMigrationState c = .ok m
  history_ok : ∀ h, k.contractVersionHistory = some h → HistoryOk h
  newest : ∀ t h, k.contractVersionHistory = some (t :: h) →
    k.contractVersion = some t.toVersion ∧ k.lastMigrationTime = some t.migrationTimestamp

theorem inv_empty : Inv Keys.empty := by
  constructor <;> simp [Keys.empty]

theorem inv_fresh {v : Nat} (hv : v ≠ 0) (time : Nat) :
    Inv ⟨some v, some [], some (migrationStateToU32 .none), some time⟩ where
  history_isSome := rfl
  time_isSome := rfl
  state_isSome _ := rfl
  version_pos _ h := by cases h; omega
  state_decodes _ h := ⟨.none, by cases h; rfl⟩
  history_ok _ h := by cases h; exact ⟨by simp, by simp, List.chain'_nil⟩
  newest _ _ h := by cases h

theorem inv_setState {k : Keys} (hi : Inv k) (m : MigrationState) :
    Inv { k with migrationState := some (migrationStateToU32 m) } where
  history_isSome := hi.history_isSome
  time_isSome := hi.time_isSome
  state_isSome _ := rfl
  version_pos := hi.version_pos
  state_decodes _ h := ⟨m, by cases h; exact u32ToMigrationState_toU32 m⟩
  history_ok := hi.history_ok
  newest := hi.newest

theorem inv_migrated {k : Keys} (hi : Inv k) {host : Host} {f t : Nat} {m : Address}
    {h : List VersionTransition} (hv : k.contractVersion = some f) (hft : f < t)
    (hh : k.contractVersionHistory = some h) : Inv (migratedKeys host f t m h) where
  history_isSome := rfl
  time_isSome := rfl
  state_isSome _ := rfl
  version_pos _ h := by cases h; omega
  state_decodes _ h := ⟨.complete, by cases h; rfl⟩
  history_ok _ h' := by
    cases h'
    have ho := hi.history_ok h hh
    refine ⟨?_, fun x hx => ?_, (ho.chain.take _).cons' fun y hy => ?_⟩
    · simp only [List.length_cons, List.length_take, maxVersionHistory]; omega
    · rcases List.mem_cons.1 hx with rfl | hx
      · exact ⟨rfl, hft⟩
      · exact ho.forward x (List.mem_of_mem_take hx)
    · cases h with
      | nil => simp at hy
      | cons t0 rest =>
        have hy : y = t0 := by simpa [List.head?_take, maxVersionHistory] using hy.symm
        have := (hi.newest t0 rest hh).1
        rw [hv] at this
        rw [hy]
        exact Option.some.inj this
  newest _ _ h := by cases h; exact ⟨rfl, rfl⟩

theorem init_of_initialized {s : Store σ} {v : Nat} (h : s.keys.contractVersion = some v)
    (host : Host) (v0 : Nat) : (VersionManager.init host v0 s).after s = s := by
  simp [init_eq, h]

/-- One call keeps the invariant. -/
theorem apply_inv {s : Store σ} (hi : Inv s.keys) (host : Host) {c : Call σ} (hc : c.WellFormed) :
    Inv (c.apply host s).keys := by
  cases c with
  | init v =>
    show Inv ((VersionManager.init host v s).after s).keys
    rw [init_eq]
    split_ifs with h1 h2
    · exact hi
    · exact hi
    · exact inv_fresh h2 _
  | migrate f t m hook =>
    show Inv ((VersionManager.migrate host f t m hook s).after s).keys
    rcases migrate_spec hc (fun h => by rw [hi.history_isSome]; exact h) host f t m with
      ⟨-, hk⟩ | ⟨-, -, hk⟩ | ⟨-, hck, h, hh, hk⟩ <;> rw [hk]
    · exact hi
    · exact inv_setState hi .rollbackRequired
    · obtain ⟨hft, hv, -⟩ := (checkMigration_eq_ok f t s).1 hck
      exact inv_migrated hi hv hft hh
  | resetMigrationState admin =>
    show Inv ((VersionManager.resetMigrationState host admin s).after s).keys
    unfold VersionManager.resetMigrationState
    split
    · exact inv_setState hi .none
    · exact hi
  | currentVersion | versionInfo | versionHistory | ensureCompatible _ => exact hi

theorem reachable_inv {s : Store σ} (h : Reachable s) : Inv s.keys := by
  induction h with
  | empty a => exact inv_empty
  | step host c hc _ ih => exact apply_inv ih host hc

/-- A contract initialized at version 1 and migrated to 2 with the default hook. -/
theorem migrated_reachable :
    Reachable (exec (empty ()) [(⟨0, fun _ => true⟩, .init 1),
      (⟨0, fun _ => true⟩, .migrate 1 2 ⟨0⟩ defaultMigrationHook)]) := by
  refine reachable_exec (.empty ()) _ ?_
  simp only [List.mem_cons, List.mem_singleton, List.not_mem_nil, or_false]
  rintro p (rfl | rfl)
  · trivial
  · exact defaultMigrationHook_keepsReserved

theorem inv_after_migration :
    let s := exec (empty ()) [(⟨0, fun _ => true⟩, .init 1),
      (⟨0, fun _ => true⟩, .migrate 1 2 ⟨0⟩ defaultMigrationHook)]
    Reachable s ∧ Inv s.keys :=
  ⟨migrated_reachable, reachable_inv migrated_reachable⟩

/-! ## The version only moves forward -/

theorem version_step {s : Store σ} (hs : Reachable s) (host : Host) {c : Call σ}
    (hc : c.WellFormed) :
    (∀ v, s.keys.contractVersion = some v →
      ∃ v', (c.apply host s).keys.contractVersion = some v' ∧ v ≤ v' ∧
        (v' ≠ v → ∃ f t m hook, c = .migrate f t m hook ∧
          (VersionManager.migrate host f t m hook s).result = some (.ok ()))) ∧
    (∀ f t m hook, c = .migrate f t m hook →
      (VersionManager.migrate host f t m hook s).result = some (.ok ()) →
      ∃ v, s.keys.contractVersion = some v ∧ (c.apply host s).keys.contractVersion = some t ∧ v < t) := by
  have hi := reachable_inv hs
  cases c with
  | migrate f t m hook =>
    simp only [Call.apply]
    rcases migrate_spec hc (fun h => by rw [hi.history_isSome]; exact h) host f t m with
      ⟨hr, hk⟩ | ⟨hr, -, hk⟩ | ⟨hr, hck, h, -, hk⟩
    -- a refused or failed migration keeps the version
    iterate 2
      refine ⟨fun v hv => ⟨v, by rw [hk, hv], le_rfl, fun h => absurd rfl h⟩, ?_⟩
      rintro f t m hook ⟨⟩ hr'
      exact absurd hr' hr
    · obtain ⟨hft, hv, -⟩ := (checkMigration_eq_ok f t s).1 hck
      refine ⟨fun v hv' => ?_, ?_⟩
      · rw [hv] at hv'
        cases hv'
        exact ⟨t, by rw [hk]; rfl, hft.le, fun _ => ⟨f, t, m, hook, rfl, hr⟩⟩
      · rintro f' t' m' hook' ⟨⟩ -
        exact ⟨f, hv, by rw [hk]; rfl, hft⟩
  | init v0 =>
    refine ⟨fun v hv => ⟨v, ?_, le_rfl, fun h => absurd rfl h⟩, fun _ _ _ _ h => by cases h⟩
    show ((VersionManager.init host v0 s).after s).keys.contractVersion = _
    rw [init_of_initialized hv]; exact hv
  | resetMigrationState admin =>
    refine ⟨fun v hv => ⟨v, ?_, le_rfl, fun h => absurd rfl h⟩, fun _ _ _ _ h => by cases h⟩
    show ((VersionManager.resetMigrationState host admin s).after s).keys.contractVersion = _
    unfold VersionManager.resetMigrationState
    split <;> simpa using hv
  | currentVersion | versionInfo | versionHistory | ensureCompatible _ =>
    exact ⟨fun v hv => ⟨v, hv, le_rfl, fun h => absurd rfl h⟩, fun _ _ _ _ h => by cases h⟩

theorem version_step_after_migration :
    let host : Host := ⟨0, fun _ => true⟩
    let s := exec (empty ()) [(host, .init 1), (host, .migrate 1 2 ⟨0⟩ defaultMigrationHook)]
    let c : Call Unit := .migrate 2 3 ⟨0⟩ defaultMigrationHook
    Reachable s ∧ c.WellFormed ∧
      (∀ v, s.keys.contractVersion = some v →
        ∃ v', (c.apply host s).keys.contractVersion = some v' ∧ v ≤ v' ∧
          (v' ≠ v → ∃ f t m hook, c = .migrate f t m hook ∧
            (VersionManager.migrate host f t m hook s).result = some (.ok ()))) ∧
      (∀ f t m hook, c = .migrate f t m hook →
        (VersionManager.migrate host f t m hook s).result = some (.ok ()) →
        ∃ v, s.keys.contractVersion = some v ∧ (c.apply host s).keys.contractVersion = some t ∧
          v < t) :=
  ⟨migrated_reachable, defaultMigrationHook_keepsReserved,
    version_step migrated_reachable _ defaultMigrationHook_keepsReserved⟩

/-! ## The history law -/

theorem take_append_take {α : Type} (n : Nat) (xs ys : List α) :
    (xs ++ ys.take n).take n = (xs ++ ys).take n := by
  rw [List.take_append_eq_append_take, List.take_append_eq_append_take, List.take_take]
  congr 2
  omega

/-- One call's effect on the history: its recorded transition, if any, goes in
    front, and the 100 newest stay. -/
theorem history_step {s : Store σ} (hi : Inv s.keys) {h : List VersionTransition}
    (hh : s.keys.contractVersionHistory = some h) (host : Host) {c : Call σ} (hc : c.WellFormed) :
    (c.apply host s).keys.contractVersionHistory =
      some (((c.recorded host s).reverse ++ h).take maxVersionHistory) := by
  have hlen : h.take maxVersionHistory = h := List.take_of_length_le (hi.history_ok h hh).length_le
  cases c with
  | migrate f t m hook =>
    show ((VersionManager.migrate host f t m hook s).after s).keys.contractVersionHistory = _
    simp only [Call.recorded]
    rcases migrate_spec hc (fun h => by rw [hi.history_isSome]; exact h) host f t m with
      ⟨hr, hk⟩ | ⟨hr, -, hk⟩ | ⟨hr, -, h', hh', hk⟩
    · rw [hk, if_neg hr, hh]; simp [hlen]
    · rw [hk, if_neg hr, hh]; simp [hlen]
    · rw [hh] at hh'
      cases hh'
      rw [hk, if_pos hr]
      rfl
  | init v0 =>
    have hv : s.keys.contractVersion.isSome := by rw [← hi.history_isSome, hh]; rfl
    obtain ⟨v, hv⟩ := Option.isSome_iff_exists.1 hv
    show ((VersionManager.init host v0 s).after s).keys.contractVersionHistory = _
    rw [init_of_initialized hv, hh]; simp [Call.recorded, hlen]
  | resetMigrationState admin =>
    show ((VersionManager.resetMigrationState host admin s).after s).keys.contractVersionHistory = _
    unfold VersionManager.resetMigrationState
    split <;> simp [Call.recorded, hh, hlen]
  | currentVersion | versionInfo | versionHistory | ensureCompatible _ =>
    simp [Call.apply, Call.recorded, hh, hlen]

theorem history_exec {s : Store σ} (hi : Inv s.keys) {h : List VersionTransition}
    (hh : s.keys.contractVersionHistory = some h) (run : List (Host × Call σ))
    (hwf : ∀ p ∈ run, p.2.WellFormed) :
    versionHistory (exec s run) = .ok (((recorded s run).reverse ++ h).take maxVersionHistory) := by
  induction run generalizing s h with
  | nil => simp [exec, recorded, versionHistory, hh, List.take_of_length_le (hi.history_ok h hh).length_le]
  | cons p run ih =>
    have hp := hwf p (List.mem_cons_self _ _)
    rw [exec, recorded, ih (apply_inv hi p.1 hp) (history_step hi hh p.1 hp)
      fun q hq => hwf q (List.mem_cons_of_mem _ hq), take_append_take]
    simp

/-- After `initialize(v0)`, the history lists the transitions of the migrations that
    returned `Ok`, newest first, the 100 newest of them. -/
theorem history_law (host0 : Host) {v0 : Nat} (hv0 : 0 < v0) (a : σ) (run : List (Host × Call σ))
    (hwf : ∀ p ∈ run, p.2.WellFormed) :
    let s0 := (VersionManager.init host0 v0 (empty a)).after (empty a)
    versionHistory (exec s0 run) = .ok ((recorded s0 run).reverse.take maxVersionHistory) := by
  intro s0
  have hk : s0.keys = ⟨some v0, some [], some (migrationStateToU32 .none), some host0.timestamp⟩ := by
    simp [s0, init_eq, empty, Keys.empty, hv0.ne']; rfl
  have := history_exec (s := s0) (h := []) (by rw [hk]; exact inv_fresh hv0.ne' _) (by rw [hk]) run hwf
  simpa using this

theorem history_law_two_migrations :
    let host : Host := ⟨0, fun _ => true⟩
    let run : List (Host × Call Unit) := [(host, .migrate 1 2 ⟨0⟩ defaultMigrationHook),
      (host, .migrate 2 3 ⟨0⟩ defaultMigrationHook)]
    0 < 1 ∧ (∀ p ∈ run, p.2.WellFormed) ∧
      let s0 := (VersionManager.init host 1 (empty ())).after (empty ())
      versionHistory (exec s0 run) = .ok ((recorded s0 run).reverse.take maxVersionHistory) := by
  intro host run
  have hwf : ∀ p ∈ run, p.2.WellFormed := by
    simp only [run, List.mem_cons, List.mem_singleton, List.not_mem_nil, or_false]
    rintro p (rfl | rfl) <;> exact defaultMigrationHook_keepsReserved
  exact ⟨Nat.one_pos, hwf, history_law host Nat.one_pos () run hwf⟩

/-! ## As built: a failed hook's freeze is lifted by the next migration -/

theorem migrate_lifts_rollback_freeze :
    let host : Host := ⟨0, fun _ => true⟩
    let frozen := exec (empty ()) [(host, .init 1),
      (host, .migrate 1 2 ⟨0⟩ fun s => .ret (.error .migrationHookFailed) s)]
    Reachable frozen ∧
      frozen.keys.migrationState = some (migrationStateToU32 .rollbackRequired) ∧
      frozen.keys.contractVersion = some 1 ∧
      (VersionManager.migrate host 1 2 ⟨0⟩ defaultMigrationHook frozen).result = some (.ok ()) ∧
      ((Call.migrate 1 2 ⟨0⟩ defaultMigrationHook).apply host frozen).keys.migrationState =
        some (migrationStateToU32 .complete) ∧
      ((Call.migrate 1 2 ⟨0⟩ defaultMigrationHook).apply host frozen).keys.contractVersion = some 2 := by
  refine ⟨reachable_exec (.empty ()) _ ?_, rfl, rfl, rfl, rfl, rfl⟩
  simp only [List.mem_cons, List.mem_singleton, List.not_mem_nil, or_false]
  rintro p (rfl | rfl)
  · trivial
  · intro s r s' h
    cases h
    rfl

/-! ## Calls a hook makes -/

/-- The stores a hook can reach from `t`, the store `migrate` hands it: writes to the
    contract's own keys, and calls into `VersionManager` other than
    `reset_migration_state`, each under the host of its own invocation. -/
inductive HookReach (t : Store σ) : Store σ → Prop
  | start : HookReach t t
  | call {u : Store σ} (host : Host) (c : Call σ) :
      (∀ admin, c ≠ .resetMigrationState admin) → HookReach t u → HookReach t (c.apply host u)
  | write {u : Store σ} (f : σ → σ) : HookReach t u → HookReach t ⟨u.keys, f u.app⟩

section InProgress

variable {u : Store σ} (hu : storedMigrationState u = migrationStateToU32 .inProgress)
include hu

theorem ensureCompatible_of_inProgress (v : Nat) :
    VersionManager.ensureCompatible v u = .error .migrationInProgress := by
  simp [VersionManager.ensureCompatible, hu]

theorem migrate_of_inProgress (host : Host) (f t : Nat) (m : Address) (hook : Hook σ) :
    ∃ e, VersionManager.migrate host f t m hook u = .ret (.error e) u := by
  cases h : checkMigration f t u with
  | error e => exact ⟨e, migrate_of_check_error h host m hook⟩
  | ok a => exact absurd hu ((checkMigration_eq_ok f t u).1 h).2.2

/-- While a migration is in progress every call but `reset_migration_state` leaves an
    initialized store as it is. -/
theorem apply_of_inProgress {v : Nat} (hv : u.keys.contractVersion = some v) (host : Host)
    {c : Call σ} (hc : ∀ admin, c ≠ .resetMigrationState admin) : c.apply host u = u := by
  cases c with
  | init v0 => exact init_of_initialized hv host v0
  | migrate f t m hook =>
    obtain ⟨e, he⟩ := migrate_of_inProgress hu host f t m hook
    simp [Call.apply, he]
  | resetMigrationState admin => exact absurd rfl (hc admin)
  | currentVersion | versionInfo | versionHistory | ensureCompatible _ => rfl

end InProgress

theorem storedMigrationState_congr {t u : Store σ} (h : u.keys = t.keys) :
    storedMigrationState u = storedMigrationState t := by
  simp only [storedMigrationState, h]

theorem hookReach_keys {t u : Store σ} (h : HookReach t u)
    (ht : storedMigrationState t = migrationStateToU32 .inProgress) {v : Nat}
    (hv : t.keys.contractVersion = some v) : u.keys = t.keys := by
  induction h with
  | start => rfl
  | call host c hc _ ih =>
    rw [apply_of_inProgress ((storedMigrationState_congr ih).trans ht) (by rw [ih]; exact hv) host hc,
      ih]
  | write f _ ih => exact ih

/-- A migration past its checks runs its hook on the store with `InProgress` written, and
    on nothing else. Whatever the hook then writes to the contract's own keys and
    whatever it calls, short of `reset_migration_state`, the reserved keys stay as
    `migrate` wrote them: every `ensure_compatible` returns `MigrationInProgress` and
    every nested `migrate` returns an error and writes nothing. -/
theorem reentrant_calls_rejected (host : Host) {fromVersion toVersion : Nat} (migrator : Address)
    {s : Store σ} (hc : checkMigration fromVersion toVersion s = .ok ()) :
    let t := s.setMigrationState .inProgress
    (∀ hook hook' : Hook σ, hook' t = hook t →
      VersionManager.migrate host fromVersion toVersion migrator hook' s =
        VersionManager.migrate host fromVersion toVersion migrator hook s) ∧
    ∀ u, HookReach t u → storedMigrationState u = migrationStateToU32 .inProgress ∧
      u.keys = t.keys ∧ (∀ v, VersionManager.ensureCompatible v u = .error .migrationInProgress) ∧
      ∀ host' f₁ t₁ m₁ (hook : Hook σ),
        ∃ e, VersionManager.migrate host' f₁ t₁ m₁ hook u = .ret (.error e) u := by
  intro t
  have hv := ((checkMigration_eq_ok fromVersion toVersion s).1 hc).2.1
  refine ⟨fun hook hook' h => by rw [migrate_of_check_ok hc, migrate_of_check_ok hc, h], fun u hr => ?_⟩
  have hk := hookReach_keys hr rfl hv
  have hu : storedMigrationState u = migrationStateToU32 .inProgress :=
    (storedMigrationState_congr hk).trans rfl
  exact ⟨hu, hk, ensureCompatible_of_inProgress hu, migrate_of_inProgress hu⟩

theorem reentrant_calls_rejected_at_one :
    let s : Store Unit := ⟨⟨some 1, some [], some 0, some 0⟩, ()⟩
    checkMigration 1 2 s = .ok () ∧
      let t := s.setMigrationState .inProgress
      (∀ hook hook' : Hook Unit, hook' t = hook t →
        VersionManager.migrate ⟨0, fun _ => true⟩ 1 2 ⟨0⟩ hook' s =
          VersionManager.migrate ⟨0, fun _ => true⟩ 1 2 ⟨0⟩ hook s) ∧
      ∀ u, HookReach t u → storedMigrationState u = migrationStateToU32 .inProgress ∧
        u.keys = t.keys ∧ (∀ v, VersionManager.ensureCompatible v u = .error .migrationInProgress) ∧
        ∀ host' f₁ t₁ m₁ (hook : Hook Unit),
          ∃ e, VersionManager.migrate host' f₁ t₁ m₁ hook u = .ret (.error e) u :=
  ⟨rfl, reentrant_calls_rejected ⟨0, fun _ => true⟩ ⟨0⟩ rfl⟩

end StellarInsured.Versioning
