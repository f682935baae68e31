import Mathlib.Data.List.Basic
import StellarInsured.Host

/-
  StellarInsured.EmergencyPause.Pause — `EmergencyPause` (shared/src/emergency_pause.rs):
  the global emergency pause, the selectively paused functions and the pause history,
  kept under `EMG_PAUSED` and `EMG_HISTORY`. `SEL_PAUSE` is declared and never used; a
  `Symbol` is its text; what the functions publish with `env.events()` is not stored
  and is left out.

  Like `VersionManager`, the module is a library: a contract calls its functions, and an
  `Err` keeps the writes made before it (`Outcome.after`).

  Proved:
  - `addPausedFunctions_eq`: `pause_functions`' nested loop appends the names of `fs` not
    already paused, in first-occurrence order, its inner loop seeing the names it pushed;
  - `removePausedFunctions_eq`: `unpause_functions` keeps the paused names not in `fs`;
  - `recordPauseEvent_history`: `record_pause_event` keeps the last 100 events;
  - `getPauseHistory_eq`: `get_pause_history(limit)` is the last `limit` events, oldest first.
-/

namespace StellarInsured.EmergencyPause

/-- The variants of the shared `ContractError` (shared/src/errors.rs) the module returns. -/
inductive ContractError where
  | paused
  | invalidState
  | notInitialized
  | alreadyInitialized
  | functionPaused
  deriving DecidableEq, Repr

structure EmergencyPauseConfig where
  isEmergencyPaused : Bool
  pauseReason : String
  pauseTimestamp : Nat
  pausedBy : Address
  pausedFunctions : List String
  maxDurationSeconds : Nat
  deriving DecidableEq, Repr

structure EmergencyPauseEvent where
  action : String
  actor : Address
  reason : String
  timestamp : Nat
  affectedFunctions : List String
  deriving DecidableEq, Repr

/-- The module's storage. -/
structure State where
  /-- `EMG_PAUSED`. -/
  config : Option EmergencyPauseConfig
  /-- `EMG_HISTORY`. -/
  history : Option (List EmergencyPauseEvent)

/-- The config `is_function_paused` reads when none is stored; its `paused_by` is the
    all-zero account `GAAAA…WHF`, address 0 here. -/
def unsetConfig : EmergencyPauseConfig := ⟨false, "not_paused", 0, ⟨0⟩, [], 0⟩

/-- `initialize` (a keyword of Lean). -/
def init (admin : Address) (s : State) : Outcome ContractError Unit State :=
  if s.config.isSome then .ret (.error .alreadyInitialized) s
  else .ret (.ok ()) { s with config := some ⟨false, "not_paused", 0, admin, [], 0⟩ }

def isEmergencyPaused (s : State) : Bool := (s.config.map (·.isEmergencyPaused)).getD false

def isFunctionPaused (s : State) (functionName : String) : Bool :=
  let config := s.config.getD unsetConfig
  config.isEmergencyPaused || config.pausedFunctions.any (· == functionName)

/-- `record_pause_event`: the event pushed, then only the last 100 kept. -/
def recordPauseEvent (host : Host) (action : String) (actor : Address) (reason : String)
    (affectedFunctions : List String) (s : State) : State :=
  let event : EmergencyPauseEvent := ⟨action, actor, reason, host.timestamp, affectedFunctions⟩
  let history := s.history.getD [] ++ [event]
  let history := if history.length > 100 then history.drop (history.length - 100) else history
  { s with history := some history }

def activateEmergencyPause (host : Host) (admin : Address) (reason : String)
    (maxDurationSeconds : Nat) (s : State) : Outcome ContractError Unit State :=
  authorized host admin <|
    match s.config with
    | none => .ret (.error .notInitialized) s
    | some config =>
      if config.isEmergencyPaused then .ret (.error .invalidState) s
      else .ret (.ok ()) (recordPauseEvent host "emergency_pause" admin reason []
        { s with config := some { config with
            isEmergencyPaused := true
            pauseReason := reason
            pauseTimestamp := host.timestamp
            pausedBy := admin
            maxDurationSeconds := maxDurationSeconds
            pausedFunctions := [] } })

def deactivateEmergencyPause (host : Host) (admin : Address) (reason : String) (s : State) :
    Outcome ContractError Unit State :=
  authorized host admin <|
    match s.config with
    | none => .ret (.error .notInitialized) s
    | some config =>
      if !config.isEmergencyPaused then .ret (.error .invalidState) s
      else .ret (.ok ()) (recordPauseEvent host "emergency_unpause" admin reason []
        { s with config := some { config with
            isEmergencyPaused := false
            pauseReason := "not_paused"
            pauseTimestamp := 0
            pausedBy := admin
            maxDurationSeconds := 0 } })

/-- The nested loop of `pause_functions`: each name is pushed unless the list, as far as
    the loop has grown it, already holds it. -/
def addPausedFunctions (pausedFunctions functions : List String) : List String :=
  functions.foldl (fun paused func => if paused.any (· == func) then paused else paused ++ [func])
    pausedFunctions

def pauseFunctions (host : Host) (admin : Address) (functions : List String) (reason : String)
    (s : State) : Outcome ContractError Unit State :=
  authorized host admin <|
    match s.config with
    | none => .ret (.error .notInitialized) s
    | some config => .ret (.ok ()) (recordPauseEvent host "selective_pause" admin reason functions
        { s with config := some { config with
            pausedFunctions := addPausedFunctions config.pausedFunctions functions } })

/-- The loop of `unpause_functions`: the paused names, in order, that `functions` does not
    hold. -/
def removePausedFunctions (pausedFunctions functions : List String) : List String :=
  pausedFunctions.filter fun pausedFunc => !functions.any (pausedFunc == ·)

def unpauseFunctions (host : Host) (admin : Address) (functions : List String) (reason : String)
    (s : State) : Outcome ContractError Unit State :=
  authorized host admin <|
    match s.config with
    | none => .ret (.error .notInitialized) s
    | some config => .ret (.ok ()) (recordPauseEvent host "selective_unpause" admin reason functions
        { s with config := some { config with
            pausedFunctions := removePausedFunctions config.pausedFunctions functions } })

def getPauseConfig (s : State) : Except ContractError EmergencyPauseConfig :=
  okOr s.config .notInitialized

def getPauseHistory (s : State) (limit : Nat) : List EmergencyPauseEvent :=
  let history := s.history.getD []
  if history.length ≤ limit then history
  else history.drop (history.length - limit)

/-- `check_pause_expiry`; `elapsed` is `saturating_sub`, `Nat` subtraction here. -/
def checkPauseExpiry (host : Host) (s : State) : Outcome ContractError Bool State :=
  match s.config with
  | none => .ret (.error .notInitialized) s
  | some config =>
    if !config.isEmergencyPaused || config.maxDurationSeconds == 0 then .ret (.ok false) s
    else if host.timestamp - config.pauseTimestamp ≥ config.maxDurationSeconds then
      let updatedConfig := { config with
        isEmergencyPaused := false
        pauseReason := "not_paused"
        pauseTimestamp := 0
        maxDurationSeconds := 0 }
      .ret (.ok true) (recordPauseEvent host "auto_unpause" updatedConfig.pausedBy "timeout" []
        { s with config := some updatedConfig })
    else .ret (.ok false) s

def validateNotPaused (host : Host) (functionName : Option String) (s : State) :
    Outcome ContractError Unit State :=
  if isEmergencyPaused s then .ret (.error .paused) s
  else if functionName.any (isFunctionPaused s) then .ret (.error .functionPaused) s
  else
    match checkPauseExpiry host s with
    | .ret (.ok true) s' => .ret (.error .paused) s'
    | .ret (.ok false) s' => .ret (.ok ()) s'
    | .ret (.error e) s' => .ret (.error e) s'
    | .abort => .abort

/-! ## The paused list -/

/-- The names of `l`, each once, in the order of their first occurrence. -/
def firstOccurrences : List String → List String
  | [] => []
  | f :: l => f :: (firstOccurrences l).filter (· ≠ f)

@[simp] theorem mem_firstOccurrences {l : List String} {x : String} :
    x ∈ firstOccurrences l ↔ x ∈ l := by
  induction l with
  | nil => rfl
  | cons f l ih =>
    by_cases hx : x = f
    · simp [firstOccurrences, hx]
    · simp [firstOccurrences, hx, ih]

theorem nodup_firstOccurrences (l : List String) : (firstOccurrences l).Nodup := by
  induction l with
  | nil => exact List.nodup_nil
  | cons f l ih => exact List.nodup_cons.2 ⟨by simp, ih.filter _⟩

theorem firstOccurrences_filter (p : String → Bool) (l : List String) :
    firstOccurrences (l.filter p) = (firstOccurrences l).filter p := by
  induction l with
  | nil => rfl
  | cons f l ih =>
    by_cases hp : p f
    · simp only [List.filter_cons, hp, if_true, firstOccurrences, ih, List.filter_filter,
        Bool.and_comm]
    · have hp' : p f = false := by simpa using hp
      simp only [List.filter_cons, hp', Bool.false_eq_true, if_false, firstOccurrences, ih,
        List.filter_filter]
      refine List.filter_congr fun x _ => ?_
      by_cases hx : x = f
      · subst hx; simp [hp']
      · simp [hx]

theorem any_beq_eq_decide (l : List String) (f : String) : l.any (· == f) = decide (f ∈ l) :=
  Bool.eq_iff_iff.2 (by simp)

theorem any_beq_self_eq_decide (l : List String) (f : String) :
    (l.any fun x => f == x) = decide (f ∈ l) :=
  Bool.eq_iff_iff.2 (by simp)

/-- `pause_functions` appends the names of `functions` not already paused, in
    first-occurrence order: its inner loop sees the names pushed earlier in the call. -/
theorem addPausedFunctions_eq (pausedFunctions functions : List String) :
    addPausedFunctions pausedFunctions functions =
      pausedFunctions ++ firstOccurrences (functions.filter (· ∉ pausedFunctions)) := by
  induction functions generalizing pausedFunctions with
  | nil => simp [addPausedFunctions, firstOccurrences]
  | cons f fs ih =>
    show addPausedFunctions (if pausedFunctions.any (· == f) then pausedFunctions
      else pausedFunctions ++ [f]) fs = _
    rw [any_beq_eq_decide]
    by_cases hf : f ∈ pausedFunctions
    · simp [hf, ih]
    · have hfs : fs.filter (· ∉ pausedFunctions ++ [f]) =
          (fs.filter (· ∉ pausedFunctions)).filter (· ≠ f) := by
        simp only [List.filter_filter]
        exact List.filter_congr fun x _ => by simp [and_comm]
      simp [hf, ih, hfs, firstOccurrences, firstOccurrences_filter, Bool.and_comm]

/-- `unpause_functions` keeps the paused names not in `functions`, in order. -/
theorem removePausedFunctions_eq (pausedFunctions functions : List String) :
    removePausedFunctions pausedFunctions functions = pausedFunctions.filter (· ∉ functions) :=
  List.filter_congr fun x _ => by simp [any_beq_self_eq_decide]

/-! ## The history -/

section History

variable (host : Host) (action : String) (actor : Address) (reason : String)
  (affectedFunctions : List String) (s : State)

@[simp] theorem recordPauseEvent_config :
    (recordPauseEvent host action actor reason affectedFunctions s).config = s.config := rfl

/-- `record_pause_event` pushes the event and keeps the last 100. -/
theorem recordPauseEvent_history :
    (recordPauseEvent host action actor reason affectedFunctions s).history =
      let history := s.history.getD [] ++ [⟨action, actor, reason, host.timestamp, affectedFunctions⟩]
      some (history.drop (history.length - 100)) := by
  simp only [recordPauseEvent]
  split_ifs with h
  · rfl
  · rw [Nat.sub_eq_zero_of_le (Nat.le_of_not_gt h), List.drop_zero]

end History

/-- `get_pause_history(limit)`: the last `limit` events, oldest first. -/
theorem getPauseHistory_eq (s : State) (limit : Nat) :
    getPauseHistory s limit = (s.history.getD []).drop ((s.history.getD []).length - limit) := by
  dsimp only [getPauseHistory]
  split_ifs with h
  · rw [Nat.sub_eq_zero_of_le h, List.drop_zero]
  · rfl

end StellarInsured.EmergencyPause
