import StellarInsured.EmergencyPause.Pause

/-
  StellarInsured.EmergencyPause.Runs — runs of the emergency-pause module: any sequence of
  its calls, from a store where nothing is set.

  What a call can do is said once, in `PauseStep`: nothing; `initialize` on a fresh
  store; or a new config and one recorded event, the paused list cleared
  (`activate_emergency_pause`), kept (`deactivate_emergency_pause`, the expiry),
  appended to (`pause_functions`) or filtered (`unpause_functions`) (`pauseStep_apply`).
  Which events a call records is read off its arguments and its result (`Call.events`),
  not off `record_pause_event`.

  Proved, over every run:
  - `paused_functions_law`: the paused list never holds a name twice; over a stored
    config, `pause_functions(fs)` and `unpause_functions(fs)` signed by any address return
    `Ok`, the first making the list the old one followed by the names of `fs` not already
    in it, in first-occurrence order, the second the old list without the names of `fs`;
    `is_function_paused` follows.
  - `pause_history_law`: the stored history is the last 100 of the events the run's calls
    recorded, oldest first, and `get_pause_history(limit)` is the last `limit` of it.
  From every state (`emergency_flag_guarded`): only `activate_emergency_pause` raises the
  emergency flag, and only `deactivate_emergency_pause`, or `check_pause_expiry` once a
  nonzero `max_duration_seconds` has passed since `pause_timestamp`, lowers it. The first
  two need only the signature of the `admin` they are given, and succeed for any address
  that signs: the module compares it with no stored admin.
  As built, `validate_not_paused` answers `Paused` from the flag before it reaches
  `check_pause_expiry`, so an expired pause stays in force there (`expired_pause_kept`).
-/

namespace StellarInsured.EmergencyPause

/-- The functions of the module that write storage. -/
inductive Call where
  | init (admin : Address)
  | activateEmergencyPause (admin : Address) (reason : String) (maxDurationSeconds : Nat)
  | deactivateEmergencyPause (admin : Address) (reason : String)
  | pauseFunctions (admin : Address) (functions : List String) (reason : String)
  | unpauseFunctions (admin : Address) (functions : List String) (reason : String)
  | checkPauseExpiry
  | validateNotPaused (functionName : Option String)
  deriving DecidableEq, Repr

/-- The storage a call leaves, run from `s`. -/
def Call.apply (host : Host) : Call → State → State
  | .init a, s => (EmergencyPause.init a s).after s
  | .activateEmergencyPause a r m, s => (EmergencyPause.activateEmergencyPause host a r m s).after s
  | .deactivateEmergencyPause a r, s => (EmergencyPause.deactivateEmergencyPause host a r s).after s
  | .pauseFunctions a fs r, s => (EmergencyPause.pauseFunctions host a fs r s).after s
  | .unpauseFunctions a fs r, s => (EmergencyPause.unpauseFunctions host a fs r s).after s
  | .checkPauseExpiry, s => (EmergencyPause.checkPauseExpiry host s).after s
  | .validateNotPaused f, s => (EmergencyPause.validateNotPaused host f s).after s

/-- The `auto_unpause` that `check_pause_expiry` records, by the pause's `paused_by`, when it
    lifts an expired pause. -/
def expiryEvents (host : Host) (s : State) : List EmergencyPauseEvent :=
  match s.config with
  | none => []
  | some config =>
    if (EmergencyPause.checkPauseExpiry host s).result = some (.ok true) then
      [⟨"auto_unpause", config.pausedBy, "timeout", host.timestamp, []⟩]
    else []

/-- The events a call records, read off its arguments and its result: each of the four
    calls of an admin one when it returns `Ok`, `check_pause_expiry` an `auto_unpause` when
    it returns `Ok(true)`, and `validate_not_paused` that of the `check_pause_expiry` it
    reaches. -/
def Call.events (host : Host) : Call → State → List EmergencyPauseEvent
  | .init _, _ => []
  | .activateEmergencyPause a r m, s =>
    if (EmergencyPause.activateEmergencyPause host a r m s).result = some (.ok ()) then
      [⟨"emergency_pause", a, r, host.timestamp, []⟩]
    else []
  | .deactivateEmergencyPause a r, s =>
    if (EmergencyPause.deactivateEmergencyPause host a r s).result = some (.ok ()) then
      [⟨"emergency_unpause", a, r, host.timestamp, []⟩]
    else []
  | .pauseFunctions a fs r, s =>
    if (EmergencyPause.pauseFunctions host a fs r s).result = some (.ok ()) then
      [⟨"selective_pause", a, r, host.timestamp, fs⟩]
    else []
  | .unpauseFunctions a fs r, s =>
    if (EmergencyPause.unpauseFunctions host a fs r s).result = some (.ok ()) then
      [⟨"selective_unpause", a, r, host.timestamp, fs⟩]
    else []
  | .checkPauseExpiry, s => expiryEvents host s
  | .validateNotPaused f, s =>
    if isEmergencyPaused s || f.any (isFunctionPaused s) then [] else expiryEvents host s

/-- A store where nothing is set. -/
def State.empty : State := ⟨none, none⟩

inductive Reachable : State → Prop
  | empty : Reachable State.empty
  | step {s : State} (host : Host) (c : Call) : Reachable s → Reachable (c.apply host s)

/-- The state a list of calls leaves, run in order from `s`. -/
def exec : State → List (Host × Call) → State
  | s, [] => s
  | s, (host, c) :: cs => exec (c.apply host s) cs

/-- The events a run records, oldest first. -/
def recorded : State → List (Host × Call) → List EmergencyPauseEvent
  | _, [] => []
  | s, (host, c) :: cs => c.events host s ++ recorded (c.apply host s) cs

theorem reachable_exec {s : State} (hs : Reachable s) (cs : List (Host × Call)) :
    Reachable (exec s cs) := by
  induction cs generalizing s with
  | nil => exact hs
  | cons hc cs ih => exact ih (.step hc.1 hc.2 hs)

/-! ## What a call does -/

/-- What a call can do to the paused list. -/
inductive ListStep (old : List String) : List String → Prop
  | keep : ListStep old old
  | clear : ListStep old []
  | add (functions : List String) : ListStep old (addPausedFunctions old functions)
  | remove (functions : List String) : ListStep old (removePausedFunctions old functions)

/-- What one call can do to the module's state, guards included. -/
inductive PauseStep (s : State) : State → Prop
  | keep : PauseStep s s
  | init (admin : Address) : s.config = none →
      PauseStep s { s with config := some ⟨false, "not_paused", 0, admin, [], 0⟩ }
  /-- A new config, over a stored one, and one event recorded. -/
  | record (host : Host) (action : String) (actor : Address) (reason : String)
      (affectedFunctions : List String) (config config' : EmergencyPauseConfig) :
      s.config = some config → ListStep config.pausedFunctions config'.pausedFunctions →
      PauseStep s (recordPauseEvent host action actor reason affectedFunctions
        { s with config := some config' })

section Steps

variable {host : Host} {s : State}

theorem PauseStep.of_authorized {α : Type} {caller : Address} {k : Outcome ContractError α State}
    (h : PauseStep s (k.after s)) : PauseStep s ((authorized host caller k).after s) := by
  unfold authorized
  split
  · exact h
  · exact .keep

theorem checkPauseExpiry_step {r : Except ContractError Bool} {s' : State}
    (h : checkPauseExpiry host s = .ret r s') : PauseStep s s' := by
  unfold checkPauseExpiry at h
  split at h
  · cases h; exact .keep
  · rename_i config hc
    split_ifs at h <;> cases h
    · exact .keep
    · exact .record host _ _ _ _ config _ hc .keep
    · exact .keep

/-- Every call steps as `PauseStep` says. -/
theorem pauseStep_apply (host : Host) (c : Call) (s : State) : PauseStep s (c.apply host s) := by
  cases c with
  | init admin =>
    show PauseStep s ((init admin s).after s)
    unfold init
    split_ifs with h
    · exact .keep
    · exact .init admin (Option.not_isSome_iff_eq_none.1 h)
  | activateEmergencyPause =>
    refine .of_authorized ?_
    split
    · exact .keep
    · rename_i config hc
      split_ifs
      · exact .keep
      · exact .record host _ _ _ _ config _ hc .clear
  | deactivateEmergencyPause =>
    refine .of_authorized ?_
    split
    · exact .keep
    · rename_i config hc
      split_ifs
      · exact .keep
      · exact .record host _ _ _ _ config _ hc .keep
  | pauseFunctions _ functions =>
    refine .of_authorized ?_
    split
    · exact .keep
    · rename_i config hc
      exact .record host _ _ _ _ config _ hc (.add functions)
  | unpauseFunctions _ functions =>
    refine .of_authorized ?_
    split
    · exact .keep
    · rename_i config hc
      exact .record host _ _ _ _ config _ hc (.remove functions)
  | checkPauseExpiry =>
    show PauseStep s ((checkPauseExpiry host s).after s)
    cases h : checkPauseExpiry host s with
    | ret r s' => exact checkPauseExpiry_step h
    | abort => exact .keep
  | validateNotPaused =>
    show PauseStep s ((validateNotPaused host _ s).after s)
    unfold validateNotPaused
    split_ifs
    · exact .keep
    · exact .keep
    · split
      all_goals first | exact .keep | exact checkPauseExpiry_step ‹_›

end Steps

/-! ## The paused list -/

theorem ListStep.nodup {old new : List String} (h : ListStep old new) (hold : old.Nodup) :
    new.Nodup := by
  cases h with
  | keep => exact hold
  | clear => exact List.nodup_nil
  | add functions =>
    rw [addPausedFunctions_eq]
    refine List.pairwise_append.2 ⟨hold, nodup_firstOccurrences _, fun x hx y hy hxy => ?_⟩
    simp only [mem_firstOccurrences, List.mem_filter, decide_eq_true_eq] at hy
    exact hy.2 (hxy ▸ hx)
  | remove functions =>
    rw [removePausedFunctions_eq]
    exact hold.filter _

/-- No stored paused list holds a name twice. -/
def PausedNodup (s : State) : Prop :=
  ∀ config, s.config = some config → config.pausedFunctions.Nodup

theorem PauseStep.pausedNodup {s s' : State} (h : PauseStep s s') (hs : PausedNodup s) :
    PausedNodup s' := by
  cases h with
  | keep => exact hs
  | init => rintro _ ⟨⟩; exact List.nodup_nil
  | record _ _ _ _ _ config _ hc hl => rintro _ ⟨⟩; exact hl.nodup (hs config hc)

theorem pauseFunctions_eq_ok {host : Host} {admin : Address} {functions : List String}
    {reason : String} {s s' : State}
    (h : pauseFunctions host admin functions reason s = .ret (.ok ()) s') :
    ∃ config, s.config = some config ∧
      s' = recordPauseEvent host "selective_pause" admin reason functions
        { s with config := some { config with
          pausedFunctions := addPausedFunctions config.pausedFunctions functions } } := by
  simp only [pauseFunctions, authorized_eq_ret] at h
  obtain ⟨-, h⟩ := h
  split at h
  · cases h
  · cases h
    exact ⟨_, ‹_›, rfl⟩

theorem unpauseFunctions_eq_ok {host : Host} {admin : Address} {functions : List String}
    {reason : String} {s s' : State}
    (h : unpauseFunctions host admin functions reason s = .ret (.ok ()) s') :
    ∃ config, s.config = some config ∧
      s' = recordPauseEvent host "selective_unpause" admin reason functions
        { s with config := some { config with
          pausedFunctions := removePausedFunctions config.pausedFunctions functions } } := by
  simp only [unpauseFunctions, authorized_eq_ret] at h
  obtain ⟨-, h⟩ := h
  split at h
  · cases h
  · cases h
    exact ⟨_, ‹_›, rfl⟩

/-- What `pause_functions` and `unpause_functions` make of the paused list, and that it never
    holds a name twice. -/
structure PausedFunctionsLaw (s : State) : Prop where
  nodup : ∀ config, s.config = some config → config.pausedFunctions.Nodup
  pause_ok : ∀ (host : Host) admin functions reason, s.config.isSome →
    host.authorizes admin = true → ∃ s', pauseFunctions host admin functions reason s = .ret (.ok ()) s'
  unpause_ok : ∀ (host : Host) admin functions reason, s.config.isSome →
    host.authorizes admin = true → ∃ s', unpauseFunctions host admin functions reason s = .ret (.ok ()) s'
  pause : ∀ (host : Host) admin functions reason s',
    pauseFunctions host admin functions reason s = .ret (.ok ()) s' →
    ∃ config, s.config = some config ∧
      s'.config.map (·.pausedFunctions) = some (config.pausedFunctions ++
        firstOccurrences (functions.filter (· ∉ config.pausedFunctions))) ∧
      ∀ f, isFunctionPaused s' f =
        (isEmergencyPaused s' || decide (f ∈ config.pausedFunctions ∨ f ∈ functions))
  unpause : ∀ (host : Host) admin functions reason s',
    unpauseFunctions host admin functions reason s = .ret (.ok ()) s' →
    ∃ config, s.config = some config ∧
      s'.config.map (·.pausedFunctions) = some (config.pausedFunctions.filter (· ∉ functions)) ∧
      ∀ f, isFunctionPaused s' f =
        (isEmergencyPaused s' || decide (f ∈ config.pausedFunctions ∧ f ∉ functions))

/-- Over every run the paused list holds no name twice; over a stored config,
    `pause_functions(fs)` and `unpause_functions(fs)` signed by any address return `Ok`; the
    first appends the new names of `fs` in first-occurrence order and the second removes
    those of `fs`, so that `is_function_paused(f)` is the global pause or `f ∈ old ∪ fs`,
    and the global pause or `f ∈ old \ fs`. -/
theorem paused_functions_law {s : State} (hs : Reachable s) : PausedFunctionsLaw s where
  nodup := by
    induction hs with
    | empty => rintro _ ⟨⟩
    | step host c _ ih => exact (pauseStep_apply host c _).pausedNodup ih
  pause_ok host admin functions reason hc ha := by
    obtain ⟨config, hc⟩ := Option.isSome_iff_exists.1 hc
    simp [pauseFunctions, authorized, ha, hc]
  unpause_ok host admin functions reason hc ha := by
    obtain ⟨config, hc⟩ := Option.isSome_iff_exists.1 hc
    simp [unpauseFunctions, authorized, ha, hc]
  pause host admin functions reason s' h := by
    obtain ⟨config, hc, rfl⟩ := pauseFunctions_eq_ok h
    refine ⟨config, hc, by simp [addPausedFunctions_eq], fun f => ?_⟩
    by_cases hf : f ∈ config.pausedFunctions <;>
      simp [isFunctionPaused, isEmergencyPaused, addPausedFunctions_eq, any_beq_eq_decide, hf]
  unpause host admin functions reason s' h := by
    obtain ⟨config, hc, rfl⟩ := unpauseFunctions_eq_ok h
    refine ⟨config, hc, by simp [removePausedFunctions_eq], fun f => ?_⟩
    simp only [isFunctionPaused, isEmergencyPaused, recordPauseEvent_config, Option.getD_some,
      Option.map_some', removePausedFunctions_eq, any_beq_eq_decide, List.mem_filter,
      decide_eq_true_eq]

/-- `test_selective_function_pause`'s names, one of them twice, paused by the initializer
    and one unpaused; then a pause signed by another address goes through. -/
theorem paused_functions_law_after_unpause :
    let host : Host := ⟨0, fun _ => true⟩
    let s := exec State.empty [(host, .init ⟨0⟩),
      (host, .pauseFunctions ⟨0⟩ ["claim", "stake", "claim"] "audit"),
      (host, .unpauseFunctions ⟨0⟩ ["stake"] "audit")]
    (Reachable s ∧ PausedFunctionsLaw s) ∧
      (∃ s', pauseFunctions host ⟨7⟩ ["vote", "claim"] "review" s = .ret (.ok ()) s') ∧
      ((Call.pauseFunctions ⟨7⟩ ["vote", "claim"] "review").apply host s).config.map
        (·.pausedFunctions) = some ["claim", "vote"] :=
  have hs := reachable_exec .empty _
  ⟨⟨hs, paused_functions_law hs⟩, (paused_functions_law hs).pause_ok _ ⟨7⟩ _ _ rfl rfl, rfl⟩

/-! ## The history -/

/-- Keeping the last `n` of a list and then pushing keeps the last `n` of the whole. -/
theorem drop_suffix_append {α : Type} (l m : List α) (n : Nat) :
    (l.drop (l.length - n) ++ m).drop ((l.drop (l.length - n) ++ m).length - n) =
      (l ++ m).drop ((l ++ m).length - n) := by
  rw [← List.drop_append_of_le_length (Nat.sub_le _ _), List.drop_drop]
  congr 1
  simp only [List.length_append, List.length_drop]
  omega

/-- A history of at most 100 events is its own last 100. -/
theorem drop_of_length_le {α : Type} {l : List α} (h : l.length ≤ 100) :
    l.drop (l.length - 100) = l := by
  rw [Nat.sub_eq_zero_of_le h, List.drop_zero]

/-- `o` returns no `Ok` and writes nothing, or returns `Ok` once it recorded the event of
    `action`, `actor`, `reason` and `fs` over a store with the history of `s`. -/
def Records (host : Host) (s : State) (action : String) (actor : Address) (reason : String)
    (fs : List String) (o : Outcome ContractError Unit State) : Prop :=
  (o.result ≠ some (.ok ()) ∧ o.after s = s) ∨
    ∃ s₁ : State, s₁.history = s.history ∧ o = .ret (.ok ()) (recordPauseEvent host action actor reason fs s₁)

section History

variable {host : Host} {s : State} {action : String} {actor : Address} {reason : String}
  {fs : List String}

theorem Records.error (e : ContractError) : Records host s action actor reason fs (.ret (.error e) s) :=
  .inl ⟨by simp, rfl⟩

theorem Records.of_authorized {caller : Address} {k : Outcome ContractError Unit State}
    (h : Records host s action actor reason fs k) :
    Records host s action actor reason fs (authorized host caller k) := by
  unfold authorized
  split
  · exact h
  · exact .inl ⟨by simp, rfl⟩

/-- A call that `Records` its event keeps the last 100 of the history and the event, when
    it returns `Ok`. -/
theorem Records.history {o : Outcome ContractError Unit State}
    (ho : Records host s action actor reason fs o) (hs : (s.history.getD []).length ≤ 100) :
    let h := s.history.getD [] ++
      if o.result = some (.ok ()) then [⟨action, actor, reason, host.timestamp, fs⟩] else []
    (o.after s).history.getD [] = h.drop (h.length - 100) := by
  rcases ho with ⟨hr, ho⟩ | ⟨s₁, hh, rfl⟩
  · simp only [if_neg hr, List.append_nil, ho, drop_of_length_le hs]
  · simp [recordPauseEvent_history, hh]

theorem activateEmergencyPause_records (a : Address) (r : String) (m : Nat) :
    Records host s "emergency_pause" a r [] (activateEmergencyPause host a r m s) := by
  refine .of_authorized ?_
  split
  · exact .error _
  · split_ifs
    · exact .error _
    · exact .inr ⟨_, (by rfl), rfl⟩

theorem deactivateEmergencyPause_records (a : Address) (r : String) :
    Records host s "emergency_unpause" a r [] (deactivateEmergencyPause host a r s) := by
  refine .of_authorized ?_
  split
  · exact .error _
  · split_ifs
    · exact .error _
    · exact .inr ⟨_, (by rfl), rfl⟩

theorem pauseFunctions_records (a : Address) (fs : List String) (r : String) :
    Records host s "selective_pause" a r fs (pauseFunctions host a fs r s) := by
  refine .of_authorized ?_
  split
  · exact .error _
  · exact .inr ⟨_, (by rfl), rfl⟩

theorem unpauseFunctions_records (a : Address) (fs : List String) (r : String) :
    Records host s "selective_unpause" a r fs (unpauseFunctions host a fs r s) := by
  refine .of_authorized ?_
  split
  · exact .error _
  · exact .inr ⟨_, (by rfl), rfl⟩

theorem checkPauseExpiry_history (hs : (s.history.getD []).length ≤ 100) :
    let h := s.history.getD [] ++ expiryEvents host s
    ((checkPauseExpiry host s).after s).history.getD [] = h.drop (h.length - 100) := by
  cases hc : s.config with
  | none => simp [expiryEvents, checkPauseExpiry, hc, drop_of_length_le hs]
  | some config =>
    simp only [expiryEvents, checkPauseExpiry, hc]
    split_ifs <;> simp_all [recordPauseEvent_history, drop_of_length_le hs]

/-- `validate_not_paused` writes what the `check_pause_expiry` it reaches writes. -/
theorem validateNotPaused_after (f : Option String) :
    (validateNotPaused host f s).after s =
      if isEmergencyPaused s || f.any (isFunctionPaused s) then s
      else (checkPauseExpiry host s).after s := by
  unfold validateNotPaused
  by_cases h₁ : isEmergencyPaused s
  · simp [h₁]
  by_cases h₂ : f.any (isFunctionPaused s)
  · simp [h₁, h₂]
  simp only [h₁, h₂, Bool.false_eq_true, if_false, Bool.or_self]
  split <;> rename_i h <;> simp [h]

/-- One call's effect on the history: the events it records go at the end, and the last
    100 stay. -/
theorem history_apply (host : Host) (c : Call) (s : State) (hs : (s.history.getD []).length ≤ 100) :
    let h := s.history.getD [] ++ c.events host s
    (c.apply host s).history.getD [] = h.drop (h.length - 100) := by
  cases c with
  | init a =>
    show ((init a s).after s).history.getD [] = _
    have hk : ((init a s).after s).history = s.history := by unfold init; split_ifs <;> rfl
    simp [Call.events, hk, drop_of_length_le hs]
  | activateEmergencyPause a r m => exact (activateEmergencyPause_records a r m).history hs
  | deactivateEmergencyPause a r => exact (deactivateEmergencyPause_records a r).history hs
  | pauseFunctions a fs r => exact (pauseFunctions_records a fs r).history hs
  | unpauseFunctions a fs r => exact (unpauseFunctions_records a fs r).history hs
  | checkPauseExpiry => exact checkPauseExpiry_history hs
  | validateNotPaused f =>
    show ((validateNotPaused host f s).after s).history.getD [] = _
    rw [validateNotPaused_after]
    simp only [Call.events]
    split_ifs
    · simp [drop_of_length_le hs]
    · exact checkPauseExpiry_history hs

theorem history_exec (s : State) (hs : (s.history.getD []).length ≤ 100) (cs : List (Host × Call)) :
    let h := s.history.getD [] ++ recorded s cs
    (exec s cs).history.getD [] = h.drop (h.length - 100) := by
  induction cs generalizing s with
  | nil => simp [exec, recorded, drop_of_length_le hs]
  | cons hc cs ih =>
    obtain ⟨host, c⟩ := hc
    have h₁ := history_apply host c s hs
    have hlen : ((c.apply host s).history.getD []).length ≤ 100 := by
      rw [h₁, List.length_drop]
      omega
    simp only [exec, recorded, ih _ hlen, h₁, drop_suffix_append, List.append_assoc]

end History

/-- Over every run from a fresh store, the stored history is the last `min(k, 100)` of the
    `k` events the run's calls recorded, oldest first, and `get_pause_history(limit)` is
    the last `min(limit, length)` of it. -/
theorem pause_history_law (cs : List (Host × Call)) :
    let s := exec State.empty cs
    let k := recorded State.empty cs
    s.history.getD [] = k.drop (k.length - 100) ∧
      ∀ limit, getPauseHistory s limit =
        (s.history.getD []).drop ((s.history.getD []).length - limit) :=
  ⟨by simpa [State.empty] using history_exec State.empty (Nat.zero_le _) cs, getPauseHistory_eq _⟩

/-- A pause, its lifting, a refused second lifting and a selective pause by another signer:
    three events, the refused call recording none. -/
theorem pause_history_law_after_three :
    let host : Host := ⟨5, fun _ => true⟩
    let cs : List (Host × Call) := [(host, .init ⟨0⟩),
      (host, .activateEmergencyPause ⟨0⟩ "exploit" 0), (host, .deactivateEmergencyPause ⟨0⟩ "fixed"),
      (host, .deactivateEmergencyPause ⟨0⟩ "again"), (host, .pauseFunctions ⟨7⟩ ["claim"] "audit")]
    let s := exec State.empty cs
    let k := recorded State.empty cs
    (s.history.getD [] = k.drop (k.length - 100) ∧
      ∀ limit, getPauseHistory s limit =
        (s.history.getD []).drop ((s.history.getD []).length - limit)) ∧
      k.map (·.action) = ["emergency_pause", "emergency_unpause", "selective_pause"] ∧
      (getPauseHistory s 2).map (·.action) = ["emergency_unpause", "selective_pause"] :=
  ⟨pause_history_law _, by decide, by decide⟩

/-! ## Who moves the emergency flag -/

section Flag

variable {host : Host} {s : State}

theorem isEmergencyPaused_recordPauseEvent (action : String) (actor : Address)
    (reason : String) (fs : List String) (s : State) :
    isEmergencyPaused (recordPauseEvent host action actor reason fs s) = isEmergencyPaused s := rfl

/-- `check_pause_expiry` keeps the flag, or lowers it once a pause with a duration has
    lasted it. -/
theorem checkPauseExpiry_flag {r : Except ContractError Bool} {s' : State}
    (h : checkPauseExpiry host s = .ret r s') :
    isEmergencyPaused s' = isEmergencyPaused s ∨
      ∃ config, s.config = some config ∧ 0 < config.maxDurationSeconds ∧
        config.pauseTimestamp + config.maxDurationSeconds ≤ host.timestamp ∧
        isEmergencyPaused s' = false := by
  unfold checkPauseExpiry at h
  split at h
  · cases h
    exact .inl rfl
  rename_i config hc
  split_ifs at h with h₁ h₂ <;> cases h
  · exact .inl rfl
  · simp only [Bool.or_eq_true, Bool.not_eq_true', beq_iff_eq, not_or, Bool.not_eq_false] at h₁
    exact .inr ⟨config, hc, by omega, by omega, rfl⟩
  · exact .inl rfl

/-- What one call can do to the emergency flag: keep it; raise it, by
    `activate_emergency_pause` signed by its `admin`; lower it, by
    `deactivate_emergency_pause` signed by its `admin`, or by `check_pause_expiry` once the
    pause has lasted a nonzero `max_duration_seconds`. -/
theorem flag_step (host : Host) (c : Call) (s : State) :
    isEmergencyPaused (c.apply host s) = isEmergencyPaused s ∨
    (∃ a r d, c = .activateEmergencyPause a r d ∧ host.authorizes a = true ∧
      isEmergencyPaused (c.apply host s) = true) ∨
    (∃ a r, c = .deactivateEmergencyPause a r ∧ host.authorizes a = true ∧
      isEmergencyPaused (c.apply host s) = false) ∨
    (c = .checkPauseExpiry ∧ ∃ config, s.config = some config ∧ 0 < config.maxDurationSeconds ∧
      config.pauseTimestamp + config.maxDurationSeconds ≤ host.timestamp ∧
      isEmergencyPaused (c.apply host s) = false) := by
  cases c with
  | init a =>
    left
    show isEmergencyPaused ((init a s).after s) = _
    unfold init
    split_ifs with h
    · rfl
    · simp [isEmergencyPaused, Option.not_isSome_iff_eq_none.1 h]
  | activateEmergencyPause a r d =>
    simp only [Call.apply]
    unfold activateEmergencyPause authorized
    split_ifs with ha
    · split
      · exact .inl rfl
      · split_ifs
        · exact .inl rfl
        · exact .inr (.inl ⟨a, r, d, rfl, ha, rfl⟩)
    · exact .inl rfl
  | deactivateEmergencyPause a r =>
    simp only [Call.apply]
    unfold deactivateEmergencyPause authorized
    split_ifs with ha
    · split
      · exact .inl rfl
      · split_ifs
        · exact .inl rfl
        · exact .inr (.inr (.inl ⟨a, r, rfl, ha, rfl⟩))
    · exact .inl rfl
  | pauseFunctions a fs r =>
    left
    show isEmergencyPaused ((pauseFunctions host a fs r s).after s) = _
    unfold pauseFunctions authorized
    split_ifs
    · split
      · rfl
      · simp [isEmergencyPaused_recordPauseEvent, isEmergencyPaused, *]
    · rfl
  | unpauseFunctions a fs r =>
    left
    show isEmergencyPaused ((unpauseFunctions host a fs r s).after s) = _
    unfold unpauseFunctions authorized
    split_ifs
    · split
      · rfl
      · simp [isEmergencyPaused_recordPauseEvent, isEmergencyPaused, *]
    · rfl
  | checkPauseExpiry =>
    simp only [Call.apply]
    cases h : checkPauseExpiry host s with
    | abort => exact .inl rfl
    | ret r s' =>
      rcases checkPauseExpiry_flag h with h' | ⟨config, hc, hpos, hle, h'⟩
      · exact .inl h'
      · exact .inr (.inr (.inr ⟨trivial, config, hc, hpos, hle, h'⟩))
  | validateNotPaused f =>
    left
    show isEmergencyPaused ((validateNotPaused host f s).after s) = _
    unfold validateNotPaused
    split_ifs with hp
    · rfl
    · rfl
    · split <;> first
        | rfl
        | (rcases checkPauseExpiry_flag ‹_› with h | ⟨-, -, -, -, h⟩ <;> simp [h, hp])

/-- Any signer activates the pause on a stored config that is not paused: no stored admin is
    read. -/
theorem activateEmergencyPause_signed {a : Address} {r : String} {d : Nat}
    (ha : host.authorizes a = true) (hc : s.config.isSome) (hp : isEmergencyPaused s = false) :
    (activateEmergencyPause host a r d s).result = some (.ok ()) ∧
      isEmergencyPaused (Call.apply host (.activateEmergencyPause a r d) s) = true := by
  obtain ⟨config, hc⟩ := Option.isSome_iff_exists.1 hc
  simp only [isEmergencyPaused, hc, Option.map_some', Option.getD_some] at hp
  simp [Call.apply, activateEmergencyPause, authorized, ha, hc, hp, isEmergencyPaused]

/-- Any signer lifts a pause in force. -/
theorem deactivateEmergencyPause_signed {a : Address} {r : String}
    (ha : host.authorizes a = true) (hp : isEmergencyPaused s = true) :
    (deactivateEmergencyPause host a r s).result = some (.ok ()) ∧
      isEmergencyPaused (Call.apply host (.deactivateEmergencyPause a r) s) = false := by
  cases hc : s.config with
  | none => simp [isEmergencyPaused, hc] at hp
  | some config =>
    simp only [isEmergencyPaused, hc, Option.map_some', Option.getD_some] at hp
    simp [Call.apply, deactivateEmergencyPause, authorized, ha, hc, hp, isEmergencyPaused]

end Flag

/-- Only `activate_emergency_pause` raises the emergency flag, and only
    `deactivate_emergency_pause`, or `check_pause_expiry` once a nonzero
    `max_duration_seconds` has passed since `pause_timestamp`, lowers it; the first two
    only when signed by the address they are given, and for any address that signs: the
    module compares it with no stored admin. -/
theorem emergency_flag_guarded (host : Host) (c : Call) (s : State) :
    (isEmergencyPaused s = false → isEmergencyPaused (c.apply host s) = true →
      ∃ a r d, c = .activateEmergencyPause a r d ∧ host.authorizes a = true) ∧
    (isEmergencyPaused s = true → isEmergencyPaused (c.apply host s) = false →
      (∃ a r, c = .deactivateEmergencyPause a r ∧ host.authorizes a = true) ∨
      (c = .checkPauseExpiry ∧ ∃ config, s.config = some config ∧ 0 < config.maxDurationSeconds ∧
        config.pauseTimestamp + config.maxDurationSeconds ≤ host.timestamp)) ∧
    (∀ a r d, host.authorizes a = true → s.config.isSome → isEmergencyPaused s = false →
      (activateEmergencyPause host a r d s).result = some (.ok ()) ∧
        isEmergencyPaused (Call.apply host (.activateEmergencyPause a r d) s) = true) ∧
    (∀ a r, host.authorizes a = true → isEmergencyPaused s = true →
      (deactivateEmergencyPause host a r s).result = some (.ok ()) ∧
        isEmergencyPaused (Call.apply host (.deactivateEmergencyPause a r) s) = false) := by
  refine ⟨?_, ?_, fun _ _ _ => activateEmergencyPause_signed,
    fun _ _ => deactivateEmergencyPause_signed⟩ <;>
  rcases flag_step host c s with h | ⟨a, r, d, rfl, ha, h⟩ | ⟨a, r, rfl, ha, h⟩ |
      ⟨rfl, config, hc, hpos, hle, h⟩
  -- what raised the flag; a kept flag cannot have moved, nor a lowered one risen
  · exact fun h₁ h₂ => (nomatch h₁.symm.trans (h.symm.trans h₂))
  · exact fun _ _ => ⟨a, r, d, rfl, ha⟩
  · exact fun _ h₂ => (nomatch h.symm.trans h₂)
  · exact fun _ h₂ => (nomatch h.symm.trans h₂)
  -- what lowered it
  · exact fun h₁ h₂ => (nomatch h₁.symm.trans (h.symm.trans h₂))
  · exact fun _ h₂ => (nomatch h.symm.trans h₂)
  · exact fun _ _ => .inl ⟨a, r, rfl, ha⟩
  · exact fun _ _ => .inr ⟨rfl, config, hc, hpos, hle⟩

/-- Initialized by address 0, the pause is taken by address 7, whose signature is all it
    needs; `test_pause_expiry`'s pause of 100 seconds from time 1000 is then lowered by
    `check_pause_expiry` at 1110. -/
theorem emergency_flag_lowered_on_expiry :
    let s₀ : State := exec State.empty [(⟨1000, fun _ => true⟩, .init ⟨0⟩)]
    let s : State := exec s₀ [(⟨1000, fun _ => true⟩, .activateEmergencyPause ⟨7⟩ "test" 100)]
    let host : Host := ⟨1110, fun _ => true⟩
    ((⟨1000, fun _ => true⟩ : Host).authorizes ⟨7⟩ = true ∧ s₀.config.isSome ∧
      isEmergencyPaused s₀ = false) ∧
    ((activateEmergencyPause ⟨1000, fun _ => true⟩ ⟨7⟩ "test" 100 s₀).result = some (.ok ()) ∧
      isEmergencyPaused s = true) ∧
    (isEmergencyPaused s = true ∧ isEmergencyPaused (Call.checkPauseExpiry.apply host s) = false) ∧
      ((∃ a r, Call.checkPauseExpiry = .deactivateEmergencyPause a r ∧ host.authorizes a = true) ∨
        (Call.checkPauseExpiry = Call.checkPauseExpiry ∧ ∃ config, s.config = some config ∧
          0 < config.maxDurationSeconds ∧
          config.pauseTimestamp + config.maxDurationSeconds ≤ host.timestamp)) :=
  ⟨⟨rfl, rfl, rfl⟩,
    (emergency_flag_guarded ⟨1000, fun _ => true⟩ .checkPauseExpiry _).2.2.1 ⟨7⟩ "test" 100 rfl rfl rfl,
    ⟨rfl, rfl⟩, (emergency_flag_guarded _ .checkPauseExpiry _).2.1 rfl rfl⟩


/-! ## As built: an expired pause is kept in force -/

/-- While the emergency flag is set, `validate_not_paused` returns `Paused` before it
    reaches `check_pause_expiry`, and writes nothing, however long ago the pause began. -/
theorem validateNotPaused_of_emergencyPaused (host : Host) (functionName : Option String)
    {s : State} (h : isEmergencyPaused s = true) :
    validateNotPaused host functionName s = .ret (.error .paused) s := by
  simp [validateNotPaused, h]

/-- `test_pause_expiry`'s run: a 100-second pause taken at time 1000 is past its duration
    at 1110, yet `validate_not_paused` for a function that is not selectively paused
    returns `Paused` there and leaves the flag set. -/
theorem expired_pause_kept :
    let s : State := exec State.empty [(⟨1000, fun _ => true⟩, .init ⟨0⟩),
      (⟨1000, fun _ => true⟩, .activateEmergencyPause ⟨0⟩ "test" 100)]
    Reachable s ∧
      (s.config.map fun c => (c.isEmergencyPaused, c.pauseTimestamp, c.maxDurationSeconds,
        c.pausedFunctions)) = some (true, 1000, 100, []) ∧
      validateNotPaused ⟨1110, fun _ => true⟩ (some "claim") s = .ret (.error .paused) s :=
  ⟨reachable_exec .empty _, rfl, validateNotPaused_of_emergencyPaused _ _ rfl⟩

end StellarInsured.EmergencyPause
