import FormCheck.Log.Logger

namespace FormCheck.Log.Logger

variable {log : Logger}

theorem isEnabled_iff {level : Level} :
    log.isEnabled level = true ↔ level ≠ .off ∧ log.level ≤ level := by
  simp [isEnabled]

theorem writes_eq_isEnabled (log : Logger) (entry : Entry) :
    log.writes entry = log.isEnabled entry.level := by
  unfold writes
  cases entry.level with
  | debug =>
      change ((log.debug || log.isEnabled .debug) && log.isEnabled .debug) = log.isEnabled .debug
      cases log.isEnabled .debug <;> simp
  | _ => exact Bool.and_self _

theorem writes_iff {entry : Entry} :
    log.writes entry = true ↔ entry.level ≠ .off ∧ log.level ≤ entry.level := by
  rw [writes_eq_isEnabled, isEnabled_iff]

theorem writes_eq_false_of_off (h : log.level = .off) (entry : Entry) :
    log.writes entry = false := by
  rw [← Bool.not_eq_true, writes_iff, h]
  cases entry.level <;> decide

theorem lines_singleton (log : Logger) (now : Moment) {entry : Entry}
    (hlevel : entry.level ≠ .off) :
    log.lines now [entry] =
      if log.level ≤ entry.level then [line log.config now entry] else [] := by
  unfold lines
  by_cases hle : log.level ≤ entry.level
  · have hwrites := writes_iff.mpr ⟨hlevel, hle⟩
    simp [hwrites, hle]
  · have hwrites : log.writes entry = false :=
      Bool.eq_false_iff.mpr fun h => hle (writes_iff.mp h).2
    simp [hwrites, hle]

/-- Whatever changes a log once it has started. -/
inductive Operation where
  | setLevel (level : Level)
  | setDebug (on : Bool)
  | install
deriving DecidableEq, Repr

/-- The log after an operation. One that fails leaves it as it is. -/
def step (log : Logger) : Operation → Logger
  | .setLevel level => log.setLevel level
  | .setDebug on => log.setDebug on
  | .install =>
    match log.install with
    | .ok installed => installed
    | .error _ => log

def run (log : Logger) (operations : List Operation) : Logger :=
  operations.foldl step log

theorem setDebug_cases (log : Logger) (on : Bool) :
    (log.setDebug on = { log with debug := on } ∧ (on = true → log.level ≤ .debug)) ∨
      log.setDebug on = { log with debug := on, level := .debug, facade := .debug } := by
  by_cases h : on = true ∧ Level.debug < log.level
  · exact Or.inr (if_pos h)
  · exact Or.inl ⟨if_neg h, fun hon => Nat.le_of_not_lt fun hlt => h ⟨hon, hlt⟩⟩

theorem level_setDebug_le (log : Logger) : (log.setDebug true).level ≤ .debug := by
  rcases log.setDebug_cases true with ⟨h, hlevel⟩ | h
  · rw [h]
    exact hlevel rfl
  · rw [h]
    exact Nat.le_refl _

theorem step_install_of_installed (h : log.installed = true) : log.step .install = log := by
  simp [step, install, h]

theorem step_install_of_not_installed (h : log.installed = false) :
    log.step .install = { log with installed := true, facade := log.level.filter } := by
  simp [step, install, h]

theorem config_step (log : Logger) (operation : Operation) :
    (log.step operation).config = log.config := by
  cases operation with
  | setLevel level => rfl
  | setDebug on =>
      change (log.setDebug on).config = log.config
      rcases log.setDebug_cases on with ⟨h, -⟩ | h <;> rw [h]
  | install =>
      cases h : log.installed with
      | true => rw [step_install_of_installed h]
      | false => rw [step_install_of_not_installed h]

theorem config_run (log : Logger) (operations : List Operation) :
    (log.run operations).config = log.config := by
  induction operations generalizing log with
  | nil => rfl
  | cons operation operations ih => exact (ih _).trans (config_step log operation)

theorem installed_step (log : Logger) (operation : Operation) :
    (log.step operation).installed = true ↔ log.installed = true ∨ operation = .install := by
  cases operation with
  | setLevel level => simp [step, setLevel]
  | setDebug on =>
      change (log.setDebug on).installed = true ↔ _
      rcases log.setDebug_cases on with ⟨h, -⟩ | h <;> simp [h]
  | install =>
      cases h : log.installed with
      | true => simp [step_install_of_installed h, h]
      | false => simp [step_install_of_not_installed h]

theorem installed_run (log : Logger) (operations : List Operation) :
    (log.run operations).installed = true ↔
      log.installed = true ∨ Operation.install ∈ operations := by
  induction operations generalizing log with
  | nil => simp [run]
  | cons operation operations ih =>
      refine (ih (log.step operation)).trans ?_
      rw [installed_step, List.mem_cons, or_assoc, eq_comm (a := operation)]

/-- Once the facade is installed, its filter is the one that belongs to the level of the log. -/
def InStep (log : Logger) : Prop :=
  log.installed = true → log.facade = log.level.filter

theorem inStep_start (config : Config) : (start config).InStep := by
  intro h
  cases h

theorem InStep.step (h : log.InStep) (operation : Operation) : (log.step operation).InStep := by
  cases operation with
  | setLevel level => exact fun _ => rfl
  | setDebug on =>
      change (log.setDebug on).InStep
      rcases log.setDebug_cases on with ⟨hlog, -⟩ | hlog
      · rw [hlog]
        exact h
      · rw [hlog]
        exact fun _ => rfl
  | install =>
      cases hinstalled : log.installed with
      | true =>
          rw [step_install_of_installed hinstalled]
          exact h
      | false =>
          rw [step_install_of_not_installed hinstalled]
          exact fun _ => rfl

theorem InStep.run (h : log.InStep) (operations : List Operation) :
    (log.run operations).InStep := by
  induction operations generalizing log with
  | nil => exact h
  | cons operation operations ih => exact ih (h.step operation)

/-- Behind a filter that is in step the log has nothing more to refuse. -/
theorem InStep.writesRecord_eq (h : log.InStep) (hinstalled : log.installed = true)
    (record : Record) : log.writesRecord record = log.writes record.entry := by
  have hpasses : log.isEnabled record.severity.level = true →
      log.facade.passes record.severity = true := by
    intro henabled
    rw [h hinstalled, Level.passes_filter_iff]
    exact (isEnabled_iff.mp henabled).2
  rw [writes_eq_isEnabled, writesRecord, hinstalled, Bool.true_and]
  exact Bool.and_eq_right_iff_imp.mpr hpasses

/-- Whatever the settings are with which a log starts and however it is switched afterwards, its
level alone decides: a line is written exactly when it is at the level or above, at the level `off`
nothing is written, and lines for debugging are written as soon as debugging is switched on. Once
the facade is installed its filter belongs to the level, so that a record is written exactly when
the program's own line of its level would be. To install the facade again fails and changes
nothing. -/
theorem level_alone_decides (config : Config) (operations : List Operation) :
    let log := (start config).run operations
    (∀ now entry, entry.level ≠ .off → log.lines now [entry] =
      if log.level ≤ entry.level then [line config now entry] else []) ∧
    (log.level = .off → ∀ now entries, log.lines now entries = []) ∧
    (∀ entry, entry.level = .debug → (log.setDebug true).writes entry = true) ∧
    (log.installed = true ↔ Operation.install ∈ operations) ∧
    (log.installed = true → log.facade = log.level.filter ∧
      (∀ record, log.writesRecord record = log.writes record.entry) ∧
      log.install = .error .alreadyInstalled ∧ log.step .install = log) := by
  intro log
  refine ⟨?_, ?_, ?_, ?_, ?_⟩
  · intro now entry hlevel
    rw [log.lines_singleton now hlevel, config_run]
    rfl
  · intro hoff now entries
    simp [lines, writes_eq_false_of_off hoff]
  · intro entry hdebug
    rw [writes_iff, hdebug]
    exact ⟨Level.noConfusion, log.level_setDebug_le⟩
  · rw [installed_run]
    simp [start]
  · intro hinstalled
    have hstep : log.InStep := (inStep_start config).run operations
    exact ⟨hstep hinstalled, hstep.writesRecord_eq hinstalled, if_pos hinstalled,
      step_install_of_installed hinstalled⟩

theorem level_alone_decides_after_switches :
    let log := (start { debug := true, level := .error }).run
      [.setLevel .off, .install, .setDebug true, .setDebug false, .setLevel .info, .install]
    log.installed = true ∧ log.facade = .info ∧ log.step .install = log ∧
      log.writesRecord ⟨.debug, "store", "kept"⟩ = false ∧
      log.writesRecord ⟨.warn, "store", "lost"⟩ = true ∧
      ∀ now, log.lines now [⟨.debug, "form", "built"⟩] = [] := by
  intro log
  obtain ⟨hlines, -, -, hinstalled, hfacade⟩ := level_alone_decides
    { debug := true, level := .error }
    [.setLevel .off, .install, .setDebug true, .setDebug false, .setLevel .info, .install]
  have hlog : log.installed = true := hinstalled.mpr (by decide)
  obtain ⟨hfilter, hrecords, -, hagain⟩ := hfacade hlog
  refine ⟨hlog, hfilter, hagain, ?_, ?_, ?_⟩
  · rw [hrecords]
    decide
  · rw [hrecords]
    decide
  · intro now
    exact (hlines now _ Level.noConfusion).trans (if_neg (by decide))

end FormCheck.Log.Logger
