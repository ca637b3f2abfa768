import FormCheck.Proofs.SettingSpellings

namespace FormCheck

open Settings (Invalid normalWord)

theorem Settings.readChoice_eq_ok_iff {key : String} {first second : String × α} {text : String}
    {a : α} (hnames : first.1 ≠ second.1) :
    Settings.readChoice key first second text = .ok a ↔
      (normalWord text = first.1 ∧ first.2 = a) ∨ (normalWord text = second.1 ∧ second.2 = a) := by
  unfold Settings.readChoice
  by_cases hfirst : normalWord text = first.1
  · simp [hfirst, hnames]
  · by_cases hsecond : normalWord text = second.1
    · simp [hsecond, hnames.symm]
    · simp [hfirst, hsecond]

theorem MalformedRules.read_eq_ok_iff {text : String} {policy : MalformedRules} :
    read text = .ok policy ↔ normalWord text = policy.name := by
  refine (Settings.readChoice_eq_ok_iff (by decide)).trans ?_
  cases policy <;> simp [name]

theorem DateCheck.read_eq_ok_iff {text : String} {check : DateCheck} :
    read text = .ok check ↔ normalWord text = check.name := by
  refine (Settings.readChoice_eq_ok_iff (by decide)).trans ?_
  cases check <;> simp [name]

theorem MalformedRules.read_name (policy : MalformedRules) : read policy.name = .ok policy := by
  rw [read_eq_ok_iff]
  cases policy <;> decide

theorem DateCheck.read_name (check : DateCheck) : read check.name = .ok check := by
  rw [read_eq_ok_iff]
  cases check <;> decide

namespace Settings

variable {s : Settings} {v : Json}

/-- The texts that settings are written in. -/
def written (s : Settings) : Variables :=
  [("locale", s.locale), (MalformedRules.key, s.malformedRules.name),
    (DateCheck.key, s.dateCheck.name)]

theorem spelled_written (base s : Settings) : base.Spelled s.written s where
  locale := by
    have htext : Variables.get? s.written "locale" = some s.locale := by
      simp [written, Variables.get?, MalformedRules.key, DateCheck.key]
    rw [htext, Option.getD_some]
  malformedRules := by
    have htext : Variables.get? s.written MalformedRules.key = some s.malformedRules.name := by
      simp [written, Variables.get?, MalformedRules.key, DateCheck.key]
    rw [htext, readOr, MalformedRules.read_name]
  dateCheck := by
    have htext : Variables.get? s.written DateCheck.key = some s.dateCheck.name := by
      simp [written, Variables.get?, DateCheck.key]
    rw [htext, readOr, DateCheck.read_name]

theorem fromJson_toJson (s : Settings) : fromJson s.toJson = s.tested.mapError .invalid :=
  (spelled_written standard s).fromJson_eq

theorem tested_eq_ok_iff : s.tested = .ok s ↔ s.validate = .ok () := by
  unfold tested
  cases s.validate <;> simp [Except.map]

theorem tested_eq_error_iff {e : Invalid} : s.tested = .error e ↔ s.validate = .error e := by
  unfold tested
  cases s.validate <;> simp [Except.map]

theorem validate_of_fromJson (h : fromJson v = .ok s) : s.validate = .ok () := by
  unfold fromJson at h
  cases hdecode : decode v with
  | error e =>
      rw [hdecode] at h
      cases h
  | ok decoded =>
      rw [hdecode] at h
      cases hvalid : decoded.validate with
      | error e => simp [hvalid, bind, Except.bind, Except.mapError] at h
      | ok valid =>
          have hsame : decoded = s := by
            simpa [hvalid, bind, Except.bind, Except.mapError, pure, Except.pure] using h
          rw [← hsame]
          exact hvalid

/-- Settings whose locale passes its test are read back from what is written of them, and of others
what is read is the error of that test. Settings that were loaded from any JSON value have passed
it, and reading what is written of them gives the same settings, however the choices were spelled
where they were loaded from. -/
theorem written_settings_read_back :
    (∀ s : Settings, s.validate = .ok () → fromJson s.toJson = .ok s) ∧
    (∀ (s : Settings) (e : Invalid), s.validate = .error e →
      fromJson s.toJson = .error (.invalid e)) ∧
    ∀ (v : Json) (s : Settings), fromJson v = .ok s →
      s.validate = .ok () ∧ fromJson s.toJson = .ok s := by
  have hread : ∀ s : Settings, s.validate = .ok () → fromJson s.toJson = .ok s := by
    intro s hvalid
    rw [fromJson_toJson, tested_eq_ok_iff.mpr hvalid]
    rfl
  refine ⟨hread, ?_, ?_⟩
  · intro s e hinvalid
    rw [fromJson_toJson, tested_eq_error_iff.mpr hinvalid]
    rfl
  · intro v s hload
    exact ⟨validate_of_fromJson hload, hread s (validate_of_fromJson hload)⟩

theorem written_settings_read_back_normal :
    let v : Json := .obj [("date_check", .str "\tCalendar"), ("shade", .int 7),
      ("malformed_rules", .str " STRICT ")]
    let s : Settings := ⟨"zh-CN", .strict, .calendar⟩
    fromJson v = .ok s ∧ fromJson s.toJson = .ok s ∧
      fromJson (toJson ⟨"en US", .strict, .range⟩) =
        .error (.invalid ⟨"locale", .notALocaleTag "en US"⟩) := by
  intro v s
  have hload : fromJson v = .ok s := by rfl
  obtain ⟨-, hrefused, hloaded⟩ := written_settings_read_back
  exact ⟨hload, (hloaded v s hload).2, hrefused _ _ (by decide)⟩

end Settings

end FormCheck
