import FormCheck.Proofs.WrittenSettings

namespace FormCheck.Settings

variable {base s s' : Settings} {vars vars' : Variables}

theorem Variables.get?_append (vars vars' : Variables) (key : String) :
    (vars ++ vars').get? key = (vars'.get? key).or (vars.get? key) := by
  simp only [get?, List.reverse_append, List.find?_append, Option.map_or]

theorem readOr_or {read : String → Except Invalid α} {a b c : α} {text? later? : Option String}
    (h : readOr a read text? = .ok b) (h' : readOr b read later? = .ok c) :
    readOr a read (later?.or text?) = .ok c := by
  cases later? with
  | none =>
      rw [Option.none_or, h]
      exact h'
  | some later => exact h'

theorem readOr_again {read : String → Except Invalid α} {a b : α} {text? : Option String}
    (h : readOr a read text? = .ok b) : readOr b read text? = .ok b := by
  cases text? with
  | none => rfl
  | some text => exact h

theorem eq_of_readOr_none {read : String → Except Invalid α} {a b : α} {text? : Option String}
    (h : readOr a read text? = .ok b) (hnone : text? = none) : b = a := by
  subst hnone
  exact (Except.ok.inj h).symm

theorem Spelled.append (h : base.Spelled vars s) (h' : s.Spelled vars' s') :
    base.Spelled (vars ++ vars') s' where
  locale := by
    rw [Variables.get?_append, Option.getD_or, h.locale]
    exact h'.locale
  malformedRules := by
    rw [Variables.get?_append]
    exact readOr_or h.malformedRules h'.malformedRules
  dateCheck := by
    rw [Variables.get?_append]
    exact readOr_or h.dateCheck h'.dateCheck

theorem Spelled.again (h : base.Spelled vars s) : s.Spelled vars s where
  locale := by
    have hlocale := h.locale
    cases htext : vars.get? "locale" with
    | none => rfl
    | some locale =>
        rw [htext] at hlocale
        exact hlocale
  malformedRules := readOr_again h.malformedRules
  dateCheck := readOr_again h.dateCheck

theorem overlay_eq_ok_iff :
    base.overlay vars = .ok s ↔ base.Spelled vars s ∧ s.validate = .ok () := by
  constructor
  · intro h
    have hspelled := spelled_of_overlay_eq_ok h
    rw [hspelled.overlay_eq, tested_eq_ok_iff] at h
    exact ⟨hspelled, h⟩
  · rintro ⟨hspelled, hvalid⟩
    rw [hspelled.overlay_eq, tested_eq_ok_iff]
    exact hvalid

theorem Spelled.locale_eq_of_unset (h : base.Spelled vars s) (hunset : vars.get? "locale" = none) :
    s.locale = base.locale := by
  rw [← h.locale, hunset, Option.getD_none]

/-- Settings that come of an overlay have passed the test of the locale, keep what no variable sets
and stay as they are under the same variables. A second overlay comes to a single one with the
variables of both, of which the later count. Variables that set nothing change neither the result
nor the error. -/
theorem overlays_compose (base : Settings) (vars : Variables) :
    (∀ s, base.overlay vars = .ok s →
      s.validate = .ok () ∧ s.overlay vars = .ok s ∧
      (vars.get? "locale" = none → s.locale = base.locale) ∧
      (vars.get? MalformedRules.key = none → s.malformedRules = base.malformedRules) ∧
      (vars.get? DateCheck.key = none → s.dateCheck = base.dateCheck)) ∧
    (∀ vars' s s', base.overlay vars = .ok s → s.overlay vars' = .ok s' →
      base.overlay (vars ++ vars') = .ok s') ∧
    (∀ vars' key, (vars ++ vars').get? key = (vars'.get? key).or (vars.get? key)) ∧
    ∀ others : Variables, (∀ key ∈ keys, others.get? key = vars.get? key) →
      base.overlay others = base.overlay vars := by
  refine ⟨?_, ?_, Variables.get?_append vars, ?_⟩
  · intro s h
    obtain ⟨hspelled, hvalid⟩ := overlay_eq_ok_iff.mp h
    exact ⟨hvalid, overlay_eq_ok_iff.mpr ⟨hspelled.again, hvalid⟩, hspelled.locale_eq_of_unset,
      eq_of_readOr_none hspelled.malformedRules, eq_of_readOr_none hspelled.dateCheck⟩
  · intro vars' s s' h h'
    obtain ⟨hspelled, -⟩ := overlay_eq_ok_iff.mp h
    obtain ⟨hspelled', hvalid⟩ := overlay_eq_ok_iff.mp h'
    exact overlay_eq_ok_iff.mpr ⟨hspelled.append hspelled', hvalid⟩
  · intro others hothers
    exact overlay_congr base hothers

theorem overlays_compose_over_no_tag :
    let base : Settings := ⟨"no tag", .lenient, .range⟩
    let first : Variables := [("locale", "en"), ("malformed_rules", "strict"), ("shade", "7")]
    let second : Variables := [("date_check", " Calendar"), ("malformed_rules", "LENIENT")]
    base.validate = .error ⟨"locale", .notALocaleTag "no tag"⟩ ∧
      base.overlay first = .ok ⟨"en", .strict, .range⟩ ∧
      Settings.overlay ⟨"en", .strict, .range⟩ second = .ok ⟨"en", .lenient, .calendar⟩ ∧
      base.overlay (first ++ second) = .ok ⟨"en", .lenient, .calendar⟩ ∧
      Settings.overlay ⟨"en", .strict, .range⟩ first = .ok ⟨"en", .strict, .range⟩ := by
  intro base first second
  have hfirst : base.overlay first = .ok ⟨"en", .strict, .range⟩ := by decide
  have hsecond : Settings.overlay ⟨"en", .strict, .range⟩ second =
      .ok ⟨"en", .lenient, .calendar⟩ := by decide
  obtain ⟨hone, htwo, -⟩ := overlays_compose base first
  exact ⟨by decide, hfirst, hsecond, htwo second _ _ hfirst hsecond, (hone _ hfirst).2.1⟩

end FormCheck.Settings
