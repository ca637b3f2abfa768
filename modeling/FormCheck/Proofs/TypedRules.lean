import FormCheck.Proofs.FieldIndependence

namespace FormCheck

/-- Whether a value that is not empty is of a type. -/
def ValueType.admits (valueType : ValueType) (value : String) : Bool :=
  valueType != .email || Pattern.Name.email.pattern.matchesText value

/-- Whether a value satisfies what a check tests, taken by itself. -/
def Check.admits (check : Check) (value : String) : Bool :=
  match check with
  | .none => true
  | .pattern p => p.matchesText value
  | .bounds b => b.contains value.length
  | .procedure _ => true

namespace Rule

variable {rule : Rule} {value : String}

theorem passes_iff (hstatic : rule.isDynamic = false) :
    rule.passes value = true ↔
      rule.check.admits value = true ∧
        (rule.check = .none → rule.valueType.admits value = true) := by
  unfold passes
  cases hcheck : rule.check with
  | none => simp [Check.admits, ValueType.admits]
  | pattern p => simp [Check.admits]
  | bounds b => simp [Check.admits]
  | procedure p => simp [isDynamic, hcheck] at hstatic

theorem value_run_of_ne_empty (hstatic : rule.isDynamic = false) (hvalue : value ≠ "")
    (context : Context) :
    (rule.run value context).value = if rule.passes value then [] else [rule.messageText] := by
  rw [run_of_not_dynamic hstatic, Log.Logged.value_pure, testFixed, if_neg hvalue]

theorem verdict_eq_nil_iff {accepted : Bool} {message : String} :
    (if accepted then [] else [message]) = [] ↔ accepted = true := by
  cases accepted <;> simp

theorem value_run_eq_nil_iff (hstatic : rule.isDynamic = false) (hvalue : value ≠ "")
    (context : Context) : (rule.run value context).value = [] ↔ rule.passes value = true := by
  rw [value_run_of_ne_empty hstatic hvalue, verdict_eq_nil_iff]

theorem verdict_eq_iff {accepted accepted' : Bool} {message : String} :
    (if accepted then [] else [message]) = (if accepted' then [] else [message]) ↔
      accepted = accepted' := by
  cases accepted <;> cases accepted' <;> simp

/-- A rule without a procedure has one message about a value that is not empty, or none. It has none
exactly when the value satisfies the check and, if there is no check, is of the type. That is the
verdict of type and check together, unless there is a check which the value satisfies without being
of the type. -/
theorem type_and_check_agree_iff (kind : Kind) (valueType : ValueType) (required : Bool)
    {check : Check} (hcheck : ∀ p, check ≠ .procedure p) (message : Message) {value : String}
    (hvalue : value ≠ "") (context : Context) :
    let messages := ((fixed kind valueType required check message).run value context).value
    (messages = [] ∨ messages = [message.render]) ∧
    (messages = [] ↔
      check.admits value = true ∧ (check = .none → valueType.admits value = true)) ∧
    (messages = (if valueType.admits value && check.admits value then [] else [message.render]) ↔
      ¬(check ≠ .none ∧ check.admits value = true ∧ valueType.admits value = false)) := by
  intro messages
  let rule := fixed kind valueType required check message
  have hstatic : rule.isDynamic = false := by
    cases check with
    | procedure p => exact absurd rfl (hcheck p)
    | _ => rfl
  have hpasses : rule.passes value = true ↔
      check.admits value = true ∧ (check = .none → valueType.admits value = true) :=
    passes_iff hstatic
  have hmessages : messages = if rule.passes value then [] else [message.render] :=
    value_run_of_ne_empty hstatic hvalue context
  rw [hmessages]
  refine ⟨?_, verdict_eq_nil_iff.trans hpasses, ?_⟩
  · cases rule.passes value <;> simp
  · rw [verdict_eq_iff, Bool.eq_iff_iff, hpasses, Bool.and_eq_true]
    by_cases hnone : check = .none <;> cases check.admits value <;>
      cases valueType.admits value <;> simp [hnone]

theorem type_and_check_agree_on_address :
    let rule := fixed .maxLength .email true (.bounds (.atMost 6)) (.text "no short address")
    (rule.run "a@b.co" {}).value = [] ∧ (rule.run "a@b.com" {}).value = ["no short address"] := by
  intro rule
  have hcheck : ∀ p, Check.bounds (.atMost 6) ≠ .procedure p := fun p => Check.noConfusion
  obtain ⟨-, haccepts, -⟩ := type_and_check_agree_iff .maxLength .email true hcheck
    (.text "no short address") (by decide : "a@b.co" ≠ "") {}
  obtain ⟨-, -, hrejects⟩ := type_and_check_agree_iff .maxLength .email true hcheck
    (.text "no short address") (by decide : "a@b.com" ≠ "") {}
  have hlong : (Check.bounds (.atMost 6)).admits "a@b.com" = false := by decide
  exact ⟨haccepts.mpr ⟨by decide, fun h => Check.noConfusion h⟩,
    hrejects.mpr fun h => absurd h.2.1 (by rw [hlong]; exact Bool.false_ne_true)⟩

theorem type_and_check_disagree_on_number :
    let check : Check := .pattern Pattern.Name.integer.pattern
    let rule := fixed .email .email false check (.text "no address")
    (rule.run "12" {}).value = [] ∧
      ¬((rule.run "12" {}).value = [] ↔
        ValueType.email.admits "12" = true ∧ check.admits "12" = true) := by
  decide

end Rule

end FormCheck
