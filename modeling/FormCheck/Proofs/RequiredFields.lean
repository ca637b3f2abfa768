import FormCheck.Proofs.ExportedForms
import FormCheck.Proofs.StrictProfiles

namespace FormCheck

open Log (Logged)

/-- The kinds that the empty value passes whether it is required or not. Their tests look at every
character, or at a width that may be zero, and nothing else looks at the value. -/
def Kind.PassesEmpty (kind : Kind) (rules : String) : Prop :=
  kind = .english ∨ kind = .chinese ∨
    (kind = .rangeChar ∧ ∀ args, Arguments.read .clip .rangeChar rules = .ok args →
      0 ∈ args.toList)

namespace Profile

variable {profile : Profile} {kind : Kind} {rules : String}

theorem value_of_arguments {args : Logged (Option Arguments)}
    (h : profile.arguments kind rules = .ok args) :
    args.value = (Arguments.read .clip kind rules).toOption := by
  cases hpolicy : profile.malformedRules with
  | lenient =>
      obtain ⟨entries, hentries⟩ := arguments_of_lenient hpolicy kind rules
      rw [hentries] at h
      rw [← Except.ok.inj h]
  | strict =>
      rw [arguments_of_strict hpolicy] at h
      cases hread : Arguments.read .refuse kind rules with
      | error e =>
          rw [hread] at h
          cases h
      | ok read =>
          rw [hread] at h
          rw [← Except.ok.inj h, Arguments.read_clip_of_read_refuse hread]
          rfl

theorem intervalOf_contains_zero_iff (args : Option Arguments) :
    (intervalOf args).contains 0 = true ↔ ∀ read ∈ args, 0 ∈ read.toList := by
  rcases args with _ | ⟨n⟩ | ⟨a, b⟩
  · simp [intervalOf, Bounds.unbounded, Bounds.contains]
  · change (Bounds.sorted n n).contains 0 = true ↔ _
    rw [Bounds.contains_iff, Bounds.min_sorted, Bounds.max_sorted]
    simp [Arguments.toList, eq_comm]
  · change (Bounds.sorted a b).contains 0 = true ↔ _
    rw [Bounds.contains_iff, Bounds.min_sorted, Bounds.max_sorted]
    simp [Arguments.toList, eq_comm]

theorem run_rangeChar_empty_eq_nil_iff {args : Logged (Option Arguments)}
    (hargs : profile.numbers .rangeChar rules = .ok args) (required : Bool) (context : Context) :
    ((profile.ruleOf .rangeChar required args.value).run "" context).value = [] ↔
      ∀ read, Arguments.read .clip .rangeChar rules = .ok read → 0 ∈ read.toList := by
  have hcontains : ((profile.ruleOf .rangeChar required args.value).run "" context).value = [] ↔
      (intervalOf args.value).contains 0 = true :=
    run_testRule_eq_nil_iff profile .rangeChar required _ _ "" context
  rw [hcontains, intervalOf_contains_zero_iff, value_of_arguments hargs]
  cases Arguments.read .clip .rangeChar rules <;> simp [Except.toOption]

theorem run_required_empty_eq_nil_iff {args : Logged (Option Arguments)}
    (hargs : profile.numbers kind rules = .ok args) (context : Context) :
    ((profile.ruleOf kind true args.value).run "" context).value = [] ↔
      kind.PassesEmpty rules := by
  cases kind with
  | rangeChar =>
      rw [run_rangeChar_empty_eq_nil_iff hargs]
      simp [Kind.PassesEmpty]
  | date =>
      refine (run_testRule_eq_nil_iff profile .date true _ _ "" context).trans ?_
      simp only [Kind.PassesEmpty, reduceCtorEq, false_and, or_false, iff_false]
      exact Bool.false_ne_true
  | english | englishAndNumber | chinese =>
      refine (run_testRule_eq_nil_iff profile _ true _ _ "" context).trans ?_
      simp only [Kind.PassesEmpty, reduceCtorEq, false_and, or_false, false_or, iff_true,
        iff_false]
      decide
  | required | email | float | url | integer | rangeLength | maxLength | minLength | idCards =>
      simp only [Kind.PassesEmpty, reduceCtorEq, false_and, or_false, iff_false]
      exact List.cons_ne_nil _ _

theorem forall_run_empty_iff {built : Logged (List Rule)}
    (hbuild : profile.build kind ⟨true, rules⟩ = .ok built) (context : Context) :
    (∀ rule ∈ built.value, (rule.run "" context).value = []) ↔ kind.PassesEmpty rules := by
  obtain ⟨args, hargs, rfl⟩ := build_eq_ok_iff.mp hbuild
  change (∀ rule ∈ [profile.ruleOf kind true args.value], _) ↔ _
  rw [List.forall_mem_singleton, run_required_empty_eq_nil_iff hargs]

/-- Where the rules of a required kind stand in a field that was left out or entered as empty, the
form is rejected and the field is among what is reported, unless the kind passes the empty value.
If it does and these are the only rules of the name, nothing is reported for it. -/
theorem required_field_reported {built : Logged (List Rule)}
    (hbuild : profile.build kind ⟨true, rules⟩ = .ok built) :
    (¬kind.PassesEmpty rules → ∀ (form : Form) (entered : Entered), ∀ field ∈ form.fields,
      built.value ⊆ field.rules → entered.valueOf field.name = "" →
        ∃ failure ∈ (form.validate entered).value, failure.field = field.name) ∧
    (kind.PassesEmpty rules → ∀ (form : Form) (entered : Entered) (name : String),
      form.enforced name ⊆ built.value → entered.valueOf name = "" →
        Failure.ofField (form.validate entered).value name = []) := by
  constructor
  · intro hkind form entered field hfield hrules hempty
    have hrejects : ¬∀ rule ∈ built.value, (rule.run "" { source := entered.source }).value = [] :=
      fun haccepts => hkind ((forall_run_empty_iff hbuild _).mp haccepts)
    push Not at hrejects
    obtain ⟨rule, hrule, hmessages⟩ := hrejects
    obtain ⟨message, hmessage⟩ := List.exists_mem_of_ne_nil _ hmessages
    have hfailure : { field := field.name, message, constraint := rule.kind.name, value := some "" }
        ∈ Failure.ofField (form.validate entered).value field.name := by
      rw [Form.ofField_validate_eq_enforced, hempty]
      refine List.mem_flatMap.mpr ⟨rule, ?_, List.mem_map.mpr ⟨message, hmessage, rfl⟩⟩
      exact List.mem_flatMap.mpr
        ⟨field, List.mem_filter.mpr ⟨hfield, by simp⟩, hrules hrule⟩
    exact ⟨_, (List.mem_filter.mp hfailure).1, rfl⟩
  · intro hkind form entered name hrules hempty
    rw [Form.ofField_validate_eq_enforced, hempty, List.flatMap_eq_nil_iff]
    intro rule hrule
    rw [Rule.failuresFor, (forall_run_empty_iff hbuild _).mpr hkind rule (hrules hrule)]
    rfl

theorem required_field_reported_of_date :
    ∃ built, Profile.standard.build .date ⟨true, ""⟩ = .ok built ∧
      ∃ failure ∈ (Form.validate ⟨[⟨"born", built.value⟩]⟩ [("name", "x")]).value,
        failure.field = "born" := by
  have hdate : Kind.date.arity = 0 := rfl
  obtain ⟨entries, hbuild⟩ := build_of_arity_eq_zero .standard hdate ⟨true, ""⟩
  obtain ⟨hreported, -⟩ := required_field_reported hbuild
  refine ⟨_, hbuild, ?_⟩
  refine hreported ?_ _ _ _ (List.mem_singleton_self _) (List.Subset.refl _) rfl
  simp [Kind.PassesEmpty]

theorem required_field_passed_of_english :
    ∃ built, Profile.standard.build .english ⟨true, ""⟩ = .ok built ∧
      (Form.validate ⟨[⟨"name", built.value⟩]⟩ []).value = [] := by
  have henglish : Kind.english.arity = 0 := rfl
  obtain ⟨entries, hbuild⟩ := build_of_arity_eq_zero .standard henglish ⟨true, ""⟩
  exact ⟨_, hbuild, rfl⟩

end Profile

end FormCheck
