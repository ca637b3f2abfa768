import FormCheck.Proofs.FieldIndependence
import FormCheck.Proofs.IdentityVerdict

/-!
Reports of built rules. The procedure of a built rule hands in one report, so that no warning is
logged about it, and no built rule has more to say about a value than one message.
-/

namespace FormCheck

open Log (Logged)

/-- No message, or one that says something. -/
def AtMostOneMessage (messages : List String) : Prop :=
  messages = [] ∨ ∃ message, message ≠ "" ∧ messages = [message]

theorem atMostOneMessage_ite (passed : Bool) {message : String} (hmessage : message ≠ "") :
    AtMostOneMessage (if passed then [] else [message]) := by
  cases passed with
  | true => exact Or.inl rfl
  | false => exact Or.inr ⟨message, hmessage, rfl⟩

theorem Locale.sentence_ne_empty (locale : Locale) (kind : Kind) (detail : Detail) :
    locale.sentence kind detail ≠ "" := by
  have hclosed : ∀ s : String, s ++ ")" ≠ "" := fun s => by simp
  cases kind with
  | rangeLength | maxLength | minLength | rangeChar => cases locale <;> exact hclosed _
  | _ => cases locale <;> exact of_decide_eq_false rfl

theorem Locale.compose_ne_empty (locale : Locale) (kind : Kind) (required : Bool)
    (detail : Detail) : locale.compose kind required detail ≠ "" := by
  intro h
  exact locale.sentence_ne_empty kind detail (String.append_eq_empty_iff.mp h).2

namespace Procedure

theorem entries_firstReport_eq_nil_iff (kind : Kind) {reports : List (List String)} :
    (firstReport kind reports).entries = [] ↔ ∃ messages, reports = [messages] := by
  rcases reports with _ | ⟨messages, _ | ⟨extra, rest⟩⟩
  · simp [firstReport, Logged.log]
  · simp [firstReport]
  · simp [firstReport, Logged.log]

theorem entries_run_eq_iff {p : Procedure} {call : Call} :
    (p.run call).entries = (p.reports call).entries ↔
      ∃ messages, (p.reports call).value = [messages] := by
  rw [← entries_firstReport_eq_nil_iff call.kind]
  exact List.append_right_eq_self

theorem value_run_of_reports {p : Procedure} {call : Call} {messages : List String}
    (h : (p.reports call).value = [messages]) : (p.run call).value = messages := by
  change (firstReport call.kind (p.reports call).value).value = messages
  rw [h]
  rfl

end Procedure

/-- A rule that has at most one message about a value, and whose procedure, if it has one, hands in
that message as its only report. -/
structure Rule.ReportsOnce (rule : Rule) : Prop where
  once : ∀ p, rule.check = .procedure p → ∀ value context,
    (p.reports ⟨rule.kind, rule.required, value, context⟩).value = [(rule.run value context).value]
  silent : ∀ value context, ∀ entry ∈ (rule.run value context).entries, entry.level ≠ .warn
  atMostOne : ∀ value context, AtMostOneMessage (rule.run value context).value

theorem Rule.atMostOneMessage_testFixed {rule : Rule} (hmessage : rule.messageText ≠ "")
    (value : String) : AtMostOneMessage (rule.testFixed value) := by
  obtain hpassed | hfailed := rule.testFixed_eq_nil_or value
  · exact Or.inl hpassed
  · exact Or.inr ⟨_, hmessage, hfailed⟩

theorem Rule.reportsOnce_of_not_dynamic {rule : Rule} (h : rule.isDynamic = false)
    (hmessage : rule.messageText ≠ "") : rule.ReportsOnce where
  once := by
    intro p hp
    simp [isDynamic, hp] at h
  silent := by
    intro value context
    rw [run_of_not_dynamic h]
    simp
  atMostOne := by
    intro value context
    rw [run_of_not_dynamic h]
    exact atMostOneMessage_testFixed hmessage value

theorem Rule.reportsOnce_dynamic (kind : Kind) (required : Bool) {p : Procedure}
    (honce : ∀ call, ∃ messages, (p.reports call).value = [messages] ∧ AtMostOneMessage messages)
    (hsilent : ∀ call, ∀ entry ∈ (p.reports call).entries, entry.level ≠ .warn) :
    (dynamic kind required p).ReportsOnce where
  once := by
    rintro _ ⟨⟩ value context
    obtain ⟨messages, hreports, -⟩ := honce ⟨kind, required, value, context⟩
    change _ = [(p.run ⟨kind, required, value, context⟩).value]
    rw [Procedure.value_run_of_reports hreports]
    exact hreports
  silent := by
    intro value context
    obtain ⟨messages, hreports, -⟩ := honce ⟨kind, required, value, context⟩
    change ∀ entry ∈ (p.run ⟨kind, required, value, context⟩).entries, entry.level ≠ .warn
    rw [Procedure.entries_run_eq_iff.mpr ⟨messages, hreports⟩]
    exact hsilent _
  atMostOne := by
    intro value context
    obtain ⟨messages, hreports, hmessages⟩ := honce ⟨kind, required, value, context⟩
    change AtMostOneMessage (p.run ⟨kind, required, value, context⟩).value
    rw [Procedure.value_run_of_reports hreports]
    exact hmessages

namespace Profile

theorem reportsOnce_testRule (profile : Profile) (kind : Kind) (required : Bool) (detail : Detail)
    {test : String → Logged Bool}
    (htest : ∀ value, ∀ entry ∈ (test value).entries, entry.level ≠ .warn) :
    (profile.testRule kind required detail test).ReportsOnce := by
  apply Rule.reportsOnce_dynamic
  · intro call
    exact ⟨_, rfl, atMostOneMessage_ite _ (Locale.compose_ne_empty _ _ _ _)⟩
  · intro call entry hentry
    have hmem : entry ∈ (test call.value).entries := by simpa [Procedure.ofTest] using hentry
    exact htest call.value entry hmem

theorem message_verify_ne_empty {locale : Locale} {value : String}
    (h : (IdentityNumber.verify locale value).isValid = false) :
    (IdentityNumber.verify locale value).message ≠ "" := by
  intro hmessage
  have hfailure := (IdentityNumber.message_identityVerdict_eq_empty_iff locale _).mp hmessage
  rw [IdentityNumber.verify, hfailure] at h
  cases h

theorem atMostOneMessage_identityMessages (profile : Profile) (required : Bool) (value : String) :
    AtMostOneMessage (profile.identityMessages required value) := by
  unfold identityMessages
  by_cases hvalue : value = ""
  · rw [if_pos hvalue]
    cases required with
    | true => exact Or.inr ⟨_, profile.locale.sentence_ne_empty .idCards .none, rfl⟩
    | false => exact Or.inl rfl
  · rw [if_neg hvalue]
    cases hvalid : (IdentityNumber.verify profile.locale value).isValid with
    | true => exact Or.inl (if_pos hvalid)
    | false =>
        refine Or.inr ⟨_, message_verify_ne_empty hvalid, if_neg ?_⟩
        simp [hvalid]

theorem reportsOnce_identityRule (profile : Profile) (required : Bool) :
    (profile.identityRule required).ReportsOnce := by
  apply Rule.reportsOnce_dynamic
  · intro call
    exact ⟨_, rfl, profile.atMostOneMessage_identityMessages required call.value⟩
  · intro call entry hentry
    cases hentry

theorem reportsOnce_ruleOf (profile : Profile) (kind : Kind) (required : Bool)
    (args : Option Arguments) : (profile.ruleOf kind required args).ReportsOnce := by
  cases kind with
  | required | email =>
      exact Rule.reportsOnce_of_not_dynamic rfl (profile.locale.sentence_ne_empty _ _)
  | float | url | integer | rangeLength | maxLength | minLength =>
      exact Rule.reportsOnce_of_not_dynamic rfl (profile.locale.compose_ne_empty _ _ _)
  | rangeChar =>
      apply reportsOnce_testRule
      intro value entry hentry
      obtain rfl : entry = _ := List.mem_singleton.mp hentry
      exact Log.Level.noConfusion
  | date | english | englishAndNumber | chinese =>
      apply reportsOnce_testRule
      intro value entry hentry
      cases hentry
  | idCards => exact profile.reportsOnce_identityRule required

end Profile

theorem Rule.Built.reportsOnce {rule : Rule} (h : rule.Built) : rule.ReportsOnce := by
  obtain ⟨profile, kind, options, args, -, rfl⟩ := Rule.built_iff.mp h
  exact profile.reportsOnce_ruleOf kind options.required args.value

/-- The procedure of a built rule hands in exactly one report, which is what the rule says, and
nothing is logged beyond what the procedure logs itself, in particular no warning. Every built rule
has no message about a value or a single one that is not empty, and the context makes no
difference. -/
theorem Rule.Built.single_report {rule : Rule} (h : rule.Built) (value : String)
    (context context' : Context) :
    (∀ p, rule.check = .procedure p →
      (p.reports ⟨rule.kind, rule.required, value, context⟩).value =
        [(rule.run value context).value] ∧
      (rule.run value context).entries =
        (p.reports ⟨rule.kind, rule.required, value, context⟩).entries) ∧
    (∀ entry ∈ (rule.run value context).entries, entry.level ≠ .warn) ∧
    ((rule.run value context).value = [] ∨
      ∃ message, message ≠ "" ∧ (rule.run value context).value = [message]) ∧
    rule.run value context' = rule.run value context := by
  have hrule := h.reportsOnce
  refine ⟨?_, hrule.silent value context, hrule.atMostOne value context,
    h.ignoresContext value context' context⟩
  intro p hp
  have hreports := hrule.once p hp value context
  have hrun : rule.run value context = p.run ⟨rule.kind, rule.required, value, context⟩ := by
    unfold run
    rw [hp]
  refine ⟨hreports, ?_⟩
  rw [hrun]
  exact Procedure.entries_run_eq_iff.mpr ⟨_, hreports⟩

theorem Rule.single_report_of_identity_number :
    let rule := Profile.ruleOf ⟨.enUS, .strict, .range⟩ .idCards true none
    rule.Built ∧
      (∃ p, rule.check = .procedure p ∧
        (p.reports ⟨.idCards, true, "11010519491231002Y", {}⟩).value =
          [["identity number format is invalid"]]) ∧
      rule.run "11010519491231002Y" { source := [("card", .null)] } =
        rule.run "11010519491231002Y" {} := by
  intro rule
  have hbuilt : rule.Built :=
    Rule.built_iff.mpr ⟨⟨.enUS, .strict, .range⟩, .idCards, ⟨true, ""⟩, pure none, rfl, rfl⟩
  have hmessages : (rule.run "11010519491231002Y" {}).value =
      ["identity number format is invalid"] := by decide
  obtain ⟨hreports, -, -, hcontext⟩ :=
    hbuilt.single_report "11010519491231002Y" {} { source := [("card", .null)] }
  refine ⟨hbuilt, ⟨_, rfl, ?_⟩, hcontext⟩
  rw [← hmessages]
  exact (hreports _ rfl).1

end FormCheck
