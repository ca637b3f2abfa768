import FormCheck.Proofs.LogFrontEnds
import FormCheck.Proofs.ShownLimits
import FormCheck.Proofs.StrictProfiles

/-!
The warnings of lenient profiles. A lenient profile goes on where a strict one fails, but it never
does so in silence: one warning begins with the error of the strict profile, and its ending says
whether numbers were clipped or the rule has no limit.
-/

namespace FormCheck

open Log (Entry Level Logged Logger)

namespace Log.Logger

/-- The entries of one level among those that a log writes. Each of them makes one line. -/
def writtenAt (log : Logger) (level : Level) (entries : List Entry) : List Entry :=
  (entries.filter log.writes).filter (·.level = level)

theorem writtenAt_of_isEnabled {log : Logger} {level : Level} (h : log.isEnabled level = true)
    (entries : List Entry) : log.writtenAt level entries = entries.filter (·.level = level) := by
  rw [writtenAt, List.filter_filter]
  refine List.filter_congr fun entry _ => ?_
  by_cases hlevel : entry.level = level
  · simp [hlevel, writes_eq_isEnabled, h]
  · simp [hlevel]

end Log.Logger

namespace Profile

variable {profile : Profile} {kind : Kind} {rules : String}

/-- How a warning ends where a number was clipped. -/
def clippedEnding : String := "; saturating to 18446744073709551615"

/-- How a warning ends where the rule has no limit. -/
def unboundedEnding (kind : Kind) : String := "; `" ++ kind.name ++ "` will carry no bound"

theorem clippedEnding_ne_unboundedEnding (kind : Kind) : clippedEnding ≠ unboundedEnding kind := by
  cases kind <;> decide

theorem clippedMessage_eq (e : ArgumentsError) : clippedMessage e = e.message ++ clippedEnding := by
  have hending : "; saturating to " ++ toString Arguments.largest = clippedEnding := by decide
  rw [clippedMessage, String.append_assoc, hending]

theorem unboundedMessage_eq (kind : Kind) (e : ArgumentsError) :
    unboundedMessage kind e = e.message ++ unboundedEnding kind := by
  simp only [unboundedMessage, unboundedEnding, String.append_assoc]

/-- The entry for a warning about numbers. -/
def warning (message : String) : Entry := ⟨.warn, logTarget, message⟩

/-- The numbers that a lenient profile has for a rule, and what it logs about them. -/
inductive LenientNumbers (kind : Kind) (rules : String) : Logged (Option Arguments) → Prop
  | asWritten {args : Option Arguments}
      (hstrict : ∀ e, ¬(kind.arity ≠ 0 ∧ Arguments.read .refuse kind rules = .error e)) :
      LenientNumbers kind rules (pure args)
  | clipped {e : ArgumentsError} {args : Arguments} (hkind : kind.arity ≠ 0)
      (hrefuse : Arguments.read .refuse kind rules = .error e)
      (hclip : Arguments.read .clip kind rules = .ok args) :
      LenientNumbers kind rules ⟨some args, [warning (e.message ++ clippedEnding)]⟩
  | unread {e e' : ArgumentsError} (hkind : kind.arity ≠ 0)
      (hrefuse : Arguments.read .refuse kind rules = .error e)
      (hclip : Arguments.read .clip kind rules = .error e') :
      LenientNumbers kind rules ⟨none, [warning (e.message ++ unboundedEnding kind)]⟩

theorem arguments_of_clipped (hprofile : profile.malformedRules = .lenient) {e : ArgumentsError}
    {args : Arguments} (hrefuse : Arguments.read .refuse kind rules = .error e)
    (hclip : Arguments.read .clip kind rules = .ok args) :
    profile.arguments kind rules =
      .ok ⟨some args, [warning (e.message ++ clippedEnding)]⟩ := by
  rw [← clippedMessage_eq]
  unfold arguments
  rw [hrefuse, hprofile, hclip]
  rfl

theorem arguments_of_unread (hprofile : profile.malformedRules = .lenient) {e e' : ArgumentsError}
    (hrefuse : Arguments.read .refuse kind rules = .error e)
    (hclip : Arguments.read .clip kind rules = .error e') :
    profile.arguments kind rules =
      .ok ⟨none, [warning (e.message ++ unboundedEnding kind)]⟩ := by
  rw [← unboundedMessage_eq]
  unfold arguments
  rw [hrefuse, hprofile, hclip]
  rfl

theorem exists_lenientNumbers (hprofile : profile.malformedRules = .lenient) (kind : Kind)
    (rules : String) :
    ∃ args, profile.numbers kind rules = .ok args ∧ LenientNumbers kind rules args := by
  unfold numbers
  by_cases hkind : kind.arity = 0
  · exact ⟨_, if_pos hkind, .asWritten fun e h => h.1 hkind⟩
  · rw [if_neg hkind]
    cases hrefuse : Arguments.read .refuse kind rules with
    | ok args =>
        refine ⟨_, arguments_of_read_refuse profile hrefuse, .asWritten fun e h => ?_⟩
        cases hrefuse.symm.trans h.2
    | error e =>
        cases hclip : Arguments.read .clip kind rules with
        | ok args =>
            exact ⟨_, arguments_of_clipped hprofile hrefuse hclip, .clipped hkind hrefuse hclip⟩
        | error e' =>
            exact ⟨_, arguments_of_unread hprofile hrefuse hclip, .unread hkind hrefuse hclip⟩

theorem LenientNumbers.warned_iff {numbers : Logged (Option Arguments)}
    (h : LenientNumbers kind rules numbers) :
    numbers.entries.filter (·.level = .warn) ≠ [] ↔
      ∃ e, kind.arity ≠ 0 ∧ Arguments.read .refuse kind rules = .error e := by
  cases h with
  | asWritten hstrict => exact iff_of_false (fun h => h rfl) fun ⟨e, he⟩ => hstrict e he
  | clipped hkind hrefuse _ | unread hkind hrefuse _ =>
      exact iff_of_true (List.cons_ne_nil _ _) ⟨_, hkind, hrefuse⟩

theorem LenientNumbers.exists_ending {numbers : Logged (Option Arguments)}
    (h : LenientNumbers kind rules numbers) {e : ArgumentsError}
    (he : kind.arity ≠ 0 ∧ Arguments.read .refuse kind rules = .error e) :
    ∃ ending, numbers.entries.filter (·.level = .warn) = [warning (e.message ++ ending)] ∧
      numbers.value = (Arguments.read .clip kind rules).toOption ∧
      (ending = clippedEnding ↔ ∃ args, Arguments.read .clip kind rules = .ok args) ∧
      (ending = unboundedEnding kind ↔ ∃ e', Arguments.read .clip kind rules = .error e') := by
  cases h with
  | asWritten hstrict => exact absurd he (hstrict e)
  | clipped hkind hrefuse hclip =>
      obtain rfl := Except.error.inj (hrefuse.symm.trans he.2)
      rw [hclip]
      refine ⟨clippedEnding, rfl, rfl, iff_of_true rfl ⟨_, rfl⟩, ?_⟩
      exact iff_of_false (clippedEnding_ne_unboundedEnding kind) fun ⟨e', h⟩ => by cases h
  | unread hkind hrefuse hclip =>
      obtain rfl := Except.error.inj (hrefuse.symm.trans he.2)
      rw [hclip]
      refine ⟨unboundedEnding kind, rfl, rfl, ?_, iff_of_true rfl ⟨_, rfl⟩⟩
      exact iff_of_false (clippedEnding_ne_unboundedEnding kind).symm fun ⟨args, h⟩ => by cases h

theorem warnings_madeFrom {log : Logger} (hlog : log.isEnabled .warn = true) (profile : Profile)
    (kind : Kind) (required : Bool) (args : Logged (Option Arguments)) :
    log.writtenAt .warn (profile.madeFrom kind required args).entries =
      args.entries.filter (·.level = .warn) := by
  have hentries : (profile.madeFrom kind required args).entries =
      args.entries ++ [⟨.debug, logTarget, builtMessage kind required 1⟩] := rfl
  rw [Logger.writtenAt_of_isEnabled hlog, hentries, List.filter_append]
  simp

theorem exists_ok_iff_of_toOption {outcome : Except ε α} (p : Option α → Prop)
    (h : p outcome.toOption) : (∃ a, outcome = .ok a) ↔ ∃ a, outcome = .ok a ∧ p (some a) := by
  cases outcome with
  | ok a => exact iff_of_true ⟨a, rfl⟩ ⟨a, rfl, h⟩
  | error e => exact iff_of_false (fun ⟨a, ha⟩ => by cases ha) fun ⟨a, ha, _⟩ => by cases ha

theorem exists_error_iff_of_toOption {outcome : Except ε α} (p : Option α → Prop)
    (h : p outcome.toOption) :
    (∃ e, outcome = .error e) ↔ (∃ e, outcome = .error e) ∧ p none := by
  cases outcome with
  | ok a => exact iff_of_false (fun ⟨e, he⟩ => by cases he) fun ⟨⟨e, he⟩, _⟩ => by cases he
  | error e => exact iff_of_true ⟨e, rfl⟩ ⟨⟨e, rfl⟩, h⟩

theorem enforced_none (kind : Kind) : enforced kind none = .unbounded := by
  cases kind <;> rfl

theorem comparesWith_ruleOf (profile : Profile) (hkind : kind.arity ≠ 0) (required : Bool)
    (args : Option Arguments) :
    (profile.ruleOf kind required args).ComparesWith (enforced kind args) := by
  rw [ruleOf_of_arity_ne_zero profile hkind]
  exact comparesWith_numberedRule profile hkind required args

/-- While a log takes warnings, building with a lenient profile writes one exactly where the strict
profile that differs from it in nothing else fails. There is never more than one. It is the error of
the strict profile with an ending: that a number was clipped exactly where the rule compares with
the numbers that clipping read, and that there is no bound exactly where the text could not be read
with clipping either and the rule compares with nothing. -/
theorem lenient_build_warns_iff_strict_fails (locale : Locale) (dateCheck : DateCheck) (kind : Kind)
    (options : RuleOptions) {log : Logger} (hlog : log.isEnabled .warn = true) :
    ∃ rule entries,
      Profile.build ⟨locale, .lenient, dateCheck⟩ kind options = .ok ⟨[rule], entries⟩ ∧
      (log.writtenAt .warn entries ≠ [] ↔
        ∃ e, Profile.build ⟨locale, .strict, dateCheck⟩ kind options = .error e) ∧
      ∀ e, Profile.build ⟨locale, .strict, dateCheck⟩ kind options = .error e →
        ∃ ending, log.writtenAt .warn entries = [⟨.warn, logTarget, e.message ++ ending⟩] ∧
          rule.ComparesWith (enforced kind (Arguments.read .clip kind options.rules).toOption) ∧
          (ending = "; saturating to 18446744073709551615" ↔
            ∃ args, Arguments.read .clip kind options.rules = .ok args ∧
              rule.ComparesWith (enforced kind (some args))) ∧
          (ending = "; `" ++ kind.name ++ "` will carry no bound" ↔
            (∃ e', Arguments.read .clip kind options.rules = .error e') ∧
              rule.ComparesWith .unbounded) := by
  have hstrict : ∀ e, Profile.build ⟨locale, .strict, dateCheck⟩ kind options = .error e ↔
      kind.arity ≠ 0 ∧ Arguments.read .refuse kind options.rules = .error e := by
    intro e
    rw [build_eq_error_iff]
    exact numbers_eq_error_iff_of_strict rfl
  have hlenient : malformedRules ⟨locale, .lenient, dateCheck⟩ = .lenient := rfl
  obtain ⟨args, hnumbers, hargs⟩ := exists_lenientNumbers hlenient kind options.rules
  have hwritten := warnings_madeFrom hlog ⟨locale, .lenient, dateCheck⟩ kind options.required args
  refine ⟨_, _, build_eq_ok_iff.mpr ⟨args, hnumbers, rfl⟩, ?_, fun e he => ?_⟩
  · simp only [hstrict]
    rw [← hargs.warned_iff]
    exact not_congr (Eq.congr_left hwritten)
  · obtain ⟨ending, hwarning, hvalue, hclipped, hunread⟩ := hargs.exists_ending ((hstrict e).mp he)
    have hcompares := comparesWith_ruleOf ⟨locale, .lenient, dateCheck⟩ ((hstrict e).mp he).1
      options.required args.value
    generalize ruleOf _ kind options.required args.value = rule at hcompares ⊢
    rw [hvalue] at hcompares
    have hbound := exists_ok_iff_of_toOption (rule.ComparesWith <| enforced kind ·) hcompares
    have hnone := exists_error_iff_of_toOption (rule.ComparesWith <| enforced kind ·) hcompares
    rw [enforced_none] at hnone
    exact ⟨ending, hwritten.trans hwarning, hcompares, hclipped.trans hbound, hunread.trans hnone⟩

theorem lenient_build_warns_of_two_defects :
    let rules := "rangeLength:99999999999999999999,x"
    (Logger.start {}).isEnabled .warn = true ∧
    Profile.build ⟨.zhCN, .strict, .range⟩ .rangeLength ⟨true, rules⟩ =
      .error (.overflow .rangeLength rules) ∧
    ∃ rule entries,
      Profile.build ⟨.zhCN, .lenient, .range⟩ .rangeLength ⟨true, rules⟩ = .ok ⟨[rule], entries⟩ ∧
      (Logger.start {}).writtenAt .warn entries = [⟨.warn, "formrule::factory",
        (ArgumentsError.overflow .rangeLength rules).message ++
          "; `rangeLength` will carry no bound"⟩] ∧
      rule.ComparesWith .unbounded := by
  intro rules
  have hlog : (Logger.start {}).isEnabled .warn = true := by decide
  have hrefuse : Arguments.read .refuse .rangeLength rules =
      .error (.overflow .rangeLength rules) := by
    decide
  have hstrict : Profile.build ⟨.zhCN, .strict, .range⟩ .rangeLength ⟨true, rules⟩ =
      .error (.overflow .rangeLength rules) :=
    build_eq_error_iff.mpr ((numbers_eq_error_iff_of_strict rfl).mpr ⟨by decide, hrefuse⟩)
  have hclip : Arguments.read .clip .rangeLength rules =
      .error (.malformed .rangeLength rules) := by
    decide
  obtain ⟨rule, entries, hbuild, -, hfails⟩ :=
    lenient_build_warns_iff_strict_fails .zhCN .range .rangeLength ⟨true, rules⟩ hlog
  obtain ⟨ending, hwritten, hcompares, -, hunbounded⟩ := hfails _ hstrict
  rw [hclip] at hcompares hunbounded
  obtain rfl := hunbounded.mpr ⟨⟨_, rfl⟩, hcompares⟩
  exact ⟨hlog, hstrict, rule, entries, hbuild, hwritten, hcompares⟩

end Profile

end FormCheck
