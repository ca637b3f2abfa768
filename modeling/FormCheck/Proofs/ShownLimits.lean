import FormCheck.Proofs.FieldIndependence
import FormCheck.Proofs.Numerals
import Mathlib.Data.List.Forall2

namespace FormCheck

open Log (Logged)
open Text (isDigit splitOn)

namespace Detail

variable {limit : Option Nat}

theorem not_mem_numberText {c : Char} (hdigit : isDigit c = false)
    (hword : c ∉ "undefined".toList) : c ∉ (numberText limit).toList := by
  cases limit with
  | none => exact hword
  | some n => exact Text.not_mem_of_isNumeral (Text.isNumeral_toString n) hdigit

theorem numberText_eq_undefined_iff : numberText limit = "undefined" ↔ limit = .none := by
  cases limit with
  | none => simp [numberText]
  | some n =>
      have hletter : 'u' ∉ (numberText (some n)).toList :=
        Text.not_mem_of_isNumeral (Text.isNumeral_toString n) (by decide)
      refine iff_of_false (fun h => hletter ?_) (Option.some_ne_none n)
      rw [h]
      decide

theorem numberText_eq_toString_iff {n : Nat} :
    numberText limit = toString n ↔ limit = some n := by
  cases limit with
  | none =>
      refine iff_of_false (fun h => ?_) (Option.some_ne_none n).symm
      have hnumber : numberText (some n) = "undefined" := h.symm
      exact Option.some_ne_none n (numberText_eq_undefined_iff.mp hnumber)
  | some m =>
      constructor
      · intro h
        have hvalue := congrArg (fun s : String => Text.decimal s.toList) h
        simpa only [numberText, Text.decimal_toString, Option.some.injEq] using hvalue
      · intro h
        exact congrArg numberText h

/-- A number in a message that stands for an end of an interval. No other number, and no word, could
stand there for it. -/
def Shows (shown : String) (limit : Option Nat) : Prop :=
  (shown = "undefined" ↔ limit = .none) ∧ ∀ n, shown = toString n ↔ limit = .some n

theorem shows_numberText (limit : Option Nat) : Shows (numberText limit) limit :=
  ⟨numberText_eq_undefined_iff, fun _ => numberText_eq_toString_iff⟩

/-- What a message of a kind is told about an interval. -/
def ofBounds (kind : Kind) (bounds : Bounds) : Detail :=
  match kind with
  | .maxLength => .bound bounds.max
  | .minLength => .bound bounds.min
  | _ => .range bounds.min bounds.max

end Detail

/-- The text between the first bracket that opens and the next one that closes. -/
def bracketed (message : String) : List Char :=
  ((message.toList.dropWhile (· != '(')).drop 1).takeWhile (· != ')')

/-- The numbers that stand in a message of a kind with numbers: one after a sign of comparison, or
two with a hyphen between them. -/
def shownNumbers (kind : Kind) (message : String) : List String :=
  match kind with
  | .maxLength | .minLength => [String.ofList ((bracketed message).drop 2)]
  | _ => (splitOn (· == '-') (bracketed message)).map String.ofList

/-- The ends of an interval that a message of a kind shows, in their order. -/
def Kind.shownSides (kind : Kind) (bounds : Bounds) : List (Option Nat) :=
  match kind with
  | .maxLength => [bounds.max]
  | .minLength => [bounds.min]
  | _ => [bounds.min, bounds.max]

/-- The part of a sentence that stands between its brackets. -/
def Kind.limitsText (kind : Kind) (bounds : Bounds) : String :=
  match kind with
  | .maxLength => "<=" ++ Detail.numberText bounds.max
  | .minLength => ">=" ++ Detail.numberText bounds.min
  | _ => Detail.numberText bounds.min ++ "-" ++ Detail.numberText bounds.max

/-- What a sentence with numbers names as measured. -/
def Locale.measureName : Locale → Kind → String
  | .zhCN, .rangeChar => "字符长度"
  | .zhCN, _ => "字符串长度"
  | .enUS, .rangeChar => "character width "
  | .enUS, _ => "string length "

theorem append_sign {opening lead sign : String} (h : opening = lead ++ "(" ++ sign)
    (number : String) : opening ++ number ++ ")" = lead ++ "(" ++ (sign ++ number) ++ ")" := by
  rw [h, ← String.append_assoc]

theorem Locale.sentence_ofBounds (locale : Locale) {kind : Kind} (hkind : kind.arity ≠ 0)
    (bounds : Bounds) :
    locale.sentence kind (.ofBounds kind bounds) =
      locale.measureName kind ++ "(" ++ kind.limitsText bounds ++ ")" := by
  cases kind with
  | maxLength | minLength => cases locale <;> exact append_sign (by decide) _
  | rangeLength | rangeChar =>
      cases locale <;> exact congrArg (fun opening : String => opening ++ _ ++ ")") (by decide)
  | _ => exact absurd rfl hkind

theorem bracketed_append {lead inside : String} (hlead : '(' ∉ lead.toList)
    (hinside : ')' ∉ inside.toList) :
    bracketed (lead ++ "(" ++ inside ++ ")") = inside.toList := by
  have hchars : (lead ++ "(" ++ inside ++ ")").toList =
      lead.toList ++ '(' :: (inside.toList ++ [')']) := by simp
  have hbehind : ((lead ++ "(" ++ inside ++ ")").toList.dropWhile (· != '(')).drop 1 =
      inside.toList ++ [')'] := by
    rw [hchars, List.drop_one]
    exact Text.behind_append hlead _
  rw [bracketed, hbehind]
  exact Text.before_append hinside []

theorem not_mem_limitsText {kind : Kind} {bounds : Bounds} :
    ')' ∉ (kind.limitsText bounds).toList := by
  have hnumber : ∀ limit, ')' ∉ (Detail.numberText limit).toList := fun limit =>
    Detail.not_mem_numberText (by decide) (by decide)
  cases kind <;> simp [Kind.limitsText, hnumber]

theorem Locale.not_mem_requiredPhrase (locale : Locale) : '(' ∉ locale.requiredPhrase.toList := by
  cases locale <;> decide

theorem Locale.not_mem_measureName (locale : Locale) (kind : Kind) :
    '(' ∉ (locale.measureName kind).toList := by
  unfold measureName
  split <;> decide

theorem bracketed_compose (locale : Locale) {kind : Kind} (hkind : kind.arity ≠ 0)
    (required : Bool) (bounds : Bounds) :
    bracketed (locale.compose kind required (.ofBounds kind bounds)) =
      (kind.limitsText bounds).toList := by
  have hlead : '(' ∉ ((if required then locale.requiredPhrase else "") ++
      locale.measureName kind).toList := by
    cases required <;> simp [locale.not_mem_requiredPhrase, locale.not_mem_measureName]
  rw [Locale.compose, locale.sentence_ofBounds hkind, ← String.append_assoc,
    ← String.append_assoc, ← String.append_assoc]
  exact bracketed_append hlead not_mem_limitsText

theorem splitOn_limitsText {kind : Kind} (hkind : kind.arity = 2) (bounds : Bounds) :
    splitOn (· == '-') (kind.limitsText bounds).toList =
      [(Detail.numberText bounds.min).toList, (Detail.numberText bounds.max).toList] := by
  have hnumber : ∀ limit, ∀ c ∈ (Detail.numberText limit).toList, (c == '-') = false := by
    intro limit c hc
    refine beq_eq_false_iff_ne.mpr fun h => ?_
    exact Detail.not_mem_numberText (by decide) (by decide) (h ▸ hc)
  have htext : kind.limitsText bounds =
      Detail.numberText bounds.min ++ "-" ++ Detail.numberText bounds.max := by
    cases kind with
    | rangeLength | rangeChar => rfl
    | _ => cases hkind
  have hchars : (kind.limitsText bounds).toList = (Detail.numberText bounds.min).toList ++
      '-' :: (Detail.numberText bounds.max).toList := by
    rw [htext]
    simp
  rw [hchars, Text.splitOn_append (by decide), Text.splitOn_eq_singleton (hnumber bounds.min),
    Text.splitOn_eq_singleton (hnumber bounds.max)]
  rfl

theorem shownNumbers_compose (locale : Locale) {kind : Kind} (hkind : kind.arity ≠ 0)
    (required : Bool) (bounds : Bounds) :
    shownNumbers kind (locale.compose kind required (.ofBounds kind bounds)) =
      (kind.shownSides bounds).map Detail.numberText := by
  have hbracketed := bracketed_compose locale hkind required bounds
  cases kind with
  | maxLength | minLength =>
      change [String.ofList ((bracketed _).drop 2)] = _
      rw [hbracketed]
      simp [Kind.limitsText, Kind.shownSides]
  | rangeLength | rangeChar =>
      change (splitOn (· == '-') (bracketed _)).map String.ofList = _
      rw [hbracketed, splitOn_limitsText rfl]
      simp [Kind.shownSides]
  | _ => exact absurd rfl hkind

namespace Bounds

theorem between_none_right (a : Option Nat) : between a none = ⟨a, none⟩ := by
  cases a <;> rfl

theorem ordered_between {a b : Option Nat} {lo hi : Nat} (hlo : (between a b).min = some lo)
    (hhi : (between a b).max = some hi) : lo ≤ hi := by
  rcases a with _ | m <;> rcases b with _ | n
  · cases hlo
  · cases hlo
  · cases hhi
  · change (sorted m n).min = some lo at hlo
    change (sorted m n).max = some hi at hhi
    rw [min_sorted, Option.some.injEq] at hlo
    rw [max_sorted, Option.some.injEq] at hhi
    omega

theorem contains_eq_false_iff {bounds : Bounds} {n : Nat} :
    bounds.contains n = false ↔
      (∃ lo, bounds.min = some lo ∧ n < lo) ∨ ∃ hi, bounds.max = some hi ∧ hi < n := by
  rw [← Bool.not_eq_true, contains_iff, Classical.not_and_iff_not_or_not]
  simp

end Bounds

/-- Whether a rule tests that a value has a length, or a display width, within an interval. -/
def Rule.ComparesWith (rule : Rule) (bounds : Bounds) : Prop :=
  rule.check = .bounds bounds ∨
    ∃ message, rule.check = .procedure (.ofTest (Profile.widthTest bounds) message)

namespace Profile

variable {profile : Profile} {kind : Kind}

theorem exists_enforced_eq_between (kind : Kind) (args : Option Arguments) :
    ∃ a b, enforced kind args = .between a b := by
  have hinterval : ∃ a b, intervalOf args = .between a b := by
    rcases args with _ | ⟨n⟩ | ⟨m, n⟩
    · exact ⟨none, none, rfl⟩
    · exact ⟨some n, some n, rfl⟩
    · exact ⟨some m, some n, rfl⟩
  cases kind with
  | maxLength => exact ⟨none, args.map Arguments.first, rfl⟩
  | minLength => exact ⟨args.map Arguments.first, none, rfl⟩
  | _ => exact hinterval

theorem ordered_enforced {args : Option Arguments} {lo hi : Nat}
    (hlo : (enforced kind args).min = some lo) (hhi : (enforced kind args).max = some hi) :
    lo ≤ hi := by
  obtain ⟨a, b, hbetween⟩ := exists_enforced_eq_between kind args
  rw [hbetween] at hlo hhi
  exact Bounds.ordered_between hlo hhi

theorem ruleOf_of_arity_ne_zero (profile : Profile) (hkind : kind.arity ≠ 0) (required : Bool)
    (args : Option Arguments) :
    profile.ruleOf kind required args = profile.numberedRule kind required args := by
  cases kind with
  | maxLength | minLength | rangeLength | rangeChar => rfl
  | _ => exact absurd rfl hkind

/-- The message of a rule is told about the very interval that the rule tests. -/
theorem numberedRule_eq (profile : Profile) (hkind : kind.arity ≠ 0) (required : Bool)
    (args : Option Arguments) :
    profile.numberedRule kind required args =
      if kind = .rangeChar then
        profile.testRule kind required (.ofBounds kind (enforced kind args))
          (widthTest (enforced kind args))
      else
        profile.lengthRule kind required (enforced kind args)
          (.ofBounds kind (enforced kind args)) := by
  cases kind with
  | maxLength | rangeLength | rangeChar => rfl
  | minLength =>
      have hmin : (enforced .minLength args).min = args.map Arguments.first := by
        rw [enforced, Bounds.between_none_right]
      rw [if_neg (by decide), Detail.ofBounds, hmin]
      rfl
  | _ => exact absurd rfl hkind

theorem comparesWith_numberedRule (profile : Profile) (hkind : kind.arity ≠ 0) (required : Bool)
    (args : Option Arguments) :
    (profile.numberedRule kind required args).ComparesWith (enforced kind args) := by
  rw [numberedRule_eq profile hkind]
  split
  · exact Or.inr ⟨_, rfl⟩
  · exact Or.inl rfl

theorem value_run_numberedRule (profile : Profile) (hkind : kind.arity ≠ 0) (required : Bool)
    (args : Option Arguments) (value : String) (context : Context) :
    ((profile.numberedRule kind required args).run value context).value = [] ∨
      ((profile.numberedRule kind required args).run value context).value =
        [profile.locale.compose kind required (.ofBounds kind (enforced kind args))] := by
  rw [numberedRule_eq profile hkind]
  split
  · rw [value_run_testRule]
    cases (widthTest (enforced kind args) value).value <;> simp
  · rw [Rule.run_of_not_dynamic rfl]
    exact Rule.testFixed_eq_nil_or _ value

/-- Of every kind with numbers a profile makes one rule, which compares every value with one
interval. The only message of the rule is about that interval: of each end that the message shows,
it shows the number that the value is compared with, or the word for none where there is no such
end, and an end that it does not show is not there. The lower end is never above the upper one. A
value that is not empty is rejected exactly when its measure lies outside the numbers shown. -/
theorem shown_limits_are_enforced (hkind : kind.arity ≠ 0) {options : RuleOptions}
    {built : Logged (List Rule)} (hbuild : profile.build kind options = .ok built) :
    ∃ (rule : Rule) (bounds : Bounds), built.value = [rule] ∧ rule.ComparesWith bounds ∧
      let message := profile.locale.compose kind options.required (.ofBounds kind bounds)
      (∀ value context, (rule.run value context).value ≠ [] →
        (rule.run value context).value = [message]) ∧
      List.Forall₂ Detail.Shows (shownNumbers kind message) (kind.shownSides bounds) ∧
      (kind = .maxLength → bounds.min = none) ∧ (kind = .minLength → bounds.max = none) ∧
      (∀ lo hi, bounds.min = some lo → bounds.max = some hi → lo ≤ hi) ∧
      ∀ value context, value ≠ "" →
        ((rule.run value context).value = [] →
          (∀ lo, bounds.min = some lo → lo ≤ measure kind value) ∧
          ∀ hi, bounds.max = some hi → measure kind value ≤ hi) ∧
        ((rule.run value context).value ≠ [] →
          (∃ lo, bounds.min = some lo ∧ measure kind value < lo) ∨
          ∃ hi, bounds.max = some hi ∧ hi < measure kind value) := by
  obtain ⟨args, hargs⟩ := value_of_build hbuild
  rw [ruleOf_of_arity_ne_zero profile hkind] at hargs
  refine ⟨_, enforced kind args, hargs, comparesWith_numberedRule profile hkind _ args, ?_, ?_, ?_,
    ?_, fun lo hi => ordered_enforced, ?_⟩
  · intro value context hrejected
    exact (value_run_numberedRule profile hkind _ args value context).resolve_left hrejected
  · rw [shownNumbers_compose profile.locale hkind]
    refine List.forall₂_map_left_iff.mpr (List.forall₂_same.mpr ?_)
    exact fun limit _ => Detail.shows_numberText limit
  · rintro rfl
    rfl
  · rintro rfl
    rw [enforced, Bounds.between_none_right]
  · intro value context hvalue
    have haccepts := run_numberedRule_eq_nil_iff profile hkind options.required args value context
    rw [if_neg fun h => hvalue h.1] at haccepts
    refine ⟨fun h => Bounds.contains_iff.mp (haccepts.mp h), fun h => ?_⟩
    exact Bounds.contains_eq_false_iff.mp (Bool.eq_false_iff.mpr fun hin => h (haccepts.mpr hin))

theorem shown_limits_are_enforced_of_clipped :
    ∃ rule entries, standard.build .rangeLength ⟨true, "rangeLength:99999999999999999999,3"⟩ =
        .ok ⟨[rule], entries⟩ ∧
      (rule.run "ab" {}).value = ["不能为空 字符串长度(3-18446744073709551615)"] ∧
      shownNumbers .rangeLength "不能为空 字符串长度(3-18446744073709551615)" =
        ["3", "18446744073709551615"] := by
  have hprofile : standard.malformedRules = .lenient := rfl
  have hkind : Kind.rangeLength.arity ≠ 0 := by decide
  obtain ⟨entries, hbuild⟩ := build_of_lenient hprofile hkind
    ⟨true, "rangeLength:99999999999999999999,3"⟩
  obtain ⟨rule, bounds, hrule, hcompares, hmessage, -⟩ := shown_limits_are_enforced hkind hbuild
  obtain rfl := List.singleton_inj.mp hrule
  refine ⟨_, entries, hbuild, ?_, by decide⟩
  rcases hcompares with hcheck | ⟨message, hcheck⟩
  · obtain rfl := Check.bounds.inj hcheck
    rw [hmessage "ab" {} (by decide)]
    decide
  · cases hcheck

end Profile

end FormCheck
