import FormCheck.Proofs.NumberedRules
import Mathlib.Data.List.Basic

namespace FormCheck.Profile

open Arguments (largest Spells)
open Text (isNumeral decimal)

/-- The lower and the upper limit that a rules text of the right form sets, as numbers of any
size. -/
inductive Limits : Kind → String → Option Nat → Option Nat → Prop
  | maxLength {n : List Char} (hn : isNumeral n = true) :
      Limits .maxLength ("maxLength:" ++ String.ofList n) none (some (decimal n))
  | minLength {n : List Char} (hn : isNumeral n = true) :
      Limits .minLength ("minLength:" ++ String.ofList n) (some (decimal n)) none
  | rangeLength {a b : List Char} (ha : isNumeral a = true) (hb : isNumeral b = true) :
      Limits .rangeLength ("rangeLength:" ++ String.ofList a ++ "," ++ String.ofList b)
        (some (min (decimal a) (decimal b))) (some (max (decimal a) (decimal b)))
  | rangeChar {a b : List Char} (ha : isNumeral a = true) (hb : isNumeral b = true) :
      Limits .rangeChar ("rangeChar:" ++ String.ofList a ++ "," ++ String.ofList b)
        (some (min (decimal a) (decimal b))) (some (max (decimal a) (decimal b)))

theorem read_clip_one {kind : Kind} {rules : String} {n : List Char} (hkind : kind.arity = 1)
    (hn : isNumeral n = true) (hrules : rules = kind.name ++ ":" ++ String.ofList n) :
    Arguments.read .clip kind rules = .ok (.one (min (decimal n) largest)) := by
  refine Arguments.read_eq_ok_iff.mpr ⟨[n], ⟨by omega, by simp [hkind], by simpa using hn, ?_⟩,
    by simp, rfl⟩
  simp [hrules]

theorem read_clip_two {kind : Kind} {rules : String} {a b : List Char} (hkind : kind.arity = 2)
    (ha : isNumeral a = true) (hb : isNumeral b = true)
    (hrules : rules = kind.name ++ ":" ++ String.ofList a ++ "," ++ String.ofList b) :
    Arguments.read .clip kind rules =
      .ok (.two (min (decimal a) largest) (min (decimal b) largest)) := by
  refine Arguments.read_eq_ok_iff.mpr ⟨[a, b], ⟨by omega, by simp [hkind],
    by simpa using ⟨ha, hb⟩, ?_⟩, by simp, rfl⟩
  simp [hrules]

theorem clip_le_iff {n m limit : Nat} (hm : m < limit) : min n limit ≤ m ↔ n ≤ m := by
  omega

theorem le_clip_iff {n m limit : Nat} (hm : m < limit) : m ≤ min n limit ↔ m ≤ n := by
  omega

/-- The interval between two clipped numbers holds the same small numbers as the interval between
the numbers themselves, in whichever order they come. -/
theorem sorted_clip_contains_iff {a b m : Nat} (hm : m < largest) :
    (Bounds.sorted (min a largest) (min b largest)).contains m = true ↔
      min a b ≤ m ∧ m ≤ max a b := by
  have hlow : min (min a largest) (min b largest) = min (min a b) largest := by omega
  have hhigh : max (min a largest) (min b largest) = min (max a b) largest := by omega
  simp only [Bounds.contains_iff, Bounds.min_sorted, Bounds.max_sorted, Option.some.injEq,
    forall_eq', hlow, hhigh]
  rw [clip_le_iff hm, le_clip_iff hm]

theorem exists_args_of_limits {kind : Kind} {rules : String} {lo hi : Option Nat}
    (hlimits : Limits kind rules lo hi) :
    ∃ args, Arguments.read .clip kind rules = .ok args ∧ ∀ m, m < largest →
      ((enforced kind (some args)).contains m = true ↔ (∀ l ∈ lo, l ≤ m) ∧ ∀ h ∈ hi, m ≤ h) := by
  cases hlimits with
  | maxLength hn =>
      refine ⟨_, read_clip_one rfl hn rfl, fun m hm => ?_⟩
      simp [enforced, Arguments.first, Bounds.between, Bounds.contains_iff, le_clip_iff hm]
  | minLength hn =>
      refine ⟨_, read_clip_one rfl hn rfl, fun m hm => ?_⟩
      simp [enforced, Arguments.first, Bounds.between, Bounds.contains_iff, clip_le_iff hm]
  | rangeLength ha hb | rangeChar ha hb =>
      refine ⟨_, read_clip_two rfl ha hb rfl, fun m hm => ?_⟩
      change (Bounds.sorted _ _).contains m = true ↔ _
      rw [sorted_clip_contains_iff hm]
      simp

theorem zero_within_iff {rules : String} {lo hi : Option Nat}
    (hlimits : Limits .rangeChar rules lo hi) :
    ((∀ l ∈ lo, l ≤ 0) ∧ ∀ h ∈ hi, 0 ≤ h) ↔ lo = some 0 := by
  cases hlimits with
  | rangeChar ha hb => simp

theorem exists_one_of_spells {kind : Kind} {numerals : List (List Char)} {rules : String}
    (hspells : Spells kind numerals rules) (hkind : kind.arity = 1) :
    ∃ n, isNumeral n = true ∧ rules = kind.name ++ ":" ++ String.ofList n := by
  obtain ⟨n, rfl⟩ := List.length_eq_one_iff.mp (hspells.length_eq.trans hkind)
  refine ⟨n, hspells.isNumeral n (by simp), String.toList_injective ?_⟩
  simp [hspells.text]

theorem exists_two_of_spells {kind : Kind} {numerals : List (List Char)} {rules : String}
    (hspells : Spells kind numerals rules) (hkind : kind.arity = 2) :
    ∃ a b, isNumeral a = true ∧ isNumeral b = true ∧
      rules = kind.name ++ ":" ++ String.ofList a ++ "," ++ String.ofList b := by
  obtain ⟨a, b, rfl⟩ := List.length_eq_two.mp (hspells.length_eq.trans hkind)
  refine ⟨a, b, hspells.isNumeral a (by simp), hspells.isNumeral b (by simp),
    String.toList_injective ?_⟩
  simp [hspells.text]

theorem limits_of_spells {kind : Kind} {numerals : List (List Char)} {rules : String}
    (hspells : Spells kind numerals rules) : ∃ lo hi, Limits kind rules lo hi := by
  cases kind with
  | maxLength =>
      obtain ⟨n, hn, rfl⟩ := exists_one_of_spells hspells rfl
      exact ⟨_, _, .maxLength hn⟩
  | minLength =>
      obtain ⟨n, hn, rfl⟩ := exists_one_of_spells hspells rfl
      exact ⟨_, _, .minLength hn⟩
  | rangeLength =>
      obtain ⟨a, b, ha, hb, rfl⟩ := exists_two_of_spells hspells rfl
      exact ⟨_, _, .rangeLength ha hb⟩
  | rangeChar =>
      obtain ⟨a, b, ha, hb, rfl⟩ := exists_two_of_spells hspells rfl
      exact ⟨_, _, .rangeChar ha hb⟩
  | _ => exact absurd rfl hspells.takes_numbers

theorem limits_of_read_clip {kind : Kind} {rules : String} {args : Arguments}
    (hread : Arguments.read .clip kind rules = .ok args) : ∃ lo hi, Limits kind rules lo hi := by
  obtain ⟨numerals, hspells, -⟩ := Arguments.read_eq_ok_iff.mp hread
  exact limits_of_spells hspells

/-- A lenient profile makes one rule of a rules text. If the text has the right form, the rule
accepts a value that is not empty exactly when its measure lies between the written limits, and
judges the empty value by presence alone, or by its width where widths are measured. A text of
another form sets no limits. -/
theorem lenient_rule_accepts_iff {profile : Profile}
    (hprofile : profile.malformedRules = .lenient) {kind : Kind} (hkind : kind.arity ≠ 0)
    (options : RuleOptions) :
    ∃ rule entries, profile.build kind options = .ok ⟨[rule], entries⟩ ∧
      ∀ (value : String) (context : Context),
        value.length < largest → displayWidth value < largest →
          (∀ lo hi, Limits kind options.rules lo hi →
            (value ≠ "" → ((rule.run value context).value = [] ↔
              (∀ l ∈ lo, l ≤ measure kind value) ∧ ∀ h ∈ hi, measure kind value ≤ h)) ∧
            (value = "" → ((rule.run value context).value = [] ↔
              if kind = .rangeChar then lo = some 0 else options.required = false))) ∧
          ((¬∃ lo hi, Limits kind options.rules lo hi) →
            (value ≠ "" → (rule.run value context).value = []) ∧
            (value = "" → ((rule.run value context).value = [] ↔
              kind = .rangeChar ∨ options.required = false))) := by
  obtain ⟨entries, hbuild⟩ := build_of_lenient hprofile hkind options
  refine ⟨_, entries, hbuild, fun value context hlength hwidth => ⟨?_, ?_⟩⟩
  · intro lo hi hlimits
    obtain ⟨args, hread, henforced⟩ := exists_args_of_limits hlimits
    have hmeasure : measure kind value < largest := by
      unfold measure
      split <;> assumption
    rw [hread, run_numberedRule_eq_nil_iff profile hkind]
    refine ⟨fun hvalue => ?_, fun hvalue => ?_⟩
    · rw [if_neg fun h => hvalue h.1]
      exact henforced _ hmeasure
    · by_cases hchar : kind = .rangeChar
      · rw [if_neg fun h => h.2 hchar, if_pos hchar]
        subst hchar hvalue
        exact (henforced _ hmeasure).trans (zero_within_iff hlimits)
      · rw [if_pos ⟨hvalue, hchar⟩, if_neg hchar]
  · intro hnone
    -- Whatever can be read sets limits, since clipping leaves no number too large.
    have hread : (Arguments.read .clip kind options.rules).toOption = none := by
      cases hread : Arguments.read .clip kind options.rules with
      | error e => rfl
      | ok args => exact absurd (limits_of_read_clip hread) hnone
    have hunbounded : ∀ m, (enforced kind none).contains m = true := by
      intro m
      cases kind <;> rfl
    rw [hread, run_numberedRule_eq_nil_iff profile hkind]
    refine ⟨fun hvalue => ?_, fun hvalue => ?_⟩
    · rw [if_neg fun h => hvalue h.1]
      exact hunbounded _
    · by_cases hchar : kind = .rangeChar
      · rw [if_neg fun h => h.2 hchar]
        exact iff_of_true (hunbounded _) (.inl hchar)
      · rw [if_pos ⟨hvalue, hchar⟩]
        exact ⟨.inr, fun h => h.resolve_left hchar⟩

theorem lenient_rule_beyond_largest :
    ∃ rule entries,
      standard.build .rangeLength ⟨true, "rangeLength:99999999999999999999,03"⟩ =
        .ok ⟨[rule], entries⟩ ∧
      (rule.run "abc" {}).value = [] ∧ (rule.run "ab" {}).value ≠ [] ∧
        (rule.run "" {}).value ≠ [] := by
  have hprofile : standard.malformedRules = .lenient := rfl
  have hkind : Kind.rangeLength.arity ≠ 0 := by decide
  obtain ⟨rule, entries, hbuild, hrun⟩ := lenient_rule_accepts_iff hprofile hkind
    ⟨true, "rangeLength:99999999999999999999,03"⟩
  have hlimits : Limits .rangeLength "rangeLength:99999999999999999999,03" (some 3)
      (some 99999999999999999999) :=
    .rangeLength (a := "99999999999999999999".toList) (b := ['0', '3']) (by decide) (by decide)
  refine ⟨rule, entries, hbuild, ?_, ?_, ?_⟩
  · have h := ((hrun "abc" {} (by decide) (by decide)).1 _ _ hlimits).1 (by decide)
    exact h.mpr (by decide)
  · have h := ((hrun "ab" {} (by decide) (by decide)).1 _ _ hlimits).1 (by decide)
    exact fun hnil => absurd (h.mp hnil) (by decide)
  · have h := ((hrun "" {} (by decide) (by decide)).1 _ _ hlimits).2 rfl
    exact fun hnil => absurd (h.mp hnil) (by decide)

end FormCheck.Profile
