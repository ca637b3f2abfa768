import FormCheck.Proofs.ShownLimits
import Mathlib.Data.List.Nodup

namespace FormCheck

open Text (before)

variable {locale locale' : Locale} {kind kind' : Kind} {detail detail' : Detail}

namespace Kind

/-- The numbers that the sentence of a kind takes from a detail, in their order. A detail of another
shape has none of them. -/
def told (kind : Kind) (detail : Detail) : List (Option Nat) :=
  match kind, detail with
  | .maxLength, .bound limit | .minLength, .bound limit => [limit]
  | .maxLength, _ | .minLength, _ => [none]
  | .rangeLength, .range min max | .rangeChar, .range min max => [min, max]
  | .rangeLength, _ | .rangeChar, _ => [none, none]
  | _, _ => []

/-- An interval about which the sentence of a kind says the same as about a detail. -/
def boundsOf (kind : Kind) (detail : Detail) : Bounds :=
  match kind, detail with
  | .maxLength, .bound limit => ⟨none, limit⟩
  | .minLength, .bound limit => ⟨limit, none⟩
  | .rangeLength, .range min max | .rangeChar, .range min max => ⟨min, max⟩
  | _, _ => .unbounded

theorem told_of_arity_eq_zero (hkind : kind.arity = 0) (detail : Detail) :
    kind.told detail = [] := by
  cases kind with
  | maxLength | minLength | rangeLength | rangeChar => cases hkind
  | _ => rfl

theorem shownSides_boundsOf (hkind : kind.arity ≠ 0) (detail : Detail) :
    kind.shownSides (kind.boundsOf detail) = kind.told detail := by
  cases kind with
  | maxLength | minLength | rangeLength | rangeChar => cases detail <;> rfl
  | _ => exact absurd rfl hkind

end Kind

namespace Detail

theorem numberText_injective : Function.Injective numberText := by
  intro limit other h
  cases other with
  | none => exact numberText_eq_undefined_iff.mp h
  | some n => exact numberText_eq_toString_iff.mp h

theorem ofBounds_congr {bounds bounds' : Bounds}
    (h : kind.shownSides bounds = kind.shownSides bounds') :
    ofBounds kind bounds = ofBounds kind bounds' := by
  cases kind <;> simpa [Kind.shownSides, ofBounds] using h

end Detail

namespace Locale

theorem sentence_boundsOf (locale : Locale) (hkind : kind.arity ≠ 0) (detail : Detail) :
    locale.sentence kind detail =
      locale.sentence kind (.ofBounds kind (kind.boundsOf detail)) := by
  cases kind with
  | maxLength | minLength | rangeLength | rangeChar => cases locale <;> cases detail <;> rfl
  | _ => exact absurd rfl hkind

theorem sentence_of_arity_eq_zero (locale : Locale) (hkind : kind.arity = 0) (detail : Detail) :
    locale.sentence kind detail = locale.sentence kind .none := by
  cases kind with
  | maxLength | minLength | rangeLength | rangeChar => cases hkind
  | _ => cases locale <;> rfl

theorem sentence_congr (locale : Locale) (h : kind.told detail = kind.told detail') :
    locale.sentence kind detail = locale.sentence kind detail' := by
  by_cases hkind : kind.arity = 0
  · rw [locale.sentence_of_arity_eq_zero hkind, locale.sentence_of_arity_eq_zero hkind detail']
  · rw [← Kind.shownSides_boundsOf hkind, ← Kind.shownSides_boundsOf hkind] at h
    rw [locale.sentence_boundsOf hkind, locale.sentence_boundsOf hkind detail',
      Detail.ofBounds_congr h]

/-- The first two characters of a sentence. -/
def opening : Locale → Kind → List Char
  | .zhCN, .required => ['不', '允']
  | .zhCN, .rangeLength | .zhCN, .maxLength | .zhCN, .minLength | .zhCN, .rangeChar => ['字', '符']
  | .zhCN, .idCards => ['身', '份']
  | .zhCN, _ => ['必', '须']
  | .enUS, .rangeLength | .enUS, .maxLength | .enUS, .minLength => ['s', 't']
  | .enUS, .rangeChar => ['c', 'h']
  | .enUS, .idCards => ['i', 'd']
  | .enUS, _ => ['m', 'u']

theorem take_two_fixed (locale : Locale) :
    ∀ kind ∈ Kind.all, (if kind.arity = 0 then locale.sentence kind .none
      else locale.measureName kind).toList.take 2 = locale.opening kind := by
  cases locale <;> decide +kernel

theorem take_two_sentence (locale : Locale) (kind : Kind) (detail : Detail) :
    (locale.sentence kind detail).toList.take 2 = locale.opening kind := by
  have hfixed := locale.take_two_fixed kind kind.mem_all
  by_cases hkind : kind.arity = 0
  · rw [locale.sentence_of_arity_eq_zero hkind, ← hfixed, if_pos hkind]
  · have hlength : 2 ≤ (locale.measureName kind).toList.length := by
      unfold measureName
      split <;> decide
    rw [if_neg hkind] at hfixed
    rw [locale.sentence_boundsOf hkind, locale.sentence_ofBounds hkind, String.append_assoc,
      String.append_assoc, String.toList_append, List.take_append_of_le_length hlength, hfixed]

/-- The locale of a text, and whether it begins with the phrase for required fields. -/
def ofBeginning : List Char → Locale × Bool
  | ['不', '能'] => (.zhCN, true)
  | ['c', 'a'] => (.enUS, true)
  | c :: _ => (if c.toNat < 0x80 then .enUS else .zhCN, false)
  | [] => (.zhCN, false)

theorem ofBeginning_compose (locale : Locale) (kind : Kind) (required : Bool) (detail : Detail) :
    ofBeginning ((locale.compose kind required detail).toList.take 2) = (locale, required) := by
  cases required with
  | true =>
      have hlength : 2 ≤ locale.requiredPhrase.toList.length := by cases locale <;> decide
      have hphrase : ofBeginning (locale.requiredPhrase.toList.take 2) = (locale, true) := by
        cases locale <;> decide
      rw [compose, if_pos rfl, String.toList_append, List.take_append_of_le_length hlength, hphrase]
  | false =>
      have hsentence : locale.compose kind false detail = locale.sentence kind detail :=
        String.empty_append
      rw [hsentence, take_two_sentence]
      cases locale <;> cases kind <;> rfl

theorem head?_opening_mem_iff (locale : Locale) (kind : Kind) :
    (locale.opening kind).head? ∈ [some '字', some 's', some 'c'] ↔ kind.arity ≠ 0 := by
  cases locale <;> cases kind <;> decide

theorem nodup_sentences (locale : Locale) :
    (Kind.all.map fun kind => locale.sentence kind .none).Nodup := by
  cases locale <;> decide +kernel

theorem measureName_eq_iff : locale.measureName kind = locale.measureName .rangeChar ↔
    kind = .rangeChar := by
  cases locale <;> cases kind <;> decide

theorem mem_limitsText_iff (hkind : kind.arity ≠ 0) {bounds : Bounds} :
    ('<' ∈ (kind.limitsText bounds).toList ↔ kind = .maxLength) ∧
      ('>' ∈ (kind.limitsText bounds).toList ↔ kind = .minLength) := by
  have hless : ∀ limit, '<' ∉ (Detail.numberText limit).toList := fun limit =>
    Detail.not_mem_numberText (by decide) (by decide)
  have hgreater : ∀ limit, '>' ∉ (Detail.numberText limit).toList := fun limit =>
    Detail.not_mem_numberText (by decide) (by decide)
  cases kind with
  | maxLength | minLength | rangeLength | rangeChar => simp [Kind.limitsText, hless, hgreater]
  | _ => exact absurd rfl hkind

theorem cut_sentence (locale : Locale) (hkind : kind.arity ≠ 0) (detail : Detail) :
    before '(' (locale.sentence kind detail).toList = (locale.measureName kind).toList ∧
      bracketed (locale.sentence kind detail) =
        (kind.limitsText (kind.boundsOf detail)).toList := by
  rw [locale.sentence_boundsOf hkind, locale.sentence_ofBounds hkind]
  refine ⟨?_, bracketed_append (locale.not_mem_measureName kind) not_mem_limitsText⟩
  simp [Text.before_append (locale.not_mem_measureName kind)]

theorem kind_eq_of_signs (hkind : kind.arity ≠ 0) (hkind' : kind'.arity ≠ 0)
    (hchar : kind = .rangeChar ↔ kind' = .rangeChar)
    (hmax : kind = .maxLength ↔ kind' = .maxLength)
    (hmin : kind = .minLength ↔ kind' = .minLength) : kind = kind' := by
  cases kind with
  | maxLength => exact (hmax.mp rfl).symm
  | minLength => exact (hmin.mp rfl).symm
  | rangeChar => exact (hchar.mp rfl).symm
  | rangeLength =>
      cases kind' with
      | rangeLength => rfl
      | maxLength => exact hmax.mpr rfl
      | minLength => exact hmin.mpr rfl
      | rangeChar => exact hchar.mpr rfl
      | _ => exact absurd rfl hkind'
  | _ => exact absurd rfl hkind

theorem kind_eq_of_numbered_sentence_eq (hkind : kind.arity ≠ 0) (hkind' : kind'.arity ≠ 0)
    (h : locale.sentence kind detail = locale.sentence kind' detail') : kind = kind' := by
  obtain ⟨hname, hlimits⟩ := locale.cut_sentence hkind detail
  obtain ⟨hname', hlimits'⟩ := locale.cut_sentence hkind' detail'
  rw [h, hname', String.toList_inj] at hname
  rw [h, hlimits'] at hlimits
  refine kind_eq_of_signs hkind hkind' ?_ ?_ ?_
  · rw [← measureName_eq_iff, ← hname, measureName_eq_iff]
  · rw [← (mem_limitsText_iff hkind).1, ← hlimits, (mem_limitsText_iff hkind').1]
  · rw [← (mem_limitsText_iff hkind).2, ← hlimits, (mem_limitsText_iff hkind').2]

theorem kind_eq_of_sentence_eq
    (h : locale.sentence kind detail = locale.sentence kind' detail') : kind = kind' := by
  have hopening : locale.opening kind = locale.opening kind' := by
    rw [← take_two_sentence locale kind detail, h, take_two_sentence]
  have harity : kind.arity ≠ 0 ↔ kind'.arity ≠ 0 := by
    rw [← head?_opening_mem_iff locale, hopening, head?_opening_mem_iff]
  by_cases hkind : kind.arity = 0
  · have hkind' : kind'.arity = 0 := not_not.mp (mt harity.mpr (not_not.mpr hkind))
    rw [locale.sentence_of_arity_eq_zero hkind, locale.sentence_of_arity_eq_zero hkind'] at h
    exact List.inj_on_of_nodup_map locale.nodup_sentences kind.mem_all kind'.mem_all h
  · exact kind_eq_of_numbered_sentence_eq hkind (harity.mp hkind) h

theorem told_eq_of_sentence_eq
    (h : locale.sentence kind detail = locale.sentence kind detail') :
    kind.told detail = kind.told detail' := by
  by_cases hkind : kind.arity = 0
  · rw [Kind.told_of_arity_eq_zero hkind, Kind.told_of_arity_eq_zero hkind]
  · have hshown : (kind.told detail).map Detail.numberText =
        (kind.told detail').map Detail.numberText := by
      rw [← Kind.shownSides_boundsOf hkind, ← Kind.shownSides_boundsOf hkind,
        ← shownNumbers_compose locale hkind false, ← shownNumbers_compose locale hkind false,
        compose, compose, ← locale.sentence_boundsOf hkind, ← locale.sentence_boundsOf hkind, h]
    exact List.map_injective_iff.mpr Detail.numberText_injective hshown

/-- Two messages are worded alike only if they are in the same locale and of the same kind, both for
required fields or both not, and tell the same numbers, of any size and missing ones included. Then
they are always worded alike. -/
theorem compose_eq_compose_iff {required required' : Bool} :
    locale.compose kind required detail = locale'.compose kind' required' detail' ↔
      locale = locale' ∧ kind = kind' ∧ required = required' ∧
        kind.told detail = kind'.told detail' := by
  constructor
  · intro h
    have hbeginning := congrArg (fun s : String => ofBeginning (s.toList.take 2)) h
    simp only [ofBeginning_compose, Prod.mk.injEq] at hbeginning
    obtain ⟨rfl, rfl⟩ := hbeginning
    have hsentence : locale.sentence kind detail = locale.sentence kind' detail' :=
      String.append_right_inj _ |>.mp h
    obtain rfl := kind_eq_of_sentence_eq hsentence
    exact ⟨rfl, rfl, rfl, told_eq_of_sentence_eq hsentence⟩
  · rintro ⟨rfl, rfl, rfl, htold⟩
    rw [compose, compose, locale.sentence_congr htold]

end Locale

end FormCheck
