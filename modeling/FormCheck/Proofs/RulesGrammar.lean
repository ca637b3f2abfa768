import FormCheck.Proofs.RulesTexts
import Mathlib.Data.List.Basic

namespace FormCheck.Arguments

open Text (isNumeral decimal)

/-- The rules text that gives a kind these numbers, written without leading zeros. -/
def print (kind : Kind) (args : Arguments) : String :=
  kind.name ++ ":" ++ ",".intercalate (args.toList.map toString)

variable {kind other : Kind} {rules : String} {numerals : List (List Char)}

theorem exists_toList_eq {ns : List Nat} (hkind : kind.arity ≠ 0)
    (hlength : ns.length = kind.arity) :
    ∃ args : Arguments, args.toList = ns := by
  have hsmall : ns.length = 1 ∨ ns.length = 2 := by
    rw [hlength]
    cases kind <;> simp_all [Kind.arity]
  rcases hsmall with hone | htwo
  · obtain ⟨n, rfl⟩ := List.length_eq_one_iff.mp hone
    exact ⟨.one n, rfl⟩
  · obtain ⟨a, b, rfl⟩ := List.length_eq_two.mp htwo
    exact ⟨.two a b, rfl⟩

theorem Spells.exists_clipped (h : Spells kind numerals rules) :
    ∃ args : Arguments, args.toList = numerals.map fun numeral => min (decimal numeral) largest :=
  exists_toList_eq h.takes_numbers (by rw [List.length_map, h.length_eq])

theorem exists_read_eq_ok_iff {oversize : Oversize} :
    (∃ args, read oversize kind rules = .ok args) ↔
      ∃ numerals, Spells kind numerals rules ∧
        (oversize = .refuse → ∀ numeral ∈ numerals, decimal numeral ≤ largest) := by
  constructor
  · rintro ⟨args, hread⟩
    obtain ⟨numerals, hspells, hsizes, -⟩ := read_eq_ok_iff.mp hread
    exact ⟨numerals, hspells, hsizes⟩
  · rintro ⟨numerals, hspells, hsizes⟩
    obtain ⟨args, hargs⟩ := hspells.exists_clipped
    exact ⟨args, read_eq_ok_iff.mpr ⟨numerals, hspells, hsizes, hargs⟩⟩

theorem map_min_largest (hsizes : ∀ numeral ∈ numerals, decimal numeral ≤ largest) :
    (numerals.map fun numeral => min (decimal numeral) largest) = numerals.map decimal :=
  List.map_congr_left fun numeral hnumeral => Nat.min_eq_left (hsizes numeral hnumeral)

theorem read_refuse_eq_ok_iff {args : Arguments} :
    read .refuse kind rules = .ok args ↔
      ∃ numerals, Spells kind numerals rules ∧ (∀ numeral ∈ numerals, decimal numeral ≤ largest) ∧
        args.toList = numerals.map decimal := by
  rw [read_eq_ok_iff]
  constructor
  · rintro ⟨numerals, hspells, hsizes, hargs⟩
    exact ⟨numerals, hspells, hsizes rfl, by rw [hargs, map_min_largest (hsizes rfl)]⟩
  · rintro ⟨numerals, hspells, hsizes, hargs⟩
    exact ⟨numerals, hspells, fun _ => hsizes, by rw [hargs, map_min_largest hsizes]⟩

theorem spells_print {args : Arguments} (hlength : args.toList.length = kind.arity) :
    Spells kind (args.toList.map (Nat.toDigits 10)) (print kind args) where
  takes_numbers := by
    rw [← hlength]
    cases args <;> simp [toList]
  length_eq := by rw [List.length_map, hlength]
  isNumeral := List.forall_mem_map.mpr fun n _ => Text.isNumeral_toDigits n
  text := by
    simp [print, String.toList_intercalate, Function.comp_def]

theorem read_print {args : Arguments} (hlength : args.toList.length = kind.arity)
    (hsizes : ∀ n ∈ args.toList, n ≤ largest) : read .refuse kind (print kind args) = .ok args := by
  refine read_refuse_eq_ok_iff.mpr ⟨_, spells_print hlength, ?_, ?_⟩
  · refine List.forall_mem_map.mpr fun n hn => ?_
    rw [Text.decimal_toDigits]
    exact hsizes n hn
  · rw [List.map_map]
    exact (List.map_id'' Text.decimal_toDigits _).symm

theorem not_mem_colon_name (kind : Kind) : ':' ∉ kind.name.toList := by
  cases kind <;> decide

theorem kind_eq_of_name_append {s t : List Char}
    (h : kind.name.toList ++ ':' :: s = other.name.toList ++ ':' :: t) : kind = other := by
  have hname := Text.before_append (not_mem_colon_name kind) s
  rw [h, Text.before_append (not_mem_colon_name other)] at hname
  exact (Kind.name_injective (String.toList_injective hname)).symm

theorem Spells.kind_eq {numerals' : List (List Char)} (h : Spells kind numerals rules)
    (h' : Spells other numerals' rules) : kind = other :=
  kind_eq_of_name_append (h.text.symm.trans h'.text)

/-- A rules text is read exactly when it is the name of its kind, a colon and as many numerals as
the kind takes, with commas between them. Its numbers are those that the numerals spell, in their
order; numerals above the largest number are refused or clipped to it, and nothing else depends on
that choice. -/
theorem read_accepts_exactly_grammar (kind : Kind) (rules : String) :
    ((∃ args, read .refuse kind rules = .ok args) ↔ ∃ numerals, Spells kind numerals rules ∧
      ∀ numeral ∈ numerals, decimal numeral ≤ largest) ∧
    (∀ args, read .refuse kind rules = .ok args ↔ ∃ numerals, Spells kind numerals rules ∧
      (∀ numeral ∈ numerals, decimal numeral ≤ largest) ∧ args.toList = numerals.map decimal) ∧
    ((∃ args, read .clip kind rules = .ok args) ↔ ∃ numerals, Spells kind numerals rules) ∧
    (∀ args, read .clip kind rules = .ok args ↔ ∃ numerals, Spells kind numerals rules ∧
      args.toList = numerals.map fun numeral => min (decimal numeral) largest) ∧
    (∀ args : Arguments, args.toList.length = kind.arity → (∀ n ∈ args.toList, n ≤ largest) →
      read .refuse kind (print kind args) = .ok args) ∧
    ∀ oversize oversize' args args' other, read oversize kind rules = .ok args →
      read oversize' other rules = .ok args' → kind = other := by
  refine ⟨?_, fun args => read_refuse_eq_ok_iff, ?_, ?_, fun args => read_print, ?_⟩
  · rw [exists_read_eq_ok_iff]
    simp
  · rw [exists_read_eq_ok_iff]
    simp
  · intro args
    rw [read_eq_ok_iff]
    simp
  · intro oversize oversize' args args' other hread hother
    obtain ⟨numerals, hspells, -⟩ := read_eq_ok_iff.mp hread
    obtain ⟨numerals', hspells', -⟩ := read_eq_ok_iff.mp hother
    exact hspells.kind_eq hspells'

theorem read_refuse_leading_zeros :
    read .refuse .rangeLength "rangeLength:007,18446744073709551615" = .ok (.two 7 largest) ∧
      read .refuse .rangeLength (print .rangeLength (.two 7 largest)) = .ok (.two 7 largest) ∧
        ¬∃ args, read .clip .rangeChar "rangeLength:007,18446744073709551615" = .ok args := by
  have hspells : Spells .rangeLength ["007".toList, "18446744073709551615".toList]
      "rangeLength:007,18446744073709551615" := ⟨by decide, rfl, by decide, by decide⟩
  obtain ⟨-, hrefuse, -, -, hprint, hkind⟩ :=
    read_accepts_exactly_grammar .rangeLength "rangeLength:007,18446744073709551615"
  have hread := (hrefuse (.two 7 largest)).mpr ⟨_, hspells, by decide, by decide⟩
  refine ⟨hread, hprint (.two 7 largest) rfl (by decide), ?_⟩
  rintro ⟨args, hargs⟩
  exact absurd (hkind _ _ _ _ _ hread hargs) (by decide)

end FormCheck.Arguments
