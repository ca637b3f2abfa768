import FormCheck.Arguments
import FormCheck.Proofs.Numerals

namespace FormCheck.Arguments

open Text (isDigit isNumeral decimal splitOn)

/-- A rules text in the form that its kind asks for, with numerals of any length. -/
structure Spells (kind : Kind) (numerals : List (List Char)) (rules : String) : Prop where
  takes_numbers : kind.arity ≠ 0
  length_eq : numerals.length = kind.arity
  isNumeral : ∀ numeral ∈ numerals, isNumeral numeral = true
  text : rules.toList = kind.name.toList ++ ':' :: [','].intercalate numerals

theorem readNumber_eq_ok_iff {oversize : Oversize} {s : List Char} {n : Nat} :
    readNumber oversize s = .ok n ↔
      isNumeral s = true ∧ (oversize = .refuse → decimal s ≤ largest) ∧
        n = min (decimal s) largest := by
  unfold readNumber
  -- The size of the limit does not matter, and as a numeral it would be unfolded.
  generalize largest = limit
  by_cases hs : isNumeral s = true
  · by_cases hsize : decimal s ≤ limit
    · rw [Nat.min_eq_left hsize, eq_comm (a := n)]
      simp [hs, hsize]
    · rw [Nat.min_eq_right (by omega), eq_comm (a := n)]
      cases oversize <;> simp [hs, hsize]
  · simp [hs]

theorem readNumbers_cons_of_error {oversize : Oversize} {piece : List Char} {defect : Defect}
    (h : readNumber oversize piece = .error defect) (pieces : List (List Char)) :
    readNumbers oversize (piece :: pieces) = .error defect := by
  rw [readNumbers, h]
  rfl

theorem readNumbers_cons_of_ok {oversize : Oversize} {piece : List Char} {n : Nat}
    (h : readNumber oversize piece = .ok n) (pieces : List (List Char)) :
    readNumbers oversize (piece :: pieces) = (readNumbers oversize pieces).map (n :: ·) := by
  rw [readNumbers, h]
  cases hpieces : readNumbers oversize pieces <;> rfl

theorem readNumbers_eq_ok_iff {oversize : Oversize} {pieces : List (List Char)} {ns : List Nat} :
    readNumbers oversize pieces = .ok ns ↔
      (∀ piece ∈ pieces, isNumeral piece = true) ∧
        (oversize = .refuse → ∀ piece ∈ pieces, decimal piece ≤ largest) ∧
          ns = pieces.map fun piece => min (decimal piece) largest := by
  induction pieces generalizing ns with
  | nil =>
      constructor
      · intro h
        cases h
        exact ⟨by simp, fun _ piece hpiece => absurd hpiece List.not_mem_nil, rfl⟩
      · rintro ⟨-, -, rfl⟩
        rfl
  | cons piece pieces ih =>
      constructor
      · intro h
        cases hn : readNumber oversize piece with
        | error defect =>
            rw [readNumbers_cons_of_error hn] at h
            cases h
        | ok n =>
            rw [readNumbers_cons_of_ok hn] at h
            cases hrest : readNumbers oversize pieces with
            | error defect =>
                rw [hrest] at h
                cases h
            | ok rest =>
                rw [hrest] at h
                obtain rfl : n :: rest = ns := Except.ok.inj h
                obtain ⟨hnumeral, hsize, hvalue⟩ := readNumber_eq_ok_iff.mp hn
                obtain ⟨hnumerals, hsizes, hvalues⟩ := ih.mp hrest
                refine ⟨by simpa using ⟨hnumeral, hnumerals⟩, ?_, ?_⟩
                · intro hrefuse
                  simpa using ⟨hsize hrefuse, hsizes hrefuse⟩
                · rw [hvalue, hvalues, List.map_cons]
      · rintro ⟨hnumerals, hsizes, rfl⟩
        have hn := readNumber_eq_ok_iff.mpr ⟨hnumerals piece (by simp),
          fun hrefuse => hsizes hrefuse piece (by simp), rfl⟩
        have hrest := ih.mpr ⟨fun p hp => hnumerals p (by simp [hp]),
          fun hrefuse p hp => hsizes hrefuse p (by simp [hp]), rfl⟩
        rw [readNumbers_cons_of_ok hn, hrest]
        rfl

theorem ofNumbers_eq_ok_iff {kind : Kind} {rules : String} {ns : List Nat} {args : Arguments} :
    ofNumbers kind rules ns = .ok args ↔ args.toList = ns ∧ ns.length = kind.arity := by
  unfold ofNumbers
  split
  · by_cases h : kind.arity = 1
    · cases args <;> simp [toList, h, eq_comm]
    · simp [h, Ne.symm h]
  · by_cases h : kind.arity = 2
    · cases args <;> simp [toList, h, eq_comm]
    · simp [h, Ne.symm h]
  · rename_i hone htwo
    constructor
    · intro h
      cases h
    · rintro ⟨rfl, -⟩
      cases args with
      | one n => exact absurd rfl (hone n)
      | two a b => exact absurd rfl (htwo a b)

/-- A rules text as the pieces between its commas, whatever stands in them. -/
structure HasPieces (kind : Kind) (pieces : List (List Char)) (rules : String) : Prop where
  takes_numbers : kind.arity ≠ 0
  ne_nil : pieces ≠ []
  not_mem_comma : ∀ piece ∈ pieces, ',' ∉ piece
  text : rules.toList = kind.name.toList ++ ':' :: [','].intercalate pieces

theorem Spells.hasPieces {kind : Kind} {numerals : List (List Char)} {rules : String}
    (h : Spells kind numerals rules) : HasPieces kind numerals rules where
  takes_numbers := h.takes_numbers
  ne_nil := by
    rintro rfl
    exact h.takes_numbers h.length_eq.symm
  not_mem_comma := fun numeral hnumeral =>
    Text.not_mem_of_isNumeral (h.isNumeral numeral hnumeral) (by decide)
  text := h.text

theorem HasPieces.dropStart?_eq {kind : Kind} {pieces : List (List Char)} {rules : String}
    (h : HasPieces kind pieces rules) :
    Text.dropStart? (kind.name.toList ++ [':']) rules.toList = some ([','].intercalate pieces) := by
  rw [Text.dropStart?_eq_some_iff, h.text, List.append_assoc, List.singleton_append]

theorem HasPieces.splitOn_eq {kind : Kind} {pieces : List (List Char)} {rules : String}
    (h : HasPieces kind pieces rules) :
    splitOn (· == ',') ([','].intercalate pieces) = pieces :=
  (Text.splitOn_eq_iff h.not_mem_comma h.ne_nil).mpr rfl

theorem HasPieces.read_of_error {kind : Kind} {pieces : List (List Char)} {rules : String}
    (h : HasPieces kind pieces rules) {oversize : Oversize} {defect : Defect}
    (hnumbers : readNumbers oversize pieces = .error defect) :
    read oversize kind rules = .error (defect.error kind rules) := by
  unfold read
  rw [if_neg h.takes_numbers, h.dropStart?_eq]
  simp only [h.splitOn_eq, hnumbers]

theorem HasPieces.read_of_ok {kind : Kind} {pieces : List (List Char)} {rules : String}
    (h : HasPieces kind pieces rules) {oversize : Oversize} {numbers : List Nat}
    (hnumbers : readNumbers oversize pieces = .ok numbers) :
    read oversize kind rules = ofNumbers kind rules numbers := by
  unfold read
  rw [if_neg h.takes_numbers, h.dropStart?_eq]
  simp only [h.splitOn_eq, hnumbers]

theorem read_of_arity_eq_zero {kind : Kind} (hkind : kind.arity = 0) (oversize : Oversize)
    (rules : String) : read oversize kind rules = .error (.notParameterised kind) := by
  rw [read, if_pos hkind]

theorem hasPieces_or_malformed {kind : Kind} (hkind : kind.arity ≠ 0) (rules : String) :
    (∃ pieces, HasPieces kind pieces rules) ∨
      ∀ oversize, read oversize kind rules = .error (.malformed kind rules) := by
  cases hbody : Text.dropStart? (kind.name.toList ++ [':']) rules.toList with
  | none =>
      refine .inr fun oversize => ?_
      unfold read
      rw [if_neg hkind, hbody]
  | some body =>
      have htext := Text.dropStart?_eq_some_iff.mp hbody
      have hcommas : ∀ piece ∈ splitOn (· == ',') body, ',' ∉ piece :=
        fun _ => Text.not_mem_of_mem_splitOn
      refine .inl ⟨splitOn (· == ',') body, hkind, Text.splitOn_ne_nil _ _, hcommas, ?_⟩
      rw [htext, List.append_assoc, List.singleton_append]
      congr 2
      exact (Text.splitOn_eq_iff hcommas (Text.splitOn_ne_nil _ _)).mp rfl

/-- What is read are the texts of the right form, and their numbers are clipped to the largest. To
refuse large numbers changes nothing else. -/
theorem read_eq_ok_iff {oversize : Oversize} {kind : Kind} {rules : String} {args : Arguments} :
    read oversize kind rules = .ok args ↔
      ∃ numerals, Spells kind numerals rules ∧
        (oversize = .refuse → ∀ numeral ∈ numerals, decimal numeral ≤ largest) ∧
          args.toList = numerals.map fun numeral => min (decimal numeral) largest := by
  constructor
  · intro h
    have harity : kind.arity ≠ 0 := by
      intro hzero
      rw [read_of_arity_eq_zero hzero] at h
      cases h
    rcases hasPieces_or_malformed harity rules with ⟨pieces, hpieces⟩ | hmalformed
    · cases hnumbers : readNumbers oversize pieces with
      | error defect =>
          rw [hpieces.read_of_error hnumbers] at h
          cases h
      | ok numbers =>
          rw [hpieces.read_of_ok hnumbers] at h
          obtain ⟨hnumerals, hsizes, hvalues⟩ := readNumbers_eq_ok_iff.mp hnumbers
          obtain ⟨hargs, hlength⟩ := ofNumbers_eq_ok_iff.mp h
          refine ⟨pieces, ⟨harity, ?_, hnumerals, hpieces.text⟩, hsizes, ?_⟩
          · rw [← hlength, hvalues, List.length_map]
          · rw [hargs, hvalues]
    · rw [hmalformed] at h
      cases h
  · rintro ⟨numerals, hspells, hsizes, hargs⟩
    have hnumbers : readNumbers oversize numerals = .ok args.toList :=
      readNumbers_eq_ok_iff.mpr ⟨hspells.isNumeral, hsizes, hargs⟩
    have hlength : args.toList.length = kind.arity := by
      rw [hargs, List.length_map, hspells.length_eq]
    rw [hspells.hasPieces.read_of_ok hnumbers]
    exact ofNumbers_eq_ok_iff.mpr ⟨rfl, hlength⟩

theorem read_clip_of_read_refuse {kind : Kind} {rules : String} {args : Arguments}
    (h : read .refuse kind rules = .ok args) : read .clip kind rules = .ok args := by
  obtain ⟨numerals, hspells, -, hargs⟩ := read_eq_ok_iff.mp h
  exact read_eq_ok_iff.mpr ⟨numerals, hspells, by simp, hargs⟩

end FormCheck.Arguments
