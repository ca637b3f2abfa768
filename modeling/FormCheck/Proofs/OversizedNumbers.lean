import FormCheck.Proofs.RulesGrammar

/-!
Numbers that are too large. A text is refused over the first of its pieces that cannot be taken. A
number that is too large is therefore reported also where a later piece is no numeral, or where
there are too many pieces, and then clipping the number does not make the text readable.
-/

namespace FormCheck.Arguments

open Text (isNumeral decimal)

variable {kind : Kind} {rules : String} {oversize : Oversize}

theorem readNumber_eq_error_iff {s : List Char} {defect : Defect} :
    readNumber oversize s = .error defect ↔
      (isNumeral s = false ∧ defect = .notANumeral) ∨
        (isNumeral s = true ∧ oversize = .refuse ∧ largest < decimal s ∧ defect = .tooLarge) := by
  unfold readNumber
  generalize largest = limit
  by_cases hs : isNumeral s = true
  · by_cases hsize : decimal s ≤ limit
    · simp [hs, hsize]
    · cases oversize <;> simp [hs, hsize, Nat.lt_of_not_le hsize, eq_comm]
  · simp [hs, eq_comm]

theorem map_eq_error_iff {outcome : Except ε α} {f : α → β} {e : ε} :
    outcome.map f = .error e ↔ outcome = .error e := by
  cases outcome <;> simp [Except.map]

/-- Pieces are refused over the first one that cannot be taken, whatever comes after it. -/
theorem readNumbers_eq_error_iff {pieces : List (List Char)} {defect : Defect} :
    readNumbers oversize pieces = .error defect ↔
      ∃ before piece after, pieces = before ++ piece :: after ∧
        (∃ numbers, readNumbers oversize before = .ok numbers) ∧
          readNumber oversize piece = .error defect := by
  induction pieces with
  | nil =>
      constructor
      · intro h
        cases h
      · rintro ⟨before, piece, after, hpieces, -⟩
        cases before <;> cases hpieces
  | cons first pieces ih =>
      cases hfirst : readNumber oversize first with
      | error defect' =>
          rw [readNumbers_cons_of_error hfirst]
          constructor
          · intro h
            obtain rfl := Except.error.inj h
            exact ⟨[], first, pieces, rfl, ⟨[], rfl⟩, hfirst⟩
          · rintro ⟨before, piece, after, hpieces, ⟨numbers, hbefore⟩, hpiece⟩
            rcases List.cons_eq_append_iff.mp hpieces with ⟨rfl, hsame⟩ | ⟨rest, rfl, -⟩
            · obtain ⟨rfl, -⟩ := List.cons.inj hsame
              exact congrArg Except.error (Except.error.inj (hfirst.symm.trans hpiece))
            · rw [readNumbers_cons_of_error hfirst] at hbefore
              cases hbefore
      | ok n =>
          rw [readNumbers_cons_of_ok hfirst, map_eq_error_iff, ih]
          constructor
          · rintro ⟨before, piece, after, rfl, ⟨numbers, hbefore⟩, hpiece⟩
            refine ⟨first :: before, piece, after, rfl, ⟨n :: numbers, ?_⟩, hpiece⟩
            rw [readNumbers_cons_of_ok hfirst, hbefore]
            rfl
          · rintro ⟨before, piece, after, hpieces, ⟨numbers, hbefore⟩, hpiece⟩
            rcases List.cons_eq_append_iff.mp hpieces with ⟨rfl, hsame⟩ | ⟨rest, rfl, hrest⟩
            · obtain ⟨rfl, -⟩ := List.cons.inj hsame
              rw [hfirst] at hpiece
              cases hpiece
            · refine ⟨rest, piece, after, hrest, ?_, hpiece⟩
              rw [readNumbers_cons_of_ok hfirst] at hbefore
              cases hread : readNumbers oversize rest with
              | error defect' =>
                  rw [hread] at hbefore
                  cases hbefore
              | ok numbers' => exact ⟨numbers', rfl⟩

theorem eq_malformed_of_ofNumbers_eq_error {ns : List Nat} {e : ArgumentsError}
    (h : ofNumbers kind rules ns = .error e) : e = .malformed kind rules := by
  unfold ofNumbers at h
  split at h
  · split at h <;> cases h
    rfl
  · split at h <;> cases h
    rfl
  · cases h
    rfl

/-- A rules text in which a numeral above the largest number comes before all pieces that are no
numerals. Nothing is asked of the pieces after it, nor of how many there are. -/
structure MeetsOversized (kind : Kind) (before : List (List Char)) (numeral : List Char)
    (after : List (List Char)) (rules : String) : Prop
    extends HasPieces kind (before ++ numeral :: after) rules where
  isNumeral_before : ∀ small ∈ before, isNumeral small = true
  le_largest : ∀ small ∈ before, decimal small ≤ largest
  isNumeral : isNumeral numeral = true
  largest_lt : largest < decimal numeral

theorem MeetsOversized.read_refuse {before : List (List Char)} {numeral : List Char}
    {after : List (List Char)} (h : MeetsOversized kind before numeral after rules) :
    read .refuse kind rules = .error (.overflow kind rules) := by
  have hbefore : ∃ numbers, readNumbers .refuse before = .ok numbers :=
    ⟨_, readNumbers_eq_ok_iff.mpr ⟨h.isNumeral_before, fun _ => h.le_largest, rfl⟩⟩
  have hnumeral : readNumber .refuse numeral = .error .tooLarge :=
    readNumber_eq_error_iff.mpr (.inr ⟨h.isNumeral, rfl, h.largest_lt, rfl⟩)
  have hnumbers : readNumbers .refuse (before ++ numeral :: after) = .error .tooLarge :=
    readNumbers_eq_error_iff.mpr ⟨before, numeral, after, rfl, hbefore, hnumeral⟩
  exact h.toHasPieces.read_of_error hnumbers

theorem read_error_cases (hkind : kind.arity ≠ 0) {e : ArgumentsError}
    (h : read oversize kind rules = .error e) :
    e = .malformed kind rules ∨ oversize = .refuse ∧ e = .overflow kind rules ∧
      ∃ before numeral after, MeetsOversized kind before numeral after rules := by
  rcases hasPieces_or_malformed hkind rules with ⟨pieces, hpieces⟩ | hmalformed
  · cases hnumbers : readNumbers oversize pieces with
    | error defect =>
        rw [hpieces.read_of_error hnumbers] at h
        obtain rfl := Except.error.inj h
        obtain ⟨before, piece, after, rfl, ⟨numbers, hbefore⟩, hpiece⟩ :=
          readNumbers_eq_error_iff.mp hnumbers
        rcases readNumber_eq_error_iff.mp hpiece with ⟨-, rfl⟩ | ⟨hnumeral, rfl, hlarge, rfl⟩
        · exact .inl rfl
        · obtain ⟨hnumerals, hsizes, -⟩ := readNumbers_eq_ok_iff.mp hbefore
          exact .inr ⟨rfl, rfl, before, piece, after, hpieces, hnumerals, hsizes rfl, hnumeral,
            hlarge⟩
    | ok numbers =>
        rw [hpieces.read_of_ok hnumbers] at h
        exact .inl (eq_malformed_of_ofNumbers_eq_error h)
  · rw [hmalformed] at h
    exact .inl (Except.error.inj h).symm

theorem read_refuse_eq_overflow_iff :
    read .refuse kind rules = .error (.overflow kind rules) ↔
      ∃ before numeral after, MeetsOversized kind before numeral after rules := by
  constructor
  · intro h
    by_cases hkind : kind.arity = 0
    · rw [read_of_arity_eq_zero hkind] at h
      cases h
    · rcases read_error_cases hkind h with hmalformed | ⟨-, -, hmeets⟩
      · cases hmalformed
      · exact hmeets
  · rintro ⟨before, numeral, after, h⟩
    exact h.read_refuse

theorem Spells.exists_read_clip {numerals : List (List Char)} (h : Spells kind numerals rules) :
    ∃ args, read .clip kind rules = .ok args ∧
      args.toList = numerals.map fun numeral => min (decimal numeral) largest := by
  obtain ⟨args, hargs⟩ := h.exists_clipped
  exact ⟨args, read_eq_ok_iff.mpr ⟨numerals, h, by simp, hargs⟩, hargs⟩

theorem Spells.read_refuse_eq_overflow_iff {numerals : List (List Char)}
    (h : Spells kind numerals rules) :
    read .refuse kind rules = .error (.overflow kind rules) ↔
      ∃ numeral ∈ numerals, largest < decimal numeral := by
  have hsmall : (∀ numeral ∈ numerals, decimal numeral ≤ largest) ↔
      ¬∃ numeral ∈ numerals, largest < decimal numeral := by
    simp
  cases hnumbers : readNumbers .refuse numerals with
  | ok numbers =>
      obtain ⟨-, hsizes, -⟩ := readNumbers_eq_ok_iff.mp hnumbers
      have hread : ∃ args, read .refuse kind rules = .ok args :=
        exists_read_eq_ok_iff.mpr ⟨numerals, h, hsizes⟩
      obtain ⟨args, hread⟩ := hread
      rw [hread]
      exact ⟨fun hover => (by cases hover), fun hlarge => absurd hlarge (hsmall.mp (hsizes rfl))⟩
  | error defect =>
      obtain ⟨before, piece, after, rfl, -, hpiece⟩ := readNumbers_eq_error_iff.mp hnumbers
      rcases readNumber_eq_error_iff.mp hpiece with ⟨hnot, -⟩ | ⟨-, -, hlarge, rfl⟩
      · rw [h.isNumeral piece (by simp)] at hnot
        cases hnot
      · exact ⟨fun _ => ⟨piece, by simp, hlarge⟩, fun _ => h.hasPieces.read_of_error hnumbers⟩

theorem Spells.exists_read_clip_of_overflow {numerals : List (List Char)}
    (h : Spells kind numerals rules)
    (hover : read .refuse kind rules = .error (.overflow kind rules)) :
    ∃ args, read .clip kind rules = .ok args ∧ largest ∈ args.toList := by
  obtain ⟨numeral, hnumeral, hlarge⟩ := h.read_refuse_eq_overflow_iff.mp hover
  obtain ⟨args, hread, hargs⟩ := h.exists_read_clip
  refine ⟨args, hread, ?_⟩
  rw [hargs]
  exact List.mem_map.mpr ⟨numeral, hnumeral, Nat.min_eq_right hlarge.le⟩

theorem read_clip_eq_malformed_iff :
    read .clip kind rules = .error (.malformed kind rules) ↔
      kind.arity ≠ 0 ∧ ¬∃ numerals, Spells kind numerals rules := by
  constructor
  · intro h
    refine ⟨fun hkind => ?_, ?_⟩
    · rw [read_of_arity_eq_zero hkind] at h
      cases h
    · rintro ⟨numerals, hspells⟩
      obtain ⟨args, hread, -⟩ := hspells.exists_read_clip
      rw [hread] at h
      cases h
  · rintro ⟨hkind, hform⟩
    cases hread : read .clip kind rules with
    | ok args =>
        obtain ⟨numerals, hspells, -⟩ := read_eq_ok_iff.mp hread
        exact absurd ⟨numerals, hspells⟩ hform
    | error e =>
        rcases read_error_cases hkind hread with rfl | ⟨hrefuse, -⟩
        · rfl
        · cases hrefuse

theorem read_refuse_eq_malformed_iff :
    read .refuse kind rules = .error (.malformed kind rules) ↔
      kind.arity ≠ 0 ∧ (¬∃ numerals, Spells kind numerals rules) ∧
        ¬∃ before numeral after, MeetsOversized kind before numeral after rules := by
  constructor
  · intro h
    refine ⟨fun hkind => ?_, ?_, fun hmeets => ?_⟩
    · rw [read_of_arity_eq_zero hkind] at h
      cases h
    · rintro ⟨numerals, hspells⟩
      have hsmall : ∀ numeral ∈ numerals, decimal numeral ≤ largest := by
        intro numeral hnumeral
        by_contra hlarge
        rw [hspells.read_refuse_eq_overflow_iff.mpr ⟨numeral, hnumeral, by omega⟩] at h
        cases h
      obtain ⟨args, hread⟩ : ∃ args, read .refuse kind rules = .ok args :=
        exists_read_eq_ok_iff.mpr ⟨numerals, hspells, fun _ => hsmall⟩
      rw [hread] at h
      cases h
    · rw [read_refuse_eq_overflow_iff.mpr hmeets] at h
      cases h
  · rintro ⟨hkind, hform, hmeets⟩
    cases hread : read .refuse kind rules with
    | ok args =>
        obtain ⟨numerals, hspells, -⟩ := read_eq_ok_iff.mp hread
        exact absurd ⟨numerals, hspells⟩ hform
    | error e =>
        rcases read_error_cases hkind hread with rfl | ⟨-, -, hfirst⟩
        · rfl
        · exact absurd hfirst hmeets

theorem read_clip_of_read_refuse_error {e : ArgumentsError}
    (h : read .refuse kind rules = .error e) (hother : e ≠ .overflow kind rules) :
    read .clip kind rules = .error e ∧
      (e = .malformed kind rules ∨ e = .notParameterised kind) := by
  by_cases hkind : kind.arity = 0
  · obtain rfl := Except.error.inj ((read_of_arity_eq_zero hkind _ _).symm.trans h)
    exact ⟨read_of_arity_eq_zero hkind _ _, .inr rfl⟩
  · rcases read_error_cases hkind h with rfl | ⟨-, hover, -⟩
    · obtain ⟨-, hform, -⟩ := read_refuse_eq_malformed_iff.mp h
      exact ⟨read_clip_eq_malformed_iff.mpr ⟨hkind, hform⟩, .inl rfl⟩
    · exact absurd hover hother

/-- What is read without clipping is read with it to the same numbers, and an error other than a
number too large comes out of both ways of reading. A text of the right form is too large exactly
when one of its numerals is, and clipping then reads the largest number for it. But a text is called
too large as soon as an oversized numeral is the first of its defects, also where it is not of the
right form, and malformed only without such a numeral. Clipping cannot read these texts, and they
are all the texts over which the two ways of reading do not agree. -/
theorem refuse_and_clip_agree_iff (kind : Kind) (rules : String) :
    (∀ args, read .refuse kind rules = .ok args → read .clip kind rules = .ok args) ∧
    (∀ e, read .refuse kind rules = .error e → e ≠ .overflow kind rules →
      read .clip kind rules = .error e ∧
        (e = .malformed kind rules ∨ e = .notParameterised kind)) ∧
    (∀ numerals, Spells kind numerals rules →
      (read .refuse kind rules = .error (.overflow kind rules) ↔
        ∃ numeral ∈ numerals, largest < decimal numeral) ∧
      (read .refuse kind rules = .error (.overflow kind rules) →
        ∃ args, read .clip kind rules = .ok args ∧ largest ∈ args.toList)) ∧
    (read .refuse kind rules = .error (.overflow kind rules) ↔
      ∃ before numeral after, MeetsOversized kind before numeral after rules) ∧
    (read .refuse kind rules = .error (.malformed kind rules) ↔
      kind.arity ≠ 0 ∧ (¬∃ numerals, Spells kind numerals rules) ∧
        ¬∃ before numeral after, MeetsOversized kind before numeral after rules) ∧
    (read .clip kind rules = .error (.malformed kind rules) ↔
      kind.arity ≠ 0 ∧ ¬∃ numerals, Spells kind numerals rules) ∧
    ((∀ e, read .refuse kind rules = .error e → read .clip kind rules = .error e ∨
        ∃ args, read .clip kind rules = .ok args ∧ largest ∈ args.toList) ↔
      ¬((∃ before numeral after, MeetsOversized kind before numeral after rules) ∧
        ¬∃ numerals, Spells kind numerals rules)) := by
  refine ⟨fun args => read_clip_of_read_refuse, fun e => read_clip_of_read_refuse_error, ?_,
    read_refuse_eq_overflow_iff, read_refuse_eq_malformed_iff, read_clip_eq_malformed_iff, ?_⟩
  · intro numerals hspells
    exact ⟨hspells.read_refuse_eq_overflow_iff, hspells.exists_read_clip_of_overflow⟩
  · constructor
    · rintro hagree ⟨hmeets, hform⟩
      have hover := read_refuse_eq_overflow_iff.mpr hmeets
      obtain ⟨before, numeral, after, hfirst⟩ := hmeets
      have hclip := read_clip_eq_malformed_iff.mpr ⟨hfirst.takes_numbers, hform⟩
      rcases hagree _ hover with hsame | ⟨args, hread, -⟩
      · cases hclip.symm.trans hsame
      · cases hclip.symm.trans hread
    · intro hdisagree e hread
      by_cases hover : e = .overflow kind rules
      · subst hover
        have hmeets := read_refuse_eq_overflow_iff.mp hread
        have hform : ∃ numerals, Spells kind numerals rules :=
          not_not.mp fun hform => hdisagree ⟨hmeets, hform⟩
        obtain ⟨numerals, hspells⟩ := hform
        exact .inr (hspells.exists_read_clip_of_overflow hread)
      · exact .inl (read_clip_of_read_refuse_error hread hover).1

theorem refuse_and_clip_agree_on_second :
    read .refuse .rangeChar "rangeChar:7,18446744073709551616" =
        .error (.overflow .rangeChar "rangeChar:7,18446744073709551616") ∧
      ∃ args, read .clip .rangeChar "rangeChar:7,18446744073709551616" = .ok args ∧
        largest ∈ args.toList := by
  have hspells : Spells .rangeChar ["7".toList, "18446744073709551616".toList]
      "rangeChar:7,18446744073709551616" := ⟨by decide, rfl, by decide, by decide⟩
  obtain ⟨-, -, hform, -⟩ :=
    refuse_and_clip_agree_iff .rangeChar "rangeChar:7,18446744073709551616"
  obtain ⟨hover, hclip⟩ := hform _ hspells
  have hlarge := hover.mpr ⟨"18446744073709551616".toList, by decide, by decide⟩
  exact ⟨hlarge, hclip hlarge⟩

theorem refuse_and_clip_disagree_on_surplus :
    read .refuse .maxLength "maxLength:99999999999999999999,1" =
        .error (.overflow .maxLength "maxLength:99999999999999999999,1") ∧
      read .clip .maxLength "maxLength:99999999999999999999,1" =
        .error (.malformed .maxLength "maxLength:99999999999999999999,1") ∧
      ¬∃ numerals, Spells .maxLength numerals "maxLength:99999999999999999999,1" := by
  have hclip : read .clip .maxLength "maxLength:99999999999999999999,1" =
      .error (.malformed .maxLength "maxLength:99999999999999999999,1") := by decide
  exact ⟨by decide, hclip, (read_clip_eq_malformed_iff.mp hclip).2⟩

end FormCheck.Arguments
