import FormCheck.Pattern.Basic

/-!
Matching decides acceptance: `accepts_iff` says that `accepts` holds of exactly the texts that
`Accepts` describes. It rests on one lemma for each of the two questions that matching asks of a
pattern: whether it accepts the empty text, and what is left to accept after one character.
-/

namespace FormCheck.Pattern

@[simp] theorem accepts_empty_iff {s : List Char} : Accepts .empty s ↔ s = [] := by
  constructor
  · rintro ⟨⟩
    rfl
  · rintro rfl
    exact .empty

@[simp] theorem accepts_one_iff {set : CharSet} {s : List Char} :
    Accepts (.one set) s ↔ ∃ c, set.contains c = true ∧ s = [c] := by
  constructor
  · rintro ⟨⟩
    exact ⟨_, ‹_›, rfl⟩
  · rintro ⟨c, h, rfl⟩
    exact .one h

theorem accepts_seq_iff {p q : Pattern} {s : List Char} :
    Accepts (.seq p q) s ↔ ∃ t u, Accepts p t ∧ Accepts q u ∧ s = t ++ u := by
  constructor
  · intro h
    cases h with
    | seq hp hq => exact ⟨_, _, hp, hq, rfl⟩
  · rintro ⟨t, u, hp, hq, rfl⟩
    exact .seq hp hq

theorem accepts_either_iff {p q : Pattern} {s : List Char} :
    Accepts (.either p q) s ↔ Accepts p s ∨ Accepts q s := by
  constructor
  · intro h
    cases h with
    | left hp => exact .inl hp
    | right hq => exact .inr hq
  · rintro (hp | hq)
    · exact .left hp
    · exact .right hq

@[simp] theorem accepts_part_iff {p : Pattern} {s : List Char} :
    Accepts (.part p) s ↔ Accepts p s := by
  constructor
  · intro h
    cases h with
    | part hp => exact hp
  · exact .part

@[simp] theorem accepts_followedBy_iff {p q : Pattern} {s : List Char} :
    Accepts (p.followedBy q) s ↔ Accepts (.seq p q) s := by
  cases p with
  | empty => simp [followedBy, accepts_seq_iff]
  | one | seq | either | times | part => rfl

private theorem accepts_times_nil {p : Pattern} (hp : Accepts p []) :
    ∀ (least : Nat) (most : Option Nat), (∀ n, most = some n → least ≤ n) →
      Accepts (.times p least most) []
  | 0, _, _ => .stop
  | least + 1, most, h => by
    have hmost : most ≠ some 0 := by
      rintro rfl
      exact absurd (h 0 rfl) (by omega)
    refine Accepts.more (s := []) (t := []) hmost hp (accepts_times_nil hp least _ ?_)
    intro n hn
    obtain ⟨m, hm, rfl⟩ := Option.map_eq_some_iff.1 hn
    have := h m hm
    omega

theorem accepts_times_nil_iff {p : Pattern} {least : Nat} {most : Option Nat} :
    Accepts (.times p least most) [] ↔
      least = 0 ∨ Accepts p [] ∧ ∀ n, most = some n → least ≤ n := by
  constructor
  · intro h
    generalize hq : Pattern.times p least most = q at h
    generalize hs : ([] : List Char) = s at h
    induction h generalizing least most with
    | stop =>
      injection hq with _ hleast _
      exact .inl hleast
    | more hmost hp _ _ ihrest =>
      injection hq with h₁ h₂ h₃
      subst h₁ h₂ h₃
      obtain ⟨rfl, rfl⟩ := List.append_eq_nil_iff.1 hs.symm
      refine .inr ⟨hp, fun n hn => ?_⟩
      subst hn
      have hn : n ≠ 0 := fun hzero => hmost (by rw [hzero])
      rcases ihrest rfl rfl with hleast | ⟨_, hle⟩
      · omega
      · have hpred := hle (n - 1) rfl
        omega
    | _ => cases hq
  · rintro (rfl | ⟨hp, hle⟩)
    · exact .stop
    · exact accepts_times_nil hp least most hle

theorem nullable_iff {p : Pattern} : p.nullable = true ↔ Accepts p [] := by
  induction p with
  | empty => simp [nullable]
  | one set => simp [nullable]
  | seq p q ihp ihq =>
    rw [accepts_seq_iff]
    simp only [nullable, Bool.and_eq_true, ihp, ihq]
    constructor
    · rintro ⟨hp, hq⟩
      exact ⟨[], [], hp, hq, rfl⟩
    · rintro ⟨t, u, hp, hq, h⟩
      obtain ⟨rfl, rfl⟩ := List.append_eq_nil_iff.1 h.symm
      exact ⟨hp, hq⟩
  | either p q ihp ihq => simp [nullable, accepts_either_iff, ihp, ihq]
  | part p ih => simp [nullable, ih]
  | times p least most ih =>
    rw [accepts_times_nil_iff]
    simp [nullable, Option.all_eq_true, ih]

theorem accepts_one_cons_iff {set : CharSet} {c : Char} {s : List Char} :
    Accepts (.one set) (c :: s) ↔ set.contains c = true ∧ s = [] := by
  rw [accepts_one_iff]
  constructor
  · rintro ⟨d, hd, h⟩
    cases h
    exact ⟨hd, rfl⟩
  · rintro ⟨hc, rfl⟩
    exact ⟨c, hc, rfl⟩

theorem accepts_seq_cons_iff {p q : Pattern} {c : Char} {s : List Char} :
    Accepts (.seq p q) (c :: s) ↔
      (∃ t u, Accepts p (c :: t) ∧ Accepts q u ∧ s = t ++ u) ∨
        Accepts p [] ∧ Accepts q (c :: s) := by
  rw [accepts_seq_iff]
  constructor
  · rintro ⟨t, u, hp, hq, h⟩
    rcases List.cons_eq_append_iff.1 h with ⟨rfl, rfl⟩ | ⟨t, rfl, rfl⟩
    · exact .inr ⟨hp, hq⟩
    · exact .inl ⟨t, u, hp, hq, rfl⟩
  · rintro (⟨t, u, hp, hq, rfl⟩ | ⟨hp, hq⟩)
    · exact ⟨c :: t, u, hp, hq, rfl⟩
    · exact ⟨[], c :: s, hp, hq, rfl⟩

/-- Repetitions of the empty text may be put off, so the first one can be taken to have the first
character. -/
theorem accepts_times_cons_iff {p : Pattern} {least : Nat} {most : Option Nat} {c : Char}
    {s : List Char} :
    Accepts (.times p least most) (c :: s) ↔
      most ≠ some 0 ∧ ∃ t u, Accepts p (c :: t) ∧
        Accepts (.times p (least - 1) (most.map (· - 1))) u ∧ s = t ++ u := by
  constructor
  · intro h
    generalize hq : Pattern.times p least most = q at h
    generalize hw : c :: s = w at h
    induction h generalizing least most with
    | stop => cases hw
    | more hmost hp hrest _ ihrest =>
      injection hq with h₁ h₂ h₃
      subst h₁ h₂ h₃
      rcases List.cons_eq_append_iff.1 hw with ⟨rfl, rfl⟩ | ⟨t, rfl, rfl⟩
      · obtain ⟨hmost', t, u, ht, hu, rfl⟩ := ihrest rfl rfl
        exact ⟨hmost, t, u, ht, Accepts.more (s := []) hmost' hp hu, rfl⟩
      · exact ⟨hmost, t, _, hp, hrest, rfl⟩
    | _ => cases hq
  · rintro ⟨hmost, t, u, ht, hu, rfl⟩
    exact Accepts.more (s := c :: t) hmost ht hu

theorem exists_followedBy_iff {ps : List Pattern} {q : Pattern} {s : List Char} :
    (∃ r ∈ ps.map (·.followedBy q), Accepts r s) ↔
      ∃ t u, (∃ r ∈ ps, Accepts r t) ∧ Accepts q u ∧ s = t ++ u := by
  constructor
  · rintro ⟨_, hmem, h⟩
    obtain ⟨r, hr, rfl⟩ := List.mem_map.1 hmem
    obtain ⟨t, u, ht, hu, rfl⟩ := accepts_seq_iff.1 (accepts_followedBy_iff.1 h)
    exact ⟨t, u, ⟨r, hr, ht⟩, hu, rfl⟩
  · rintro ⟨t, u, ⟨r, hr, ht⟩, hu, rfl⟩
    exact ⟨_, List.mem_map.2 ⟨r, hr, rfl⟩, accepts_followedBy_iff.2 (.seq ht hu)⟩

/-- A text with a first character is accepted exactly when one of the patterns that are left after
that character accepts the rest. -/
theorem accepts_cons_iff {p : Pattern} {c : Char} {s : List Char} :
    Accepts p (c :: s) ↔ ∃ q ∈ p.after c, Accepts q s := by
  induction p generalizing s with
  | empty => simp [after]
  | one set =>
    rw [accepts_one_cons_iff, after]
    split <;> simp [*]
  | seq p q ihp ihq =>
    rw [accepts_seq_cons_iff, after]
    simp only [List.mem_append, or_and_right, exists_or, exists_followedBy_iff, ihp, ihq,
      ← nullable_iff]
    split <;> simp [*]
  | either p q ihp ihq =>
    simp only [accepts_either_iff, ihp, ihq, after, List.mem_append, or_and_right, exists_or]
  | part p ih => simp [after, ih]
  | times p least most ih =>
    rw [accepts_times_cons_iff, after]
    split
    · simp [*]
    · rename_i hmost
      simp only [exists_followedBy_iff, ih, ne_eq, hmost, not_false_eq_true, true_and]

theorem anyAccepts_iff {ps : List Pattern} {s : List Char} :
    anyAccepts ps s = true ↔ ∃ p ∈ ps, Accepts p s := by
  induction s generalizing ps with
  | nil => simp [anyAccepts, nullable_iff]
  | cons c s ih =>
    simp only [anyAccepts, ih, List.mem_flatMap, accepts_cons_iff]
    constructor
    · rintro ⟨q, ⟨p, hp, hq⟩, h⟩
      exact ⟨p, hp, q, hq, h⟩
    · rintro ⟨p, hp, q, hq, h⟩
      exact ⟨q, ⟨p, hp, hq⟩, h⟩

theorem accepts_iff {p : Pattern} {s : List Char} : p.accepts s = true ↔ Accepts p s := by
  simp [accepts, anyAccepts_iff]

end FormCheck.Pattern
