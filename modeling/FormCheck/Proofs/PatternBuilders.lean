import FormCheck.Pattern.Lemmas

namespace FormCheck.Pattern

variable {p q : Pattern} {set : CharSet} {s : List Char} {least n : Nat} {most : Option Nat}

theorem accepts_just_iff {c : Char} : Accepts (just c) s ↔ s = [c] := by
  simp [just, CharSet.contains]

theorem accepts_just_seq_iff {c : Char} :
    Accepts (.seq (just c) q) s ↔ ∃ rest, s = c :: rest ∧ Accepts q rest := by
  rw [accepts_seq_iff]
  constructor
  · rintro ⟨t, u, ht, hu, rfl⟩
    exact ⟨u, by rw [accepts_just_iff.mp ht]; rfl, hu⟩
  · rintro ⟨rest, rfl, hrest⟩
    exact ⟨[c], rest, accepts_just_iff.mpr rfl, hrest, rfl⟩

theorem accepts_one_seq_iff :
    Accepts (.seq (.one set) q) s ↔
      ∃ c rest, s = c :: rest ∧ set.contains c = true ∧ Accepts q rest := by
  rw [accepts_seq_iff]
  constructor
  · rintro ⟨t, u, ht, hu, rfl⟩
    obtain ⟨c, hc, rfl⟩ := accepts_one_iff.mp ht
    exact ⟨c, u, rfl, hc, hu⟩
  · rintro ⟨c, rest, rfl, hc, hrest⟩
    exact ⟨[c], rest, .one hc, hrest, rfl⟩

theorem accepts_inTurn_cons_iff {ps : List Pattern} :
    Accepts (inTurn (p :: ps)) s ↔ Accepts (.seq p (inTurn ps)) s := by
  cases ps with
  | nil => simp [inTurn, accepts_seq_iff]
  | cons q ps => rfl

theorem accepts_inTurn_append_iff {ps qs : List Pattern} :
    Accepts (inTurn (ps ++ qs)) s ↔ Accepts (.seq (inTurn ps) (inTurn qs)) s := by
  induction ps generalizing s with
  | nil => simp [inTurn, accepts_seq_iff]
  | cons p ps ih =>
      rw [List.cons_append, accepts_inTurn_cons_iff, accepts_seq_iff, accepts_seq_iff]
      constructor
      · rintro ⟨t, u, ht, hu, rfl⟩
        obtain ⟨v, w, hv, hw, rfl⟩ := accepts_seq_iff.mp (ih.mp hu)
        exact ⟨t ++ v, w, accepts_inTurn_cons_iff.mpr (.seq ht hv), hw, by simp⟩
      · rintro ⟨t, u, ht, hu, rfl⟩
        obtain ⟨v, w, hv, hw, rfl⟩ := accepts_seq_iff.mp (accepts_inTurn_cons_iff.mp ht)
        exact ⟨v, w ++ u, hv, ih.mpr (.seq hw hu), by simp⟩

theorem accepts_inTurn_just_iff {w : List Char} : Accepts (inTurn (w.map just)) s ↔ s = w := by
  induction w generalizing s with
  | nil => exact accepts_empty_iff
  | cons c w ih =>
      rw [List.map_cons, accepts_inTurn_cons_iff, accepts_just_seq_iff]
      simp only [ih, exists_eq_right]

theorem accepts_word_seq_iff {w : String} :
    Accepts (.seq (word w) q) s ↔ ∃ rest, s = w.toList ++ rest ∧ Accepts q rest := by
  rw [accepts_seq_iff]
  constructor
  · rintro ⟨t, u, ht, hu, rfl⟩
    exact ⟨u, by rw [accepts_inTurn_just_iff.mp ht], hu⟩
  · rintro ⟨rest, rfl, hq⟩
    exact ⟨_, rest, accepts_inTurn_just_iff.mpr rfl, hq, rfl⟩

theorem accepts_optional_iff : Accepts (optional p) s ↔ Accepts p s ∨ s = [] := by
  rw [optional, accepts_either_iff, accepts_empty_iff]

theorem accepts_optional_seq_iff :
    Accepts (.seq (optional p) q) s ↔ Accepts q s ∨ Accepts (.seq p q) s := by
  rw [accepts_seq_iff, accepts_seq_iff]
  constructor
  · rintro ⟨t, u, ht, hu, rfl⟩
    rcases accepts_optional_iff.mp ht with ht | rfl
    · exact .inr ⟨t, u, ht, hu, rfl⟩
    · exact .inl hu
  · rintro (hs | ⟨t, u, ht, hu, rfl⟩)
    · exact ⟨[], s, accepts_optional_iff.mpr (.inr rfl), hs, rfl⟩
    · exact ⟨t, u, accepts_optional_iff.mpr (.inl ht), hu, rfl⟩

/-- A repetition accepts what can be cut into an allowed number of texts of the pattern. -/
theorem accepts_times_iff_exists_flatten :
    Accepts (.times p least most) s ↔
      ∃ parts : List (List Char), s = parts.flatten ∧ (∀ part ∈ parts, Accepts p part) ∧
        least ≤ parts.length ∧ ∀ m ∈ most, parts.length ≤ m := by
  constructor
  · intro h
    generalize hq : Pattern.times p least most = q at h
    induction h generalizing least most with
    | stop =>
        cases hq
        exact ⟨[], rfl, by simp, Nat.le_refl 0, by simp⟩
    | @more _ _ _ t u hmost ht _ _ ih =>
        cases hq
        obtain ⟨parts, rfl, hparts, hleast, hcount⟩ := ih rfl
        refine ⟨t :: parts, rfl, List.forall_mem_cons.mpr ⟨ht, hparts⟩, ?_, ?_⟩
        · rw [List.length_cons]
          omega
        · rintro m rfl
          have hm : m ≠ 0 := fun h => hmost (congrArg some h)
          have hle := hcount (m - 1) rfl
          rw [List.length_cons]
          omega
    | _ => cases hq
  · rintro ⟨parts, rfl, hparts, hleast, hcount⟩
    induction parts generalizing least most with
    | nil =>
        obtain rfl := Nat.le_zero.mp hleast
        exact .stop
    | cons t parts ih =>
        obtain ⟨ht, hparts⟩ := List.forall_mem_cons.mp hparts
        rw [List.length_cons] at hleast hcount
        refine .more ?_ ht (ih hparts (by omega) ?_)
        · rintro rfl
          exact absurd (hcount 0 rfl) (by omega)
        · intro k hk
          obtain ⟨m, hm, rfl⟩ := Option.map_eq_some_iff.mp hk
          have hle := hcount m hm
          omega

theorem accepts_times_one_iff :
    Accepts (.times (.one set) least most) s ↔
      (∀ c ∈ s, set.contains c = true) ∧ least ≤ s.length ∧ ∀ m ∈ most, s.length ≤ m := by
  rw [accepts_times_iff_exists_flatten]
  constructor
  · rintro ⟨parts, rfl, hparts, hcount⟩
    have hsingle : ∀ part ∈ parts, part.length = 1 := by
      intro part hpart
      obtain ⟨c, -, rfl⟩ := accepts_one_iff.mp (hparts part hpart)
      rfl
    have hlength : parts.flatten.length = parts.length := by
      rw [List.length_flatten, List.map_congr_left hsingle, List.map_const',
        List.sum_replicate_nat, Nat.mul_one]
    refine ⟨?_, by rwa [hlength]⟩
    intro c hc
    obtain ⟨part, hpart, hmem⟩ := List.mem_flatten.mp hc
    obtain ⟨d, hd, rfl⟩ := accepts_one_iff.mp (hparts part hpart)
    rwa [List.mem_singleton.mp hmem]
  · rintro ⟨hall, hcount⟩
    refine ⟨s.map fun c => [c], by simp [← List.flatMap_def], ?_, by rwa [List.length_map]⟩
    intro part hpart
    obtain ⟨c, hc, rfl⟩ := List.mem_map.mp hpart
    exact .one (hall c hc)

theorem accepts_star_one_iff : Accepts (star (.one set)) s ↔ ∀ c ∈ s, set.contains c = true := by
  rw [star, accepts_times_one_iff]
  simp

theorem accepts_plus_one_iff :
    Accepts (plus (.one set)) s ↔ s ≠ [] ∧ ∀ c ∈ s, set.contains c = true := by
  rw [plus, accepts_times_one_iff]
  simp [Nat.one_le_iff_ne_zero, and_comm]

theorem accepts_atMost_one_iff :
    Accepts (atMost n (.one set)) s ↔ s.length ≤ n ∧ ∀ c ∈ s, set.contains c = true := by
  rw [atMost, accepts_times_one_iff]
  simp [and_comm]

theorem accepts_exactly_one_iff :
    Accepts (exactly n (.one set)) s ↔ s.length = n ∧ ∀ c ∈ s, set.contains c = true := by
  have hcount : (n ≤ s.length ∧ ∀ m ∈ some n, s.length ≤ m) ↔ s.length = n := by
    simp only [Option.mem_def, Option.some.injEq, forall_eq']
    omega
  rw [exactly, accepts_times_one_iff, hcount, and_comm]

theorem accepts_star_just_seq_iff {c : Char} :
    Accepts (star (.seq (just c) p)) s ↔
      ∃ pieces : List (List Char), s = (pieces.map (c :: ·)).flatten ∧
        ∀ piece ∈ pieces, Accepts p piece := by
  rw [star, accepts_times_iff_exists_flatten]
  simp only [accepts_just_seq_iff]
  constructor
  · rintro ⟨parts, rfl, hparts, -⟩
    have hmark : ∀ part ∈ parts, c :: part.tail = part ∧ Accepts p part.tail := by
      intro part hpart
      obtain ⟨rest, rfl, hrest⟩ := hparts part hpart
      exact ⟨rfl, hrest⟩
    have hmap : (parts.map List.tail).map (c :: ·) = parts := by
      rw [List.map_map]
      exact (List.map_congr_left fun part hpart => (hmark part hpart).1).trans (List.map_id _)
    refine ⟨parts.map List.tail, by rw [hmap], ?_⟩
    intro piece hpiece
    obtain ⟨part, hpart, rfl⟩ := List.mem_map.mp hpiece
    exact (hmark part hpart).2
  · rintro ⟨pieces, rfl, hpieces⟩
    refine ⟨pieces.map (c :: ·), rfl, ?_, by simp, by simp⟩
    intro part hpart
    obtain ⟨piece, hpiece, rfl⟩ := List.mem_map.mp hpart
    exact ⟨piece, rfl, hpieces piece hpiece⟩

end FormCheck.Pattern
