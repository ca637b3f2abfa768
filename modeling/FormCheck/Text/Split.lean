namespace FormCheck.Text

/-- The pieces of a text between the characters that `separates` picks. There is always at least
one piece, and a separator at either end leaves an empty piece there. -/
def splitOn (separates : Char → Bool) : List Char → List (List Char)
  | [] => [[]]
  | c :: rest =>
    if separates c then [] :: splitOn separates rest
    else
      match splitOn separates rest with
      | [] => [[c]]
      | piece :: pieces => (c :: piece) :: pieces

theorem splitOn_ne_nil (separates : Char → Bool) (s : List Char) : splitOn separates s ≠ [] := by
  cases s with
  | nil => simp [splitOn]
  | cons c rest =>
    simp only [splitOn]
    split
    · simp
    · split <;> simp

theorem splitOn_append {separates : Char → Bool} {c : Char} (hc : separates c = true)
    (s t : List Char) :
    splitOn separates (s ++ c :: t) = splitOn separates s ++ splitOn separates t := by
  induction s with
  | nil => simp [splitOn, hc]
  | cons d s ih =>
    by_cases hd : separates d = true
    · simp [splitOn, hd, ih]
    · simp only [List.cons_append, splitOn, hd, ih]
      cases h : splitOn separates s with
      | nil => exact absurd h (splitOn_ne_nil separates s)
      | cons piece pieces => simp

theorem splitOn_eq_singleton {separates : Char → Bool} {s : List Char}
    (h : ∀ c ∈ s, separates c = false) : splitOn separates s = [s] := by
  induction s with
  | nil => rfl
  | cons c s ih => simp [splitOn, h c (by simp), ih fun d hd => h d (by simp [hd])]

theorem separates_eq_false_of_mem_splitOn {separates : Char → Bool} {s piece : List Char}
    (h : piece ∈ splitOn separates s) : ∀ c ∈ piece, separates c = false := by
  induction s generalizing piece with
  | nil => simp_all [splitOn]
  | cons d s ih =>
    simp only [splitOn] at h
    split at h
    · rcases List.mem_cons.1 h with rfl | h
      · simp
      · exact ih h
    · rename_i hd
      split at h
      · rename_i hs
        exact absurd hs (splitOn_ne_nil separates s)
      · rename_i first pieces hs
        rcases List.mem_cons.1 h with rfl | h
        · intro c hc
          rcases List.mem_cons.1 hc with rfl | hc
          · simpa using hd
          · exact ih (by simp [hs]) c hc
        · exact ih (by simp [hs, h])

/-- What is left of a text when a given start is taken off it. -/
def dropStart? : List Char → List Char → Option (List Char)
  | [], s => some s
  | _ :: _, [] => none
  | c :: start, d :: s => if c = d then dropStart? start s else none

theorem dropStart?_eq_some_iff {start s rest : List Char} :
    dropStart? start s = some rest ↔ s = start ++ rest := by
  induction start generalizing s with
  | nil => simp [dropStart?]
  | cons c start ih =>
    cases s with
    | nil => simp [dropStart?]
    | cons d s =>
      by_cases h : c = d
      · subst h
        simp [dropStart?, ih]
      · simp [dropStart?, h, Ne.symm h]

end FormCheck.Text
