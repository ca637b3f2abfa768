import FormCheck.Json.Reader
import FormCheck.Proofs.Numerals
import FormCheck.Text.Quoted

namespace FormCheck.Text

open Json (hexValue? hexadecimal)

/-- There is no control character in a text, so that it stays on one line. -/
def ControlFree (s : String) : Prop :=
  ∀ c ∈ s.toList, isControl c = false

instance (s : String) : Decidable (ControlFree s) :=
  List.decidableBAll (fun c => isControl c = false) s.toList

theorem controlFree_append_iff {s t : String} :
    ControlFree (s ++ t) ↔ ControlFree s ∧ ControlFree t := by
  simp only [ControlFree, String.toList_append, List.forall_mem_append]

theorem hexDigits_eq_if (n : Nat) :
    hexDigits n =
      if n < 16 then [Nat.digitChar n] else hexDigits (n / 16) ++ [Nat.digitChar (n % 16)] :=
  Nat.toDigits_eq_if (by decide)

theorem hexValue?_digitChar : ∀ k < 16, hexValue? (Nat.digitChar k) = some k := by
  decide

theorem hexadecimal_append_digitChar {k : Nat} (hk : k < 16) (digits : List Char) :
    hexadecimal (digits ++ [Nat.digitChar k]) = 16 * hexadecimal digits + k := by
  simp [hexadecimal, hexValue?_digitChar k hk]

theorem hexadecimal_hexDigits (n : Nat) : hexadecimal (hexDigits n) = n := by
  induction n using Nat.strongRecOn with
  | ind n ih =>
      rw [hexDigits_eq_if]
      split
      · rename_i hn
        simpa [hexadecimal] using hexadecimal_append_digitChar hn []
      · rw [hexadecimal_append_digitChar (Nat.mod_lt n (by decide)), ih (n / 16) (by omega)]
        exact Nat.div_add_mod n 16

theorem exists_digitChar_of_mem_hexDigits {c : Char} {n : Nat} (hc : c ∈ hexDigits n) :
    ∃ k < 16, c = Nat.digitChar k := by
  induction n using Nat.strongRecOn with
  | ind n ih =>
      rw [hexDigits_eq_if] at hc
      split at hc
      · rename_i hn
        exact ⟨n, hn, List.mem_singleton.mp hc⟩
      · rcases List.mem_append.mp hc with hc | hc
        · exact ih (n / 16) (by omega) hc
        · exact ⟨n % 16, Nat.mod_lt n (by decide), List.mem_singleton.mp hc⟩

theorem digitChar_plain :
    ∀ k < 16, isControl (Nat.digitChar k) = false ∧ Nat.digitChar k ≠ Char.ofNat 0x7D := by
  decide

theorem isControl_eq_false_of_mem_hexDigits {c : Char} {n : Nat} (hc : c ∈ hexDigits n) :
    isControl c = false := by
  obtain ⟨k, hk, rfl⟩ := exists_digitChar_of_mem_hexDigits hc
  exact (digitChar_plain k hk).1

theorem not_mem_brace_hexDigits (n : Nat) : Char.ofNat 0x7D ∉ hexDigits n := by
  intro hbrace
  obtain ⟨k, hk, heq⟩ := exists_digitChar_of_mem_hexDigits hbrace
  exact (digitChar_plain k hk).2 heq.symm

/-- The character for which a letter stands behind a backslash. -/
def unescaped (letter : Char) : Char :=
  if letter = 'n' then '\n'
  else if letter = 'r' then '\r'
  else if letter = 't' then '\t'
  else if letter = '0' then Char.ofNat 0
  else letter

/-- The ways to quote a character: as it is, by a letter behind a backslash, or by its code point in
braces. -/
inductive QuotedAs (c : Char) : List Char → Prop
  | itself (hcontrol : isControl c = false) (hbackslash : c ≠ '\\') (hmark : c ≠ '"') :
      QuotedAs c [c]
  | letter {letter : Char} (hcontrol : isControl letter = false) (hcode : letter ≠ 'u')
      (hletter : unescaped letter = c) : QuotedAs c ['\\', letter]
  | code : QuotedAs c (['\\', 'u', Char.ofNat 0x7B] ++ hexDigits c.toNat ++ [Char.ofNat 0x7D])

theorem quotedAs_quoteChar (c : Char) : QuotedAs c (quoteChar c) := by
  unfold quoteChar
  split_ifs with hmark hbackslash hfeed hreturn htab hnull hvisible
  · exact .letter (by decide) (by decide) hmark.symm
  · exact .letter (by decide) (by decide) hbackslash.symm
  · exact .letter (by decide) (by decide) hfeed.symm
  · exact .letter (by decide) (by decide) hreturn.symm
  · exact .letter (by decide) (by decide) htab.symm
  · exact .letter (by decide) (by decide) (Char.toNat_inj.mp hnull.symm)
  · refine .itself ?_ hbackslash hmark
    rw [Bool.or_eq_true, decide_eq_true_eq] at hvisible
    rcases hvisible with hvisible | rfl
    · exact isControl_eq_false_of_isVisible hvisible
    · decide
  · exact .code

theorem QuotedAs.isControl_eq_false {c : Char} {s : List Char} (h : QuotedAs c s) :
    ∀ d ∈ s, isControl d = false := by
  cases h with
  | itself hcontrol => exact List.forall_mem_singleton.mpr hcontrol
  | letter hcontrol => exact List.forall_mem_cons.mpr ⟨by decide, by simpa using hcontrol⟩
  | code =>
      have hcode : ∀ d ∈ hexDigits c.toNat, isControl d = false :=
        fun d => isControl_eq_false_of_mem_hexDigits
      rw [List.forall_mem_append, List.forall_mem_append]
      exact ⟨⟨by simp [isControl], hcode⟩, by simp [isControl]⟩

theorem QuotedAs.ne_mark {c : Char} {s t u : List Char} (h : QuotedAs c s) :
    s ++ t ≠ '"' :: u := by
  intro hsame
  cases h with
  | itself _ _ hmark => exact hmark (List.cons.inj hsame).1
  | letter | code => exact absurd (List.cons.inj hsame).1 (by decide)

/-- Takes one quoted character from the front of a text, and says what stands behind it. A code
point goes on to the closing brace. -/
def unquote? : List Char → Option (Char × List Char)
  | [] => none
  | [c] => some (c, [])
  | c :: d :: rest =>
    if c ≠ '\\' then some (c, d :: rest)
    else if d ≠ 'u' then some (unescaped d, rest)
    else
      let code := before (Char.ofNat 0x7D) rest.tail
      some (Char.ofNat (hexadecimal code), behind (Char.ofNat 0x7D) rest.tail)

theorem QuotedAs.unquote?_append {c : Char} {s : List Char} (h : QuotedAs c s) (t : List Char) :
    unquote? (s ++ t) = some (c, t) := by
  cases h with
  | itself _ hbackslash => cases t <;> simp [unquote?, hbackslash]
  | letter _ hcode hletter => simp [unquote?, hcode, hletter]
  | code =>
      have hbrace := not_mem_brace_hexDigits c.toNat
      simp [unquote?, before_append hbrace, behind_append hbrace, hexadecimal_hexDigits]

theorem quoteChar_append_inj {c d : Char} {t u : List Char}
    (h : quoteChar c ++ t = quoteChar d ++ u) : c = d ∧ t = u := by
  have hread := (quotedAs_quoteChar c).unquote?_append t
  rw [h, (quotedAs_quoteChar d).unquote?_append u, Option.some.injEq, Prod.mk.injEq] at hread
  exact ⟨hread.1.symm, hread.2.symm⟩

theorem quoteBody_cons (c : Char) (s : List Char) :
    quoteBody (c :: s) = quoteChar c ++ quoteBody s :=
  List.flatMap_cons

theorem quoteBody_append_inj {s s' t t' : List Char}
    (h : quoteBody s ++ '"' :: t = quoteBody s' ++ '"' :: t') : s = s' ∧ t = t' := by
  induction s generalizing s' with
  | nil =>
      cases s' with
      | nil => exact ⟨rfl, (List.cons.inj h).2⟩
      | cons d s' =>
          rw [quoteBody_cons, List.append_assoc] at h
          exact absurd h.symm (quotedAs_quoteChar d).ne_mark
  | cons c s ih =>
      cases s' with
      | nil =>
          rw [quoteBody_cons, List.append_assoc] at h
          exact absurd h (quotedAs_quoteChar c).ne_mark
      | cons d s' =>
          rw [quoteBody_cons, quoteBody_cons, List.append_assoc, List.append_assoc] at h
          obtain ⟨rfl, hrest⟩ := quoteChar_append_inj h
          obtain ⟨rfl, rfl⟩ := ih hrest
          exact ⟨rfl, rfl⟩

theorem toList_quoted (s : String) : (quoted s).toList = '"' :: (quoteBody s.toList ++ ['"']) :=
  String.toList_ofList

/-- A quotation at the front of a text tells what is quoted and what stands behind it. -/
theorem quoted_append_inj {s s' t t' : String} (h : quoted s ++ t = quoted s' ++ t') :
    s = s' ∧ t = t' := by
  have hlist := congrArg String.toList h
  simp only [String.toList_append, toList_quoted, List.cons_append, List.append_assoc,
    List.nil_append, List.cons.injEq, true_and] at hlist
  obtain ⟨hs, ht⟩ := quoteBody_append_inj hlist
  exact ⟨String.toList_injective hs, String.toList_injective ht⟩

theorem controlFree_quoted (s : String) : ControlFree (quoted s) := by
  intro d hd
  simp only [toList_quoted, List.mem_cons, List.mem_append, List.not_mem_nil, or_false] at hd
  rcases hd with rfl | hd | rfl
  · decide
  · obtain ⟨c, -, hd⟩ := List.mem_flatMap.mp hd
    exact (quotedAs_quoteChar c).isControl_eq_false d hd
  · decide

end FormCheck.Text
