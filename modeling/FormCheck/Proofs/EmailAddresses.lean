import FormCheck.Proofs.BuiltRules
import FormCheck.Proofs.PatternBuilders
import FormCheck.Proofs.TypedRules

namespace FormCheck

open Text (before behind isDigit splitOn)

def isLetterOrDigit (c : Char) : Bool :=
  isLetter c || isDigit c

/-- The characters between the first and the last one of a label. -/
def isLabelChar (c : Char) : Bool :=
  isLetterOrDigit c || c == '-'

/-- The characters that may stand before the at sign. -/
def isMailboxChar (c : Char) : Bool :=
  isLetterOrDigit c || ".!#$%&'*+/=?^_`\x7b|\x7d~-".toList.contains c

/-- A part of a host name: up to 63 letters, digits and hyphens, no hyphen at either end. -/
structure IsHostLabel (s : List Char) : Prop where
  length_pos : 1 ≤ s.length
  length_le : s.length ≤ 63
  chars : ∀ c ∈ s, isLabelChar c = true
  head : s.head? ≠ some '-'
  last : s.getLast? ≠ some '-'

theorem isHostLabel_iff {s : List Char} :
    IsHostLabel s ↔ 1 ≤ s.length ∧ s.length ≤ 63 ∧ s.all isLabelChar = true ∧
      s.head? ≠ some '-' ∧ s.getLast? ≠ some '-' := by
  rw [List.all_eq_true]
  exact ⟨fun h => ⟨h.length_pos, h.length_le, h.chars, h.head, h.last⟩,
    fun ⟨hpos, hle, hchars, hhead, hlast⟩ => ⟨hpos, hle, hchars, hhead, hlast⟩⟩

instance {s : List Char} : Decidable (IsHostLabel s) :=
  decidable_of_iff _ isHostLabel_iff.symm

/-- The labels of the host are what stands between the dots behind the at sign. -/
structure IsEmailAddress (s : List Char) : Prop where
  atSign : s.count '@' = 1
  mailbox_ne_nil : before '@' s ≠ []
  mailbox : ∀ c ∈ before '@' s, isMailboxChar c = true
  labels_ne_nil : splitOn (· == '.') (behind '@' s) ≠ []
  labels : ∀ label ∈ splitOn (· == '.') (behind '@' s), IsHostLabel label

theorem isEmailAddress_iff {s : List Char} :
    IsEmailAddress s ↔ s.count '@' = 1 ∧ before '@' s ≠ [] ∧
      (before '@' s).all isMailboxChar = true ∧
        splitOn (· == '.') (behind '@' s) ≠ [] ∧
          ∀ label ∈ splitOn (· == '.') (behind '@' s), IsHostLabel label := by
  rw [List.all_eq_true]
  exact ⟨fun h => ⟨h.atSign, h.mailbox_ne_nil, h.mailbox, h.labels_ne_nil, h.labels⟩,
    fun ⟨hat, hne, hmailbox, hlabelsNe, hlabels⟩ => ⟨hat, hne, hmailbox, hlabelsNe, hlabels⟩⟩

instance {s : List Char} : Decidable (IsEmailAddress s) :=
  decidable_of_iff _ isEmailAddress_iff.symm

theorem IsHostLabel.not_mem {s : List Char} (h : IsHostLabel s) {c : Char}
    (hc : isLabelChar c = false) : c ∉ s :=
  Text.not_mem_of_all h.chars hc

theorem not_mem_of_labels {host : List Char}
    (h : ∀ label ∈ splitOn (· == '.') host, IsHostLabel label) {c : Char} (hdot : c ≠ '.')
    (hc : isLabelChar c = false) : c ∉ host := by
  obtain ⟨label, labels, hsplit, rfl, -⟩ := Text.exists_splitOn_eq_cons '.' host
  rw [hsplit, List.forall_mem_cons] at h
  rw [List.mem_append, List.mem_flatten]
  rintro (hmem | ⟨part, hpart, hmem⟩)
  · exact h.1.not_mem hc hmem
  · obtain ⟨piece, hpiece, rfl⟩ := List.mem_map.mp hpart
    rcases List.mem_cons.mp hmem with rfl | hmem
    · exact hdot rfl
    · exact (h.2 piece hpiece).not_mem hc hmem

theorem isEmailAddress_iff_exists {s : List Char} :
    IsEmailAddress s ↔ ∃ mailbox host, s = mailbox ++ '@' :: host ∧
      (mailbox ≠ [] ∧ ∀ c ∈ mailbox, isMailboxChar c = true) ∧
        ∀ label ∈ splitOn (· == '.') host, IsHostLabel label := by
  constructor
  · intro h
    have hmem : '@' ∈ s := List.count_pos_iff.mp (by rw [h.atSign]; exact Nat.one_pos)
    exact ⟨_, _, (Text.before_append_behind hmem).symm, ⟨h.mailbox_ne_nil, h.mailbox⟩, h.labels⟩
  · rintro ⟨mailbox, host, rfl, ⟨hne, hmailbox⟩, hlabels⟩
    have hbefore : '@' ∉ mailbox := Text.not_mem_of_all hmailbox (by decide)
    have hbehind : '@' ∉ host := not_mem_of_labels hlabels (by decide) (by decide)
    rw [isEmailAddress_iff, Text.before_append hbefore, Text.behind_append hbefore]
    refine ⟨?_, hne, List.all_eq_true.mpr hmailbox, Text.splitOn_ne_nil _ host, hlabels⟩
    rw [List.count_append, List.count_cons_self, List.count_eq_zero_of_not_mem hbefore,
      List.count_eq_zero_of_not_mem hbehind]

namespace Pattern

variable {s : List Char}

theorem contains_letterOrDigitSet (c : Char) :
    (CharSet.among [.span 'a' 'z', .span 'A' 'Z', .span '0' '9']).contains c =
      isLetterOrDigit c := by
  simp [CharSet.contains, SetItem.contains, isLetterOrDigit, isLetter, isDigit, Bool.or_assoc]

theorem contains_labelSet (c : Char) :
    (CharSet.among [.span 'a' 'z', .span 'A' 'Z', .span '0' '9', .char '-']).contains c =
      isLabelChar c := by
  rw [isLabelChar, ← contains_letterOrDigitSet]
  simp [CharSet.contains, SetItem.contains, Bool.or_assoc]

theorem contains_mailboxSet (c : Char) :
    (CharSet.among ([.span 'a' 'z', .span 'A' 'Z', .span '0' '9'] ++
      ".!#$%&'*+/=?^_`\x7b|\x7d~-".toList.map .char)).contains c = isMailboxChar c := by
  rw [isMailboxChar, ← contains_letterOrDigitSet, List.contains_eq_any_beq]
  simp only [CharSet.contains, List.any_append, List.any_map]
  rfl

theorem isLabelChar_of_isLetterOrDigit {c : Char} (hc : isLetterOrDigit c = true) :
    isLabelChar c = true := by
  rw [isLabelChar, hc, Bool.true_or]

theorem ne_hyphen_of_isLetterOrDigit {c : Char} (hc : isLetterOrDigit c = true) : c ≠ '-' := by
  rintro rfl
  exact absurd hc (by decide)

theorem isLetterOrDigit_of_ne_hyphen {c : Char} (hc : isLabelChar c = true) (hne : c ≠ '-') :
    isLetterOrDigit c = true := by
  simpa [isLabelChar, hne] using hc

theorem accepts_letterOrDigit_iff :
    Accepts letterOrDigit s ↔ ∃ c, isLetterOrDigit c = true ∧ s = [c] := by
  simp only [letterOrDigit, accepts_one_iff, contains_letterOrDigitSet]

theorem accepts_labelEnd_iff :
    Accepts (.seq
        (atMost 61 (.one (.among [.span 'a' 'z', .span 'A' 'Z', .span '0' '9', .char '-'])))
      letterOrDigit) s ↔ ∃ middle last, s = middle ++ [last] ∧ middle.length ≤ 61 ∧
        (∀ c ∈ middle, isLabelChar c = true) ∧ isLetterOrDigit last = true := by
  simp only [accepts_seq_iff, accepts_atMost_one_iff, accepts_letterOrDigit_iff, contains_labelSet]
  constructor
  · rintro ⟨middle, _, ⟨hlength, hmiddle⟩, ⟨last, hlast, rfl⟩, rfl⟩
    exact ⟨middle, last, rfl, hlength, hmiddle, hlast⟩
  · rintro ⟨middle, last, rfl, hlength, hmiddle, hlast⟩
    exact ⟨middle, [last], ⟨hlength, hmiddle⟩, ⟨last, hlast, rfl⟩, rfl⟩

theorem isHostLabel_of_accepts (h : Accepts hostLabel s) : IsHostLabel s := by
  rw [hostLabel, letterOrDigit, accepts_one_seq_iff] at h
  obtain ⟨first, rest, rfl, hfirst, hrest⟩ := h
  rw [contains_letterOrDigitSet] at hfirst
  have hhead := ne_hyphen_of_isLetterOrDigit hfirst
  rcases accepts_optional_iff.mp hrest with hrest | rfl
  · obtain ⟨middle, last, rfl, hlength, hmiddle, hlast⟩ := accepts_labelEnd_iff.mp hrest
    refine ⟨by simp, ?_, ?_, by simpa using hhead, ?_⟩
    · rw [List.length_cons, List.length_append, List.length_singleton]
      omega
    · rw [List.forall_mem_cons, List.forall_mem_append, List.forall_mem_singleton]
      exact ⟨isLabelChar_of_isLetterOrDigit hfirst, hmiddle, isLabelChar_of_isLetterOrDigit hlast⟩
    · rw [← List.cons_append, List.getLast?_concat]
      simpa using ne_hyphen_of_isLetterOrDigit hlast
  · exact ⟨le_rfl, by simp, by simpa using isLabelChar_of_isLetterOrDigit hfirst,
      by simpa using hhead, by simpa using hhead⟩

theorem accepts_of_isHostLabel (h : IsHostLabel s) : Accepts hostLabel s := by
  rcases s with _ | ⟨first, rest⟩
  · exact absurd h.length_pos (by simp)
  obtain ⟨hfirst, hchars⟩ := List.forall_mem_cons.mp h.chars
  have hhead : isLetterOrDigit first = true :=
    isLetterOrDigit_of_ne_hyphen hfirst (by simpa using h.head)
  rw [hostLabel, letterOrDigit, accepts_one_seq_iff]
  refine ⟨first, rest, rfl, by rwa [contains_letterOrDigitSet], accepts_optional_iff.mpr ?_⟩
  rcases List.eq_nil_or_concat rest with rfl | ⟨middle, last, rfl⟩
  · exact .inr rfl
  · rw [List.concat_eq_append] at h hchars ⊢
    have hlength := h.length_le
    have hne := h.last
    rw [List.length_cons, List.length_append, List.length_singleton] at hlength
    rw [← List.cons_append, List.getLast?_concat] at hne
    rw [List.forall_mem_append, List.forall_mem_singleton] at hchars
    exact .inl (accepts_labelEnd_iff.mpr ⟨middle, last, rfl, by omega, hchars.1,
      isLetterOrDigit_of_ne_hyphen hchars.2 (by simpa using hne)⟩)

theorem accepts_hostLabel_iff : Accepts hostLabel s ↔ IsHostLabel s :=
  ⟨isHostLabel_of_accepts, accepts_of_isHostLabel⟩

theorem accepts_host_iff :
    Accepts (.seq hostLabel (star (.seq (just '.') hostLabel))) s ↔
      ∀ label ∈ splitOn (· == '.') s, IsHostLabel label := by
  simp only [accepts_seq_iff, accepts_star_just_seq_iff, accepts_hostLabel_iff]
  constructor
  · rintro ⟨label, _, hlabel, ⟨labels, rfl, hlabels⟩, rfl⟩
    have hall : ∀ t ∈ label :: labels, IsHostLabel t := List.forall_mem_cons.mpr ⟨hlabel, hlabels⟩
    have hdots : ∀ t ∈ label :: labels, '.' ∉ t := fun t ht => (hall t ht).not_mem (by decide)
    rwa [(Text.splitOn_eq_cons_iff hdots).mpr rfl]
  · intro h
    obtain ⟨label, labels, hsplit, hs, -⟩ := Text.exists_splitOn_eq_cons '.' s
    rw [hsplit, List.forall_mem_cons] at h
    exact ⟨label, _, h.1, ⟨labels, rfl, h.2⟩, hs⟩

theorem matchesText_email_iff {value : String} :
    Name.email.pattern.matchesText value = true ↔ IsEmailAddress value.toList := by
  rw [matchesText, accepts_iff, isEmailAddress_iff_exists]
  change Accepts (.seq (plus mailboxChar) (.seq (just '@')
    (.seq hostLabel (star (.seq (just '.') hostLabel))))) value.toList ↔ _
  rw [accepts_seq_iff]
  simp only [mailboxChar, accepts_plus_one_iff, contains_mailboxSet, accepts_just_seq_iff,
    accepts_host_iff]
  constructor
  · rintro ⟨mailbox, _, hmailbox, ⟨host, rfl, hhost⟩, hvalue⟩
    exact ⟨mailbox, host, hvalue, hmailbox, hhost⟩
  · rintro ⟨mailbox, host, hvalue, hmailbox, hhost⟩
    exact ⟨mailbox, _, hmailbox, ⟨host, rfl, hhost⟩, hvalue⟩

end Pattern

/-- The pattern for addresses matches exactly the texts that have the form of an address, and these
are the values other than the empty one that the rule for addresses accepts. -/
theorem Profile.email_rule_accepts_iff (profile : Profile) (options : RuleOptions) :
    ∃ rule entries, profile.build .email options = .ok ⟨[rule], entries⟩ ∧
      ∀ value : String,
        (Pattern.Name.email.pattern.matchesText value = true ↔ IsEmailAddress value.toList) ∧
          (value ≠ "" → ∀ context,
            (rule.run value context).value = [] ↔ IsEmailAddress value.toList) := by
  have hkind : Kind.email.arity = 0 := rfl
  obtain ⟨entries, hbuild⟩ := build_of_arity_eq_zero profile hkind options
  refine ⟨_, entries, hbuild, fun value => ⟨Pattern.matchesText_email_iff, ?_⟩⟩
  intro hvalue context
  apply (Rule.value_run_eq_nil_iff rfl hvalue context).trans
  exact Pattern.matchesText_email_iff

theorem Profile.email_rule_accepts_longest_label :
    ∃ rule entries, Profile.standard.build .email {} = .ok ⟨[rule], entries⟩ ∧
      (rule.run ("o'neil@" ++ String.ofList (List.replicate 63 'x') ++ ".x-1") {}).value = [] ∧
      (rule.run ("o'neil@" ++ String.ofList (List.replicate 64 'x') ++ ".x-1") {}).value ≠ [] := by
  obtain ⟨rule, entries, hbuild, haccepts⟩ := email_rule_accepts_iff .standard {}
  refine ⟨rule, entries, hbuild, ?_, fun hnil => ?_⟩
  · exact ((haccepts _).2 (by decide) {}).mpr (by decide)
  · exact absurd (((haccepts _).2 (by decide) {}).mp hnil) (by decide)

end FormCheck
