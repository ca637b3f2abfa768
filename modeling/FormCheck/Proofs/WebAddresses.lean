import FormCheck.Proofs.BuiltRules
import FormCheck.Proofs.PatternBuilders
import FormCheck.Proofs.TypedRules

namespace FormCheck

open Text (isBlank)

/-- What the pattern for web addresses tells apart behind the start of a text. -/
structure UrlParts where
  secure : Bool
  first : Char
  second : Char
  rest : List Char

namespace UrlParts

def start (parts : UrlParts) : String :=
  if parts.secure then "https://" else "http://"

def text (parts : UrlParts) : List Char :=
  parts.start.toList ++ parts.first :: parts.second :: parts.rest

/-- What the pattern asks of each of the parts. -/
structure Allowed (parts : UrlParts) : Prop where
  first : isBlank parts.first = false
  first_not_mem : parts.first ∉ ['/', '$', '.', '?', '#']
  second : parts.second ≠ '\n'
  rest : ∀ c ∈ parts.rest, isBlank c = false

theorem text_plain (first second : Char) (rest : List Char) :
    text ⟨false, first, second, rest⟩ =
      "http".toList ++ ("://".toList ++ first :: second :: rest) := by
  simp [text, start]

theorem text_secure (first second : Char) (rest : List Char) :
    text ⟨true, first, second, rest⟩ =
      "http".toList ++ 's' :: ("://".toList ++ first :: second :: rest) := by
  simp [text, start]

theorem isBlank_start (parts : UrlParts) : ∀ c ∈ parts.start.toList, isBlank c = false := by
  have hstart : parts.start.toList.all (!isBlank ·) = true := by
    unfold start
    cases parts.secure <;> decide
  simpa using hstart

end UrlParts

/-- A web address in one piece: a start, at least two characters behind it of which the first is no
mark, and no blank at any place. -/
structure IsUnbrokenUrl (s : List Char) : Prop where
  begins : ∃ start ∈ ["http://", "https://"], ∃ first second rest,
    s = start.toList ++ first :: second :: rest ∧ first ∉ ['/', '$', '.', '?', '#']
  unbroken : ∀ c ∈ s, isBlank c = false

namespace Pattern

variable {s : List Char} {value : String}

theorem contains_outsideBlank (c : Char) :
    (CharSet.outside [.blank]).contains c = true ↔ isBlank c = false := by
  simp [CharSet.contains, SetItem.contains]

theorem contains_inLine (c : Char) : CharSet.inLine.contains c = true ↔ c ≠ '\n' := by
  simp [CharSet.contains]

theorem contains_firstSet (c : Char) :
    (CharSet.outside [.blank, .char '/', .char '$', .char '.', .char '?', .char '#']).contains c =
      true ↔ isBlank c = false ∧ c ∉ ['/', '$', '.', '?', '#'] := by
  simp [CharSet.contains, SetItem.contains]

theorem accepts_behindStart_iff :
    Accepts (inTurn
        [.one (.outside [.blank, .char '/', .char '$', .char '.', .char '?', .char '#']),
      .one .inLine, star notBlank]) s ↔
      ∃ first second rest, s = first :: second :: rest ∧
        (isBlank first = false ∧ first ∉ ['/', '$', '.', '?', '#']) ∧ second ≠ '\n' ∧
          ∀ c ∈ rest, isBlank c = false := by
  simp only [inTurn, notBlank, accepts_one_seq_iff, accepts_star_one_iff, contains_outsideBlank,
    contains_firstSet, contains_inLine]
  constructor
  · rintro ⟨first, _, rfl, hfirst, second, rest, rfl, hsecond, hrest⟩
    exact ⟨first, second, rest, rfl, hfirst, hsecond, hrest⟩
  · rintro ⟨first, second, rest, rfl, hfirst, hsecond, hrest⟩
    exact ⟨first, _, rfl, hfirst, second, rest, rfl, hsecond, hrest⟩

theorem matchesText_url_iff :
    Name.url.pattern.matchesText value = true ↔
      ∃ parts : UrlParts, parts.Allowed ∧ value.toList = parts.text := by
  rw [matchesText, accepts_iff]
  change Accepts
    (.seq (word "http") (.seq (optional (just 's')) (.seq (word "://") (inTurn _)))) _ ↔ _
  simp only [accepts_word_seq_iff, accepts_optional_seq_iff, accepts_just_seq_iff,
    accepts_behindStart_iff]
  constructor
  · rintro ⟨_, hvalue, ⟨_, rfl, first, second, rest, rfl, hfirst, hsecond, hrest⟩ |
      ⟨_, rfl, _, rfl, first, second, rest, rfl, hfirst, hsecond, hrest⟩⟩
    · exact ⟨⟨false, first, second, rest⟩, ⟨hfirst.1, hfirst.2, hsecond, hrest⟩,
        hvalue.trans (UrlParts.text_plain first second rest).symm⟩
    · exact ⟨⟨true, first, second, rest⟩, ⟨hfirst.1, hfirst.2, hsecond, hrest⟩,
        hvalue.trans (UrlParts.text_secure first second rest).symm⟩
  · rintro ⟨⟨secure, first, second, rest⟩, ⟨hfirst, hmark, hsecond, hrest⟩, hvalue⟩
    rcases secure with _ | _
    · rw [UrlParts.text_plain] at hvalue
      exact ⟨_, hvalue, .inl ⟨_, rfl, first, second, rest, rfl, ⟨hfirst, hmark⟩, hsecond, hrest⟩⟩
    · rw [UrlParts.text_secure] at hvalue
      exact ⟨_, hvalue,
        .inr ⟨_, rfl, _, rfl, first, second, rest, rfl, ⟨hfirst, hmark⟩, hsecond, hrest⟩⟩

end Pattern

theorem UrlParts.Allowed.isUnbrokenUrl_iff {parts : UrlParts} (h : parts.Allowed) :
    IsUnbrokenUrl parts.text ↔ isBlank parts.second = false := by
  constructor
  · intro hunbroken
    exact hunbroken.unbroken parts.second (by simp [UrlParts.text])
  · intro hsecond
    refine ⟨⟨parts.start, ?_, parts.first, parts.second, parts.rest, rfl, h.first_not_mem⟩, ?_⟩
    · unfold UrlParts.start
      rcases parts.secure with _ | _ <;> simp
    · rw [UrlParts.text, List.forall_mem_append, List.forall_mem_cons, List.forall_mem_cons]
      exact ⟨parts.isBlank_start, h.first, hsecond, h.rest⟩

/-- The rule for web addresses accepts, of the values that are not empty, those with a start, a
character that is no blank and no mark, any character of a line, and no blank from there on. So an
accepted value is an address in one piece, unless that second character is a blank. -/
theorem Profile.url_rule_accepts_iff (profile : Profile) (options : RuleOptions) :
    ∃ rule entries, profile.build .url options = .ok ⟨[rule], entries⟩ ∧
      ∀ value : String, value ≠ "" → ∀ context,
        ((rule.run value context).value = [] ↔
          ∃ parts : UrlParts, parts.Allowed ∧ value.toList = parts.text) ∧
        ∀ parts : UrlParts, parts.Allowed → value.toList = parts.text →
          (IsUnbrokenUrl value.toList ↔ isBlank parts.second = false) := by
  have hkind : Kind.url.arity = 0 := rfl
  obtain ⟨entries, hbuild⟩ := build_of_arity_eq_zero profile hkind options
  refine ⟨_, entries, hbuild, fun value hvalue context => ⟨?_, ?_⟩⟩
  · apply (Rule.value_run_eq_nil_iff rfl hvalue context).trans
    exact Pattern.matchesText_url_iff
  · intro parts hallowed htext
    rw [htext]
    exact hallowed.isUnbrokenUrl_iff

theorem Profile.url_rule_accepts_of_secure :
    ∃ rule entries, Profile.standard.build .url {} = .ok ⟨[rule], entries⟩ ∧
      (rule.run "https://a.b" {}).value = [] ∧ IsUnbrokenUrl "https://a.b".toList := by
  obtain ⟨rule, entries, hbuild, haccepts⟩ := url_rule_accepts_iff .standard {}
  obtain ⟨hvalue, hunbroken⟩ := haccepts "https://a.b" (by decide) {}
  let parts : UrlParts := ⟨true, 'a', '.', ['b']⟩
  have hallowed : parts.Allowed :=
    ⟨by decide, by decide, by decide, List.forall_mem_singleton.mpr (by decide)⟩
  exact ⟨rule, entries, hbuild, hvalue.mpr ⟨parts, hallowed, by decide⟩,
    (hunbroken parts hallowed (by decide)).mpr (by decide)⟩

theorem Profile.url_rule_accepts_blank :
    ∃ rule entries, Profile.standard.build .url {} = .ok ⟨[rule], entries⟩ ∧
      (rule.run "http://a b" {}).value = [] ∧ ¬IsUnbrokenUrl "http://a b".toList := by
  have hkind : Kind.url.arity = 0 := rfl
  obtain ⟨entries, hbuild⟩ := build_of_arity_eq_zero .standard hkind {}
  refine ⟨_, entries, hbuild, by decide, fun h => ?_⟩
  exact absurd (h.unbroken ' ' (by decide)) (by decide)

end FormCheck
