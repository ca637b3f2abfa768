import FormCheck.Proofs.OversizedNumbers
import FormCheck.Proofs.QuotedTexts

namespace FormCheck

open Text (ControlFree controlFree_append_iff controlFree_quoted quoted_append_inj)

theorem Kind.controlFree_name (kind : Kind) : ControlFree kind.name := by
  cases kind <;> decide

namespace ArgumentsError

/-- The kind whose rules an error is about. -/
def kind : ArgumentsError → Kind
  | .notParameterised kind | .malformed kind _ | .overflow kind _ => kind

/-- The rules text that an error quotes. -/
def rules? : ArgumentsError → Option String
  | .notParameterised _ => none
  | .malformed _ rules | .overflow _ rules => some rules

variable {kind kind' : Kind} {rules rules' : String} {e e' : ArgumentsError}

theorem controlFree_shape (kind : Kind) : ControlFree (shape kind) := by
  unfold shape
  split <;> decide

theorem controlFree_message (e : ArgumentsError) : ControlFree e.message := by
  unfold message
  cases e <;>
    simp only [controlFree_append_iff, controlFree_quoted, Kind.controlFree_name, controlFree_shape,
      and_true] <;>
    decide

theorem malformed_inj_of_message
    (h : (malformed kind rules).message = (malformed kind' rules').message) :
    kind = kind' ∧ rules = rules' := by
  unfold message at h
  simp only [String.append_assoc, String.append_right_inj] at h
  obtain ⟨hrules, hbehind⟩ := quoted_append_inj h
  rw [String.append_right_inj] at hbehind
  have hname := congrArg String.toList hbehind
  simp only [String.toList_append] at hname
  exact ⟨Arguments.kind_eq_of_name_append hname, hrules⟩

theorem overflow_inj_of_message
    (h : (overflow kind rules).message = (overflow kind' rules').message) :
    kind = kind' ∧ rules = rules' := by
  unfold message at h
  simp only [String.append_assoc, String.append_right_inj] at h
  obtain ⟨hrules, hbehind⟩ := quoted_append_inj h
  simp only [String.append_right_inj, String.append_left_inj] at hbehind
  exact ⟨Kind.name_injective hbehind, hrules⟩

theorem malformed_message_ne_overflow :
    (malformed kind rules).message ≠ (overflow kind' rules').message := by
  unfold message
  intro h
  simp only [String.append_assoc, String.append_right_inj] at h
  have hbehind := congrArg (fun s => s.toList[1]?) (quoted_append_inj h).2
  simp at hbehind

theorem head?_message_eq_iff :
    e.message.toList.head? = some 'r' ↔ ∀ kind, e ≠ .notParameterised kind := by
  unfold message
  cases e <;> simp

theorem eq_notParameterised_of_message (h : (notParameterised kind).message = e.message) :
    e = .notParameterised kind := by
  have hhead : e.message.toList.head? ≠ some 'r' := by
    rw [← h, Ne, head?_message_eq_iff]
    exact fun hother => hother kind rfl
  rw [Ne, head?_message_eq_iff] at hhead
  push Not at hhead
  obtain ⟨kind', rfl⟩ := hhead
  unfold message at h
  simp only [String.append_right_inj, String.append_left_inj] at h
  rw [Kind.name_injective h]

theorem message_injective : Function.Injective message := by
  intro e e' h
  cases e with
  | notParameterised kind => exact (eq_notParameterised_of_message h).symm
  | malformed kind rules =>
      cases e' with
      | notParameterised kind' => exact eq_notParameterised_of_message h.symm
      | malformed kind' rules' =>
          obtain ⟨rfl, rfl⟩ := malformed_inj_of_message h
          rfl
      | overflow kind' rules' => exact absurd h malformed_message_ne_overflow
  | overflow kind rules =>
      cases e' with
      | notParameterised kind' => exact eq_notParameterised_of_message h.symm
      | malformed kind' rules' => exact absurd h.symm malformed_message_ne_overflow
      | overflow kind' rules' =>
          obtain ⟨rfl, rfl⟩ := overflow_inj_of_message h
          rfl

end ArgumentsError

namespace Arguments

variable {oversize : Oversize} {kind : Kind} {rules : String} {e : ArgumentsError}

theorem read_error_names (h : read oversize kind rules = .error e) :
    e = .notParameterised kind ∨ e = .malformed kind rules ∨ e = .overflow kind rules := by
  by_cases hkind : kind.arity = 0
  · rw [read_of_arity_eq_zero hkind] at h
    exact .inl (Except.error.inj h).symm
  · rcases read_error_cases hkind h with hmalformed | ⟨-, hoverflow, -⟩
    · exact .inr (.inl hmalformed)
    · exact .inr (.inr hoverflow)

theorem kind_of_read_error (h : read oversize kind rules = .error e) : e.kind = kind := by
  rcases read_error_names h with rfl | rfl | rfl <;> rfl

theorem rules?_of_read_error (h : read oversize kind rules = .error e)
    (hparameterised : e ≠ .notParameterised kind) : e.rules? = some rules := by
  rcases read_error_names h with rfl | rfl | rfl
  · exact absurd rfl hparameterised
  · rfl
  · rfl

/-- What is said about rules that are refused holds no control character, whatever the rules hold.
Two refusals of which the same is said are the same error for the same kind, and for the same text
unless the kind takes no numbers. -/
theorem refusal_text_unambiguous (h : read oversize kind rules = .error e) :
    ControlFree e.message ∧
      ∀ oversize' kind' rules' e', read oversize' kind' rules' = .error e' →
        e.message = e'.message →
          e = e' ∧ kind = kind' ∧ (e ≠ .notParameterised kind → rules = rules') := by
  refine ⟨e.controlFree_message, ?_⟩
  intro oversize' kind' rules' e' h' hmessage
  obtain rfl := ArgumentsError.message_injective hmessage
  obtain rfl : kind = kind' := (kind_of_read_error h).symm.trans (kind_of_read_error h')
  refine ⟨rfl, rfl, fun hparameterised => ?_⟩
  have hrules := rules?_of_read_error h hparameterised
  rw [rules?_of_read_error h' hparameterised] at hrules
  exact (Option.some.inj hrules).symm

theorem refusal_text_unambiguous_of_line_feed :
    read .refuse .maxLength "maxLength:\n" = .error (.malformed .maxLength "maxLength:\n") ∧
      ControlFree (ArgumentsError.malformed .maxLength "maxLength:\n").message ∧
        (ArgumentsError.malformed .maxLength "maxLength:\n").message ≠
          (ArgumentsError.malformed .maxLength "maxLength:\\n").message := by
  have hread : read .refuse .maxLength "maxLength:\n" =
      .error (.malformed .maxLength "maxLength:\n") := by
    decide
  obtain ⟨hfree, htells⟩ := refusal_text_unambiguous hread
  refine ⟨hread, hfree, fun hmessage => ?_⟩
  obtain ⟨-, -, hrules⟩ := htells .refuse .maxLength "maxLength:\\n" _ (by decide) hmessage
  exact absurd (hrules (by decide)) (by decide)

end Arguments

end FormCheck
