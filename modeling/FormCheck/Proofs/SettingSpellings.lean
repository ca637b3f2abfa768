import FormCheck.Proofs.JsonFields
import FormCheck.Settings.Basic

namespace FormCheck.Settings

variable {vars vars' : Variables} {base s : Settings}

/-- Variables as an object with their texts, in which the last text of a name counts as well. -/
def Variables.toJson (vars : Variables) : Json :=
  Json.ofFields (vars.map fun (name, text) => (name, .str text))

theorem Variables.field?_toJson (vars : Variables) (key : String) :
    vars.toJson.field? key = (vars.get? key).map Json.str := by
  rw [toJson, Json.field?_ofFields, List.filter_map, List.getLast?_map, List.getLast?_filter,
    Option.map_map, get?, Option.map_map]
  rfl

theorem decodeOr_decodeString_str (unset : String) (text? : Option String) :
    Json.decodeOr unset Json.decodeString (text?.map Json.str) = .ok (text?.getD unset) := by
  cases text? <;> rfl

/-- A setting that is refused, as the error of taking it from a JSON value. -/
def refused (e : Invalid) : Json.DecodeError :=
  .refused e.message

theorem decodeOr_decodeChoiceText_str (unset : α) (read : String → Except Invalid α)
    (text? : Option String) :
    Json.decodeOr unset (decodeChoiceText read) (text?.map Json.str) =
      (readOr unset read text?).mapError refused := by
  cases text? with
  | none => rfl
  | some text =>
      change decodeChoiceText read (.str text) = (read text).mapError refused
      cases hread : read text <;>
        simp [decodeChoiceText, Json.decodeString, hread, refused, bind, Except.bind,
          Except.mapError]

theorem exists_readOr_eq_ok_iff (unset : α) {read : String → Except Invalid α}
    {text? : Option String} :
    (∃ a, readOr unset read text? = .ok a) ↔
      ∀ text, text? = some text → ∃ a, read text = .ok a := by
  cases text? <;> simp [readOr]

/-- An object is read in the order of its names. Of two choices that cannot be read it is therefore
refused over the one for dates, and the variables over the other one. -/
theorem decode_toJson (vars : Variables) :
    decode vars.toJson = (do
      let dateCheck ← (readOr standard.dateCheck DateCheck.read
        (vars.get? DateCheck.key)).mapError refused
      let malformedRules ← (readOr standard.malformedRules MalformedRules.read
        (vars.get? MalformedRules.key)).mapError refused
      pure ⟨(vars.get? "locale").getD standard.locale, malformedRules, dateCheck⟩) := by
  change (do
      let dateCheck ← Json.decodeOr standard.dateCheck (decodeChoiceText DateCheck.read)
        (vars.toJson.field? DateCheck.key)
      let locale ← Json.decodeOr standard.locale Json.decodeString (vars.toJson.field? "locale")
      let malformedRules ← Json.decodeOr standard.malformedRules
        (decodeChoiceText MalformedRules.read) (vars.toJson.field? MalformedRules.key)
      pure (⟨locale, malformedRules, dateCheck⟩ : Settings)) = _
  rw [Variables.field?_toJson, Variables.field?_toJson, Variables.field?_toJson,
    decodeOr_decodeChoiceText_str, decodeOr_decodeString_str, decodeOr_decodeChoiceText_str]
  rfl

theorem mapError_eq_ok_iff {outcome : Except ε α} {f : ε → ε'} {a : α} :
    outcome.mapError f = .ok a ↔ outcome = .ok a := by
  cases outcome <;> simp [Except.mapError]

/-- What the texts of variables make of given settings. The locale is not tested yet. -/
structure Spelled (base : Settings) (vars : Variables) (s : Settings) : Prop where
  locale : (vars.get? "locale").getD base.locale = s.locale
  malformedRules : readOr base.malformedRules MalformedRules.read
    (vars.get? MalformedRules.key) = .ok s.malformedRules
  dateCheck : readOr base.dateCheck DateCheck.read (vars.get? DateCheck.key) = .ok s.dateCheck

theorem exists_spelled_iff :
    (∃ s, base.Spelled vars s) ↔
      (∀ text, vars.get? MalformedRules.key = some text →
        ∃ malformedRules, MalformedRules.read text = .ok malformedRules) ∧
      ∀ text, vars.get? DateCheck.key = some text →
        ∃ dateCheck, DateCheck.read text = .ok dateCheck := by
  rw [← exists_readOr_eq_ok_iff base.malformedRules, ← exists_readOr_eq_ok_iff base.dateCheck]
  constructor
  · rintro ⟨s, h⟩
    exact ⟨⟨_, h.malformedRules⟩, _, h.dateCheck⟩
  · rintro ⟨⟨malformedRules, hrules⟩, dateCheck, hdates⟩
    exact ⟨⟨_, malformedRules, dateCheck⟩, rfl, hrules, hdates⟩

/-- The settings as they are, if their locale passes its test. -/
def tested (s : Settings) : Except Invalid Settings :=
  s.validate.map fun _ => s

theorem eq_of_tested_eq_ok (h : base.tested = .ok s) : base = s := by
  unfold tested at h
  cases hvalid : base.validate with
  | error e =>
      rw [hvalid] at h
      cases h
  | ok valid =>
      rw [hvalid] at h
      exact Except.ok.inj h

theorem Spelled.overlay_eq (h : base.Spelled vars s) : base.overlay vars = s.tested := by
  unfold overlay tested
  rw [h.locale, h.malformedRules, h.dateCheck]
  cases hvalid : s.validate <;>
    simp [hvalid, bind, Except.bind, pure, Except.pure, Except.map]

theorem Spelled.fromJson_eq (h : standard.Spelled vars s) :
    fromJson vars.toJson = s.tested.mapError .invalid := by
  unfold fromJson tested
  rw [decode_toJson, h.locale, h.malformedRules, h.dateCheck]
  cases hvalid : s.validate <;>
    simp [hvalid, bind, Except.bind, pure, Except.pure, Except.map, Except.mapError]

theorem spelled_of_overlay_eq_ok (h : base.overlay vars = .ok s) : base.Spelled vars s := by
  cases hrules : readOr base.malformedRules MalformedRules.read (vars.get? MalformedRules.key) with
  | error e =>
      rw [overlay, hrules] at h
      cases h
  | ok malformedRules =>
      cases hdates : readOr base.dateCheck DateCheck.read (vars.get? DateCheck.key) with
      | error e =>
          rw [overlay, hrules, hdates] at h
          cases h
      | ok dateCheck =>
          have hspelled : base.Spelled vars ⟨_, malformedRules, dateCheck⟩ := ⟨rfl, hrules, hdates⟩
          rw [hspelled.overlay_eq] at h
          exact eq_of_tested_eq_ok h ▸ hspelled

theorem spelled_of_fromJson_eq_ok (h : fromJson vars.toJson = .ok s) :
    standard.Spelled vars s := by
  cases hdates : readOr standard.dateCheck DateCheck.read (vars.get? DateCheck.key) with
  | error e =>
      rw [fromJson, decode_toJson, hdates] at h
      cases h
  | ok dateCheck =>
      cases hrules : readOr standard.malformedRules MalformedRules.read
        (vars.get? MalformedRules.key) with
      | error e =>
          rw [fromJson, decode_toJson, hdates, hrules] at h
          cases h
      | ok malformedRules =>
          have hspelled : standard.Spelled vars ⟨_, malformedRules, dateCheck⟩ :=
            ⟨rfl, hrules, hdates⟩
          rw [hspelled.fromJson_eq, mapError_eq_ok_iff] at h
          exact eq_of_tested_eq_ok h ▸ hspelled

theorem fromJson_toJson_eq_ok_iff :
    fromJson vars.toJson = .ok s ↔ standard.overlay vars = .ok s := by
  constructor
  · intro h
    have hspelled := spelled_of_fromJson_eq_ok h
    rw [hspelled.fromJson_eq, mapError_eq_ok_iff] at h
    exact hspelled.overlay_eq.trans h
  · intro h
    have hspelled := spelled_of_overlay_eq_ok h
    rw [hspelled.fromJson_eq, mapError_eq_ok_iff]
    exact hspelled.overlay_eq.symm.trans h

/-- Whatever the names and texts of variables are, an object with these texts gives settings exactly
when the variables do, and it gives the same ones. If the texts for both choices can be read, as far
as they are there, both ways fail alike as well, over the locale. -/
theorem json_and_variables_same_spellings (vars : Variables) :
    (∀ s, fromJson vars.toJson = .ok s ↔ standard.overlay vars = .ok s) ∧
    ((∀ text, vars.get? MalformedRules.key = some text →
        ∃ malformedRules, MalformedRules.read text = .ok malformedRules) →
      (∀ text, vars.get? DateCheck.key = some text →
        ∃ dateCheck, DateCheck.read text = .ok dateCheck) →
      fromJson vars.toJson = (standard.overlay vars).mapError .invalid) := by
  refine ⟨fun s => fromJson_toJson_eq_ok_iff, ?_⟩
  intro hrules hdates
  obtain ⟨s, hspelled⟩ := exists_spelled_iff.mpr ⟨hrules, hdates⟩
  rw [hspelled.fromJson_eq, hspelled.overlay_eq]

theorem json_and_variables_refuse_locale :
    let vars : Variables := [("locale", "en"), ("date_check", " CALENDAR\t"), ("shade", "7"),
      ("malformed_rules", "Strict"), ("locale", "en-")]
    vars.get? MalformedRules.key = some "Strict" ∧ MalformedRules.read "Strict" = .ok .strict ∧
      vars.get? DateCheck.key = some " CALENDAR\t" ∧ DateCheck.read " CALENDAR\t" = .ok .calendar ∧
      standard.overlay vars = .error ⟨"locale", .notALocaleTag "en-"⟩ ∧
      fromJson vars.toJson = .error (.invalid ⟨"locale", .notALocaleTag "en-"⟩) := by
  intro vars
  have hrules : vars.get? MalformedRules.key = some "Strict" := by decide
  have hstrict : MalformedRules.read "Strict" = .ok .strict := by decide
  have hdates : vars.get? DateCheck.key = some " CALENDAR\t" := by decide
  have hcalendar : DateCheck.read " CALENDAR\t" = .ok .calendar := by decide
  have hlocale : standard.overlay vars = .error ⟨"locale", .notALocaleTag "en-"⟩ := by decide
  refine ⟨hrules, hstrict, hdates, hcalendar, hlocale, ?_⟩
  obtain ⟨-, hfails⟩ := json_and_variables_same_spellings vars
  rw [hfails, hlocale]
  · rfl
  · intro text htext
    obtain rfl := Option.some.inj (hrules.symm.trans htext)
    exact ⟨_, hstrict⟩
  · intro text htext
    obtain rfl := Option.some.inj (hdates.symm.trans htext)
    exact ⟨_, hcalendar⟩

/-- The names that settings are looked for under. -/
def keys : List String :=
  ["locale", MalformedRules.key, DateCheck.key]

/-- Two environments that give the settings the same texts, whatever else is in them. -/
def Variables.SameSettings (vars vars' : Variables) : Prop :=
  ∀ key ∈ keys, vars.get? key = vars'.get? key

theorem overlay_congr (base : Settings) (h : vars.SameSettings vars') :
    base.overlay vars = base.overlay vars' := by
  unfold overlay
  rw [h "locale" (by decide), h MalformedRules.key (by decide), h DateCheck.key (by decide)]

theorem fromJson_toJson_congr (h : vars.SameSettings vars') :
    fromJson vars.toJson = fromJson vars'.toJson := by
  unfold fromJson
  rw [decode_toJson, decode_toJson, h "locale" (by decide), h MalformedRules.key (by decide),
    h DateCheck.key (by decide)]

end FormCheck.Settings
