import FormCheck.Proofs.SettingSpellings
import FormCheck.Settings.Environment

namespace FormCheck.Settings

/-- A name that starts as those of the program's variables do, the low line included. -/
def IsProgramName (name : String) : Prop :=
  ∃ rest, name = variableStart ++ "_" ++ rest

theorem dropVariableStart?_eq_some_iff {start name rest : String} :
    dropVariableStart? start name = some rest ↔ name = start ++ "_" ++ rest := by
  rw [dropVariableStart?, Option.map_eq_some_iff]
  simp only [Text.dropStart?_eq_some_iff]
  constructor
  · rintro ⟨chars, hchars, rfl⟩
    apply String.toList_injective
    simp only [hchars, String.toList_append, String.toList_ofList]
  · rintro rfl
    exact ⟨rest.toList, String.toList_append, String.ofList_toList⟩

theorem isProgramName_iff {name : String} :
    (dropVariableStart? variableStart name).isSome = true ↔ IsProgramName name := by
  rw [Option.isSome_iff_exists]
  simp only [dropVariableStart?_eq_some_iff]
  rfl

instance : DecidablePred IsProgramName := fun _ => decidable_of_iff _ isProgramName_iff

theorem dropVariableStart?_append (start rest : String) :
    dropVariableStart? start (start ++ "_" ++ rest) = some rest :=
  dropVariableStart?_eq_some_iff.mpr rfl

theorem entryKey_append (rest : String) :
    entryKey (variableStart ++ "_" ++ rest) = Text.lowercase rest := by
  rw [entryKey, dropVariableStart?_append, Option.getD_some]

/-- The entries of an environment file under the names of the settings that they set. -/
def keyed (entries : List (String × String)) : Variables :=
  entries.map fun (name, text) => (entryKey name, text)

theorem keyed_cons (rest text : String) (pairs : List (String × String)) :
    keyed ((variableStart ++ "_" ++ rest, text) :: pairs) =
      (Text.lowercase rest, text) :: keyed pairs := by
  simp only [keyed, List.map_cons, entryKey_append]

theorem entriesJson_eq_toJson (entries : List (String × String)) :
    entriesJson entries = (keyed entries).toJson := by
  rw [entriesJson, Variables.toJson, keyed, List.map_map]
  rfl

/-- The text of the last pair that sets a setting. -/
def lastText? (pairs : List (String × String)) (key : String) : Option String :=
  (pairs.filter fun pair => entryKey pair.1 == key).getLast?.map (·.2)

theorem get?_keyed (pairs : List (String × String)) (key : String) :
    (keyed pairs).get? key = lastText? pairs key := by
  rw [lastText?, List.getLast?_filter, Variables.get?, keyed, ← List.map_reverse, List.find?_map,
    Option.map_map]
  rfl

theorem withStart_cons (rest text : String) (pairs : List (String × String)) :
    Variables.withStart variableStart ((variableStart ++ "_" ++ rest, text) :: pairs) =
      if rest = "" then Variables.withStart variableStart pairs
      else (Text.lowercase rest, text) :: Variables.withStart variableStart pairs := by
  simp only [Variables.withStart, List.filterMap_cons, dropVariableStart?_append]
  split_ifs <;> rfl

theorem get?_withStart {pairs : List (String × String)}
    (hpairs : ∀ pair ∈ pairs, IsProgramName pair.1) {key : String} (hkey : key ≠ "") :
    (Variables.withStart variableStart pairs).get? key = (keyed pairs).get? key := by
  induction pairs with
  | nil => rfl
  | cons pair pairs ih =>
      obtain ⟨⟨rest, hname⟩, hrest⟩ := List.forall_mem_cons.mp hpairs
      obtain ⟨name, text⟩ := pair
      obtain rfl : name = variableStart ++ "_" ++ rest := hname
      rw [withStart_cons, keyed_cons, Variables.get?_cons, ← ih hrest]
      by_cases hempty : rest = ""
      · have hlower : Text.lowercase rest ≠ key := by
          rw [hempty]
          exact fun h => hkey h.symm
        rw [if_pos hempty, if_neg hlower, Option.or_none]
      · rw [if_neg hempty, Variables.get?_cons]

theorem sameSettings_withStart {pairs : List (String × String)}
    (hpairs : ∀ pair ∈ pairs, IsProgramName pair.1) :
    Variables.SameSettings (Variables.withStart variableStart pairs) (keyed pairs) := by
  intro key hkey
  refine get?_withStart hpairs ?_
  rintro rfl
  exact absurd hkey (by decide)

theorem sameSettings_keyed_iff {pairs others : List (String × String)} :
    Variables.SameSettings (keyed others) (keyed pairs) ↔
      ∀ key ∈ keys, lastText? others key = lastText? pairs key := by
  unfold Variables.SameSettings
  simp only [get?_keyed]

theorem lastText?_filter (pairs : List (String × String)) {key : String} (hkey : key ∈ keys) :
    lastText? (pairs.filter fun pair => entryKey pair.1 ∈ keys) key = lastText? pairs key := by
  have hfilter : (pairs.filter fun pair =>
      entryKey pair.1 == key && decide (entryKey pair.1 ∈ keys)) =
      pairs.filter fun pair => entryKey pair.1 == key := by
    refine List.filter_congr fun pair _ => ?_
    by_cases hpair : entryKey pair.1 = key
    · simp [hpair, hkey]
    · simp [hpair]
  rw [lastText?, List.filter_filter, hfilter, lastText?]

variable {pairs others : List (String × String)}

theorem fromEnvironment_eq_overlay_keyed (hpairs : ∀ pair ∈ pairs, IsProgramName pair.1) :
    fromEnvironment pairs = standard.overlay (keyed pairs) :=
  overlay_congr standard (sameSettings_withStart hpairs)

theorem fromEnvironment_congr (hpairs : ∀ pair ∈ pairs, IsProgramName pair.1)
    (hothers : ∀ pair ∈ others, IsProgramName pair.1)
    (htexts : ∀ key ∈ keys, lastText? others key = lastText? pairs key) :
    fromEnvironment others = fromEnvironment pairs := by
  rw [fromEnvironment_eq_overlay_keyed hothers, fromEnvironment_eq_overlay_keyed hpairs]
  exact overlay_congr standard (sameSettings_keyed_iff.mpr htexts)

theorem fromJson_entriesJson_congr
    (htexts : ∀ key ∈ keys, lastText? others key = lastText? pairs key) :
    fromJson (entriesJson others) = fromJson (entriesJson pairs) := by
  rw [entriesJson_eq_toJson, entriesJson_eq_toJson]
  exact fromJson_toJson_congr (sameSettings_keyed_iff.mpr htexts)

/-- Pairs whose names all start as those of the program's variables do give the same settings as
variables of the environment and as entries of a file, or give none as either. What each of the two
gives, errors included, depends on the last text for each setting only, and hence not on pairs that
set nothing, wherever they stand. -/
theorem environment_and_entries_agree (hpairs : ∀ pair ∈ pairs, IsProgramName pair.1) :
    (∀ s, fromEnvironment pairs = .ok s ↔ fromJson (entriesJson pairs) = .ok s) ∧
    ∀ others : List (String × String), (∀ pair ∈ others, IsProgramName pair.1) →
      ((∀ key ∈ keys, lastText? others key = lastText? pairs key) →
        fromEnvironment others = fromEnvironment pairs ∧
          fromJson (entriesJson others) = fromJson (entriesJson pairs)) ∧
      ((others.filter fun pair => entryKey pair.1 ∈ keys) =
          (pairs.filter fun pair => entryKey pair.1 ∈ keys) →
        fromEnvironment others = fromEnvironment pairs ∧
          fromJson (entriesJson others) = fromJson (entriesJson pairs)) := by
  constructor
  · intro s
    rw [fromEnvironment_eq_overlay_keyed hpairs, entriesJson_eq_toJson, fromJson_toJson_eq_ok_iff]
  · intro others hothers
    constructor
    · intro htexts
      exact ⟨fromEnvironment_congr hpairs hothers htexts, fromJson_entriesJson_congr htexts⟩
    · intro hfilter
      have htexts : ∀ key ∈ keys, lastText? others key = lastText? pairs key := by
        intro key hkey
        rw [← lastText?_filter others hkey, hfilter, lastText?_filter pairs hkey]
      exact ⟨fromEnvironment_congr hpairs hothers htexts, fromJson_entriesJson_congr htexts⟩

theorem environment_and_entries_agree_on_last :
    let pairs := [("FORMRULE_locale", "zh"), ("FORMRULE_", "x"), ("FORMRULE_LOCALE", "en"),
      ("FORMRULE_FORMRULE_LOCALE", "fr"), ("FORMRULE_Date_Check", " Calendar ")]
    let others := [("FORMRULE_Locale", "en"), ("FORMRULE_SHADE", "7"),
      ("FORMRULE_DATE_CHECK", " Calendar ")]
    (∀ pair ∈ pairs, IsProgramName pair.1) ∧ (∀ pair ∈ others, IsProgramName pair.1) ∧
      (∀ key ∈ keys, lastText? others key = lastText? pairs key) ∧
      fromEnvironment pairs = .ok ⟨"en", .lenient, .calendar⟩ ∧
      fromJson (entriesJson pairs) = .ok ⟨"en", .lenient, .calendar⟩ ∧
      fromJson (entriesJson others) = .ok ⟨"en", .lenient, .calendar⟩ := by
  intro pairs others
  have hpairs : ∀ pair ∈ pairs, IsProgramName pair.1 := by decide
  have hothers : ∀ pair ∈ others, IsProgramName pair.1 := by decide
  have htexts : ∀ key ∈ keys, lastText? others key = lastText? pairs key := by decide
  have henvironment : fromEnvironment pairs = .ok ⟨"en", .lenient, .calendar⟩ := by decide
  obtain ⟨hagree, hsame⟩ := environment_and_entries_agree hpairs
  have hentries := (hagree _).mp henvironment
  refine ⟨hpairs, hothers, htexts, henvironment, hentries, ?_⟩
  rw [((hsame others hothers).1 htexts).2]
  exact hentries

end FormCheck.Settings
