import FormCheck.Proofs.Numerals
import FormCheck.Proofs.SmallLetters
import FormCheck.Settings.File
import Mathlib.Data.List.TakeWhile

namespace FormCheck.Settings

open Text (splitOn)

variable {path name stem extension : List Char} {format : FileFormat}

/-- A piece of a path between slashes that counts. Empty ones and single dots do not. -/
def IsComponent (piece : List Char) : Prop :=
  piece ≠ [] ∧ piece ≠ ['.']

/-- A path whose last component is a name. Any pieces may come before it, and only pieces that do
not count may follow. -/
structure EndsIn (path name : List Char) : Prop where
  isComponent : IsComponent name
  pieces : ∃ front back, path = ['/'].intercalate (front ++ name :: back) ∧
    (∀ piece ∈ front ++ name :: back, '/' ∉ piece) ∧ ∀ piece ∈ back, ¬IsComponent piece

theorem getLast?_filter_eq_some_iff {p : α → Bool} {l : List α} {a : α} :
    (l.filter p).getLast? = some a ↔
      p a = true ∧ ∃ front back, l = front ++ a :: back ∧ ∀ b ∈ back, p b = false := by
  rw [List.getLast?_filter, List.find?_eq_some_iff_append]
  refine and_congr_right fun _ => ?_
  constructor
  · rintro ⟨front, back, hreverse, hfront⟩
    refine ⟨back.reverse, front.reverse, ?_, ?_⟩
    · rw [← List.reverse_reverse l, hreverse]
      simp
    · simpa using hfront
  · rintro ⟨front, back, rfl, hback⟩
    exact ⟨back.reverse, front.reverse, by simp, by simpa using hback⟩

theorem endsIn_iff : EndsIn path name ↔
    ((splitOn (· == '/') path).filter fun s => s ≠ [] ∧ s ≠ ['.']).getLast? = some name := by
  rw [getLast?_filter_eq_some_iff]
  simp only [decide_eq_true_eq, decide_eq_false_iff_not]
  constructor
  · rintro ⟨hname, front, back, hpath, hslash, hback⟩
    refine ⟨hname, front, back, ?_, hback⟩
    exact (Text.splitOn_eq_iff hslash (by simp)).mpr hpath
  · rintro ⟨hname, front, back, hpieces, hback⟩
    have hslash : ∀ piece ∈ front ++ name :: back, '/' ∉ piece := by
      rw [← hpieces]
      exact fun piece => Text.not_mem_of_mem_splitOn
    exact ⟨hname, front, back, (Text.splitOn_eq_iff hslash (by simp)).mp hpieces, hslash, hback⟩

theorem fileName?_eq_some_iff :
    fileName? path = some name ↔ EndsIn path name ∧ name ≠ ['.', '.'] := by
  rw [endsIn_iff, fileName?]
  cases hlast : ((splitOn (· == '/') path).filter fun s => s ≠ [] ∧ s ≠ ['.']).getLast? with
  | none => simp
  | some last =>
      by_cases hup : last = ['.', '.']
      · simp [hup, eq_comm]
      · simp only [hup, if_false, Option.some.injEq]
        constructor
        · rintro rfl
          exact ⟨rfl, hup⟩
        · exact And.left

theorem extensionOf?_append (hextension : '.' ∉ extension) (stem : List Char) :
    extensionOf? (stem ++ '.' :: extension) = if stem = [] then none else some extension := by
  have hafter : (stem ++ '.' :: extension).reverse.takeWhile (· != '.') = extension.reverse := by
    rw [List.reverse_append, List.reverse_cons, List.append_assoc, List.singleton_append]
    exact Text.before_append (by simpa using hextension) _
  have hbefore : (stem ++ '.' :: extension).take
      ((stem ++ '.' :: extension).length - extension.length) = stem ++ ['.'] := by
    rw [List.append_cons]
    refine List.take_left' ?_
    simp only [List.length_append]
    omega
  unfold extensionOf?
  simp only [hafter, List.reverse_reverse, hbefore]
  cases stem <;> simp

theorem extensionOf?_of_not_mem (h : '.' ∉ name) : extensionOf? name = none := by
  have hafter : name.reverse.takeWhile (· != '.') = name.reverse :=
    List.takeWhile_eq_self_iff.mpr (Text.bne_of_not_mem (by simpa using h))
  unfold extensionOf?
  simp [hafter]

theorem exists_last_dot (h : '.' ∈ name) :
    ∃ stem extension, name = stem ++ '.' :: extension ∧ '.' ∉ extension := by
  obtain ⟨front, back, hreverse, hfront⟩ := List.eq_append_cons_of_mem (List.mem_reverse.mpr h)
  refine ⟨back.reverse, front.reverse, ?_, by simpa using hfront⟩
  rw [← List.reverse_reverse name, hreverse]
  simp

theorem extensionOf?_eq_some_iff :
    extensionOf? name = some extension ↔
      ∃ stem, stem ≠ [] ∧ '.' ∉ extension ∧ name = stem ++ '.' :: extension := by
  constructor
  · intro h
    by_cases hdot : '.' ∈ name
    · obtain ⟨stem, last, rfl, hlast⟩ := exists_last_dot hdot
      rw [extensionOf?_append hlast] at h
      by_cases hstem : stem = []
      · rw [if_pos hstem] at h
        cases h
      · rw [if_neg hstem] at h
        obtain rfl := Option.some.inj h
        exact ⟨stem, hstem, hlast, rfl⟩
    · rw [extensionOf?_of_not_mem hdot] at h
      cases h
  · rintro ⟨stem, hstem, hextension, rfl⟩
    rw [extensionOf?_append hextension, if_neg hstem]

/-- Whether an extension is the name of a format, in letters of either case. -/
def FileFormat.IsSpelledBy (format : FileFormat) (extension : List Char) : Prop :=
  extension.map Char.toLower = format.name.toList

instance (format : FileFormat) : DecidablePred format.IsSpelledBy := fun _ =>
  inferInstanceAs (Decidable (_ = _))

theorem FileFormat.isPlain_name (format : FileFormat) :
    ∀ c ∈ format.name.toList, Text.IsPlain c := by
  cases format <;> simp [name, Text.IsPlain]

theorem FileFormat.ofExtension?_eq_some_iff {extension : String} :
    ofExtension? extension = some format ↔ format.IsSpelledBy extension.toList := by
  rw [IsSpelledBy, ← Text.lowercase_eq_iff format.isPlain_name, ofExtension?]
  -- Only the word counts, and to compute it from the extension would take long.
  generalize Text.lowercase extension = word
  split
  · cases format <;> simp [name]
  · cases format <;> simp [name]
  · cases format <;> simp [name]
  · rename_i hjson htoml henv
    cases format
    · simpa [name] using hjson
    · simpa [name] using htoml
    · simpa [name] using henv

theorem FileFormat.IsSpelledBy.ne_nil (h : format.IsSpelledBy extension) : extension ≠ [] := by
  rintro rfl
  exact absurd h (by cases format <;> decide)

theorem FileFormat.IsSpelledBy.not_mem_dot (h : format.IsSpelledBy extension) :
    '.' ∉ extension := by
  intro hdot
  have hmem : Char.toLower '.' ∈ format.name.toList := by
    rw [← show extension.map Char.toLower = format.name.toList from h]
    exact List.mem_map_of_mem hdot
  exact absurd hmem (by cases format <;> decide)

theorem EndsIn.formatOfPath_eq {path : String}
    (h : EndsIn path.toList (stem ++ '.' :: extension)) (hformat : format.IsSpelledBy extension) :
    formatOfPath path =
      if stem = [] then .error (.load ("No file extension: " ++ path)) else .ok format := by
  have hup : stem ++ '.' :: extension ≠ ['.', '.'] := by
    intro hup
    obtain ⟨c, hc⟩ := List.exists_mem_of_ne_nil _ hformat.ne_nil
    have hdots : c ∈ ['.', '.'] := by
      rw [← hup]
      simp [hc]
    obtain rfl : c = '.' := by simpa using hdots
    exact hformat.not_mem_dot hc
  have hname : fileName? path.toList = some (stem ++ '.' :: extension) :=
    fileName?_eq_some_iff.mpr ⟨h, hup⟩
  have hextension : extension? path =
      (if stem = [] then none else some extension).map String.ofList := by
    rw [extension?, hname, Option.bind_some, extensionOf?_append hformat.not_mem_dot]
  unfold formatOfPath
  rw [hextension]
  by_cases hstem : stem = []
  · rw [if_pos hstem, if_pos hstem]
    rfl
  · have htold : FileFormat.ofExtension? (String.ofList extension) = some format := by
      rw [FileFormat.ofExtension?_eq_some_iff, String.toList_ofList]
      exact hformat
    rw [if_neg hstem, if_neg hstem, Option.map_some]
    simp only [htold]

theorem exists_endsIn_of_formatOfPath {path : String} (h : formatOfPath path = .ok format) :
    ∃ stem extension, EndsIn path.toList (stem ++ '.' :: extension) ∧
      format.IsSpelledBy extension := by
  unfold formatOfPath at h
  split at h
  · cases h
  · rename_i extension hextension
    split at h
    · rename_i told htold
      obtain rfl := Except.ok.inj h
      rw [extension?, Option.map_eq_some_iff] at hextension
      obtain ⟨last, hlast, rfl⟩ := hextension
      obtain ⟨name, hname, hlast⟩ := Option.bind_eq_some_iff.mp hlast
      obtain ⟨stem, -, -, rfl⟩ := extensionOf?_eq_some_iff.mp hlast
      rw [FileFormat.ofExtension?_eq_some_iff, String.toList_ofList] at htold
      exact ⟨stem, last, (fileName?_eq_some_iff.mp hname).1, htold⟩
    · cases h

theorem formatOfPath_ok_or_load (path : String) :
    (∃ format, formatOfPath path = .ok format) ∨
      ∃ reason, formatOfPath path = .error (.load reason) := by
  unfold formatOfPath
  split
  · exact .inr ⟨_, rfl⟩
  · split
    · exact .inl ⟨_, rfl⟩
    · exact .inr ⟨_, rfl⟩

/-- A path whose last name ends in a dot and the name of a format, in letters of either case, is of
that format, whatever directories come before and whatever else is in the name. Every other path is
refused when it is to be loaded. So is a dot file that has no more than the name of a format behind
its dot, and these are the only paths for which a format that stands at the end is not told. -/
theorem format_told_by_ending_iff (path : String) :
    (∀ stem extension format, EndsIn path.toList (stem ++ '.' :: extension) →
      format.IsSpelledBy extension → formatOfPath path =
        if stem = [] then .error (.load ("No file extension: " ++ path)) else .ok format) ∧
    ((¬∃ stem extension format, EndsIn path.toList (stem ++ '.' :: extension) ∧
      FileFormat.IsSpelledBy format extension) →
        ∃ reason, formatOfPath path = .error (.load reason)) ∧
    ((∀ stem extension format, EndsIn path.toList (stem ++ '.' :: extension) →
      format.IsSpelledBy extension → formatOfPath path = .ok format) ↔
        ¬∃ extension format, EndsIn path.toList ('.' :: extension) ∧
          FileFormat.IsSpelledBy format extension) := by
  refine ⟨fun stem extension format => EndsIn.formatOfPath_eq, ?_, ?_⟩
  · intro hnone
    rcases formatOfPath_ok_or_load path with ⟨format, hformat⟩ | hload
    · obtain ⟨stem, extension, hends, hspelled⟩ := exists_endsIn_of_formatOfPath hformat
      exact absurd ⟨stem, extension, format, hends, hspelled⟩ hnone
    · exact hload
  · constructor
    · rintro htold ⟨extension, format, hends, hspelled⟩
      have hdot : EndsIn path.toList ([] ++ '.' :: extension) := hends
      have hrefused := hdot.formatOfPath_eq hspelled
      rw [htold [] extension format hdot hspelled, if_pos rfl] at hrefused
      cases hrefused
    · intro hnone stem extension format hends hspelled
      rw [hends.formatOfPath_eq hspelled, if_neg]
      rintro rfl
      exact hnone ⟨extension, format, hends, hspelled⟩

theorem format_told_by_ending_of_directory :
    let path := "/etc/forms.json/.toml/settings.v2.EnV/."
    EndsIn path.toList ("settings.v2".toList ++ '.' :: "EnV".toList) ∧
      FileFormat.env.IsSpelledBy "EnV".toList ∧ formatOfPath path = .ok .env := by
  intro path
  have hends : EndsIn path.toList ("settings.v2".toList ++ '.' :: "EnV".toList) :=
    endsIn_iff.mpr (by decide)
  have hspelled : FileFormat.env.IsSpelledBy "EnV".toList := by decide
  obtain ⟨htold, -⟩ := format_told_by_ending_iff path
  exact ⟨hends, hspelled, htold _ _ _ hends hspelled⟩

theorem format_not_told_by_dot_file :
    EndsIn ".env".toList ([] ++ '.' :: "env".toList) ∧ FileFormat.env.IsSpelledBy "env".toList ∧
      (fromFile ".env" (.bytes "FORMRULE_LOCALE=en\n".toUTF8)).value =
        .error (.load "No file extension: .env") := by
  refine ⟨endsIn_iff.mpr (by decide), by decide, ?_⟩
  rfl

end FormCheck.Settings
