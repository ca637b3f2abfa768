import FormCheck.Pattern.Named
import FormCheck.Proofs.Numerals
import FormCheck.Proofs.PatternBuilders
import FormCheck.Proofs.PatternReader

/-!
Written patterns are read back. A text does not show how the pieces that follow one another are
grouped, so what is read is the pattern with its pieces in one row; it accepts the same texts.
-/

namespace FormCheck.Pattern

variable {p q : Pattern} {s : List Char}

/-- The pieces that a pattern is written as, one behind the other. Whole patterns stand in
alternatives, groups and repetitions. -/
def pieces : Pattern → List Pattern
  | .empty => []
  | .one set => [.one set]
  | .seq p q => p.pieces ++ q.pieces
  | .either p q => [.either (inTurn p.pieces) (inTurn q.pieces)]
  | .times p least most => [.times (inTurn p.pieces) least most]
  | .part p => [.part (inTurn p.pieces)]

/-- The pattern with the same pieces, all in one row. -/
def regrouped (p : Pattern) : Pattern :=
  inTurn p.pieces

theorem pieces_of_isTight (hp : p.isTight = true) : p.pieces = [p.regrouped] := by
  cases p with
  | one set | part p => rfl
  | _ => cases hp

theorem Accepts.times_mono (h : ∀ s, Accepts p s → Accepts q s) {least : Nat} {most : Option Nat}
    (hs : Accepts (.times p least most) s) : Accepts (.times q least most) s := by
  generalize hr : Pattern.times p least most = r at hs
  induction hs generalizing least most with
  | stop =>
      cases hr
      exact .stop
  | more hmost hp _ _ ih =>
      cases hr
      exact .more hmost (h _ hp) (ih rfl)
  | _ => cases hr

theorem accepts_regrouped_iff : Accepts p.regrouped s ↔ Accepts p s := by
  induction p generalizing s with
  | empty | one set => rfl
  | seq p q ihp ihq =>
      refine accepts_inTurn_append_iff.trans ?_
      rw [accepts_seq_iff, accepts_seq_iff]
      exact exists₂_congr fun t u => and_congr ihp (and_congr ihq Iff.rfl)
  | either p q ihp ihq =>
      refine accepts_either_iff.trans ?_
      rw [accepts_either_iff]
      exact or_congr ihp ihq
  | times p least most ih =>
      exact ⟨Accepts.times_mono fun _ => ih.mp, Accepts.times_mono fun _ => ih.mpr⟩
  | part p ih =>
      refine accepts_part_iff.trans ?_
      rw [accepts_part_iff]
      exact ih

theorem matchesText_regrouped (p : Pattern) (value : String) :
    p.regrouped.matchesText value = p.matchesText value := by
  rw [Bool.eq_iff_iff]
  exact accepts_iff.trans (accepts_regrouped_iff.trans accepts_iff.symm)

/-- The characters that stand for themselves wherever they stand in brackets. -/
def SetItem.isPlain (c : Char) : Bool :=
  c != ']' && c != '[' && c != '\\' && c != '-'

/-- Whether an item is read as it was written. -/
def SetItem.readable : SetItem → Bool
  | .char c => isPlain c
  | .span first last => isPlain first && isPlain last && first ≤ last
  | .blank => true

/-- A hyphen can be read where it is the last item. -/
def itemsReadable : List SetItem → Bool
  | [] => true
  | item :: items =>
    (item.readable || (item == .char '-' && items.isEmpty)) && itemsReadable items

/-- Whether a set is read as it was written. A brace can be listed in one, but not stand by
itself. -/
def CharSet.readable : CharSet → Bool
  | .just c => c != '\x7b' && c != '\x7d'
  | .inLine => true
  | .among items =>
    !items.isEmpty && itemsReadable items && (items.flatMap (·.source)).head? != some '^'
  | .outside items => !items.isEmpty && itemsReadable items

/-- Whether all parts of a pattern are read as they were written. -/
def readable : Pattern → Bool
  | .empty => true
  | .one set => set.readable
  | .seq p q => p.readable && q.readable
  | .either p q => p.readable && q.readable
  | .times p least most => p.readable && most.all (least ≤ ·)
  | .part p => p.readable

theorem readable_pattern (name : Name) : name.pattern.readable = true := by
  cases name <;> decide

namespace Reading

variable {reading next : Reading} {outer : List Group} {group : Group} {t : List Char}

theorem run_cons_of_step {c : Char} (h : reading.step c = some next) :
    reading.run (c :: s) = next.run s := by
  rw [run, List.foldlM_cons, h]
  rfl

theorem run_append_of_run (h : reading.run s = some next) :
    reading.run (s ++ t) = next.run t := by
  rw [run, List.foldlM_append]
  change (reading.run s).bind _ = _
  rw [h]
  rfl

theorem run_singleton (c : Char) : reading.run [c] = reading.step c := by
  rw [run, List.foldlM_cons]
  cases reading.step c <;> rfl

theorem step_between_char {c : Char}
    (hc : (CharSet.isSpecial c || !(CharSet.just c).readable) = false) (before : Before) :
    step ⟨outer, group, .between before⟩ c = some ⟨outer, group.add (just c), .between .piece⟩ := by
  change between _ before c = _
  unfold between
  split
  case h_15 => rfl
  all_goals exact absurd hc (by decide)

theorem step_items_char {c : Char} (outside : Bool) (read : List SetItem)
    (hc : SetItem.isPlain c = true) (hcaret : (!outside && read.isEmpty) = true → c ≠ '^') :
    step ⟨outer, group, .items outside read⟩ c =
      some ⟨outer, group, .items outside (.char c :: read)⟩ := by
  change inItems _ outside read c = _
  unfold inItems
  split
  case h_5 => exact if_neg fun h => hcaret h rfl
  case h_6 => rfl
  all_goals exact absurd hc (by decide)

theorem step_upTo_span {first last : Char} (outside : Bool) (read : List SetItem)
    (hlast : SetItem.isPlain last = true) (hle : first ≤ last) :
    step ⟨outer, group, .upTo outside (.char first :: read)⟩ last =
      some ⟨outer, group, .items outside (.span first last :: read)⟩ := by
  change afterHyphen _ outside _ last = _
  unfold afterHyphen
  split
  case h_5 => exact if_pos hle
  all_goals exact absurd hlast (by decide)

theorem run_item (outside : Bool) (read : List SetItem) {item : SetItem}
    (hitem : item.readable = true)
    (hcaret : (!outside && read.isEmpty) = true → item.source.head? ≠ some '^') :
    Reading.run ⟨outer, group, .items outside read⟩ item.source =
      some ⟨outer, group, .items outside (item :: read)⟩ := by
  cases item with
  | char c =>
      have hplain : (!outside && read.isEmpty) = true → c ≠ '^' :=
        fun hstart hc => hcaret hstart (congrArg some hc)
      rw [SetItem.source, run_singleton, step_items_char outside read hitem hplain]
  | span first last =>
      simp only [SetItem.readable, Bool.and_eq_true, decide_eq_true_eq] at hitem
      obtain ⟨⟨hfirst, hlast⟩, hle⟩ := hitem
      have hplain : (!outside && read.isEmpty) = true → first ≠ '^' :=
        fun hstart hc => hcaret hstart (congrArg some hc)
      rw [SetItem.source, run_cons_of_step (step_items_char outside read hfirst hplain),
        run_cons_of_step rfl, run_singleton]
      exact step_upTo_span outside read hlast hle
  | blank => rfl

theorem run_lastHyphen (outside : Bool) (read : List SetItem) :
    Reading.run ⟨outer, group, .items outside read⟩ ['-', ']'] =
      some ⟨outer, group.add (.one (.ofItems outside (read.reverse ++ [.char '-']))),
        .between .piece⟩ := by
  rw [run_cons_of_step rfl, run_singleton, ← List.reverse_cons]
  rfl

theorem run_items (outside : Bool) {items read : List SetItem} (hitems : itemsReadable items = true)
    (hne : items ≠ [] ∨ read ≠ [])
    (hcaret : (!outside && read.isEmpty) = true → (items.flatMap (·.source)).head? ≠ some '^') :
    Reading.run ⟨outer, group, .items outside read⟩ (items.flatMap (·.source) ++ [']']) =
      some ⟨outer, group.add (.one (.ofItems outside (read.reverse ++ items))),
        .between .piece⟩ := by
  induction items generalizing read with
  | nil =>
      rw [List.append_nil]
      change (Reading.mk outer group _).run [']'] = _
      rw [run_singleton]
      exact if_neg (by simpa using hne)
  | cons item items ih =>
      rw [itemsReadable, Bool.and_eq_true, Bool.or_eq_true] at hitems
      -- a last hyphen is not read before the bracket that closes the set
      obtain ⟨hitem | hhyphen, hitems⟩ := hitems
      · have hhead : (!outside && read.isEmpty) = true → item.source.head? ≠ some '^' := by
          intro hstart hsource
          refine hcaret hstart ?_
          rw [List.flatMap_cons, List.head?_append, hsource]
          rfl
        rw [List.flatMap_cons, List.append_assoc,
          run_append_of_run (run_item outside read hitem hhead),
          ih hitems (.inr (List.cons_ne_nil _ _)) (by simp), List.reverse_cons, List.append_assoc]
        rfl
      · simp only [Bool.and_eq_true, beq_iff_eq, List.isEmpty_iff] at hhyphen
        obtain ⟨rfl, rfl⟩ := hhyphen
        exact run_lastHyphen outside read

theorem run_set {set : CharSet} (hset : set.readable = true) (before : Before) :
    Reading.run ⟨outer, group, .between before⟩ set.source =
      some ⟨outer, group.add (.one set), .between .piece⟩ := by
  cases set with
  | just c =>
      rw [CharSet.source]
      split
      · rename_i hspecial
        rw [run_cons_of_step rfl, run_singleton]
        exact if_pos hspecial
      · rename_i hspecial
        rw [run_singleton]
        exact step_between_char (by simp [hspecial, hset]) before
  | inLine => rfl
  | among items =>
      simp only [CharSet.readable, Bool.and_eq_true, bne_iff_ne, ne_eq] at hset
      obtain ⟨⟨hne, hitems⟩, hcaret⟩ := hset
      refine (run_cons_of_step rfl).trans ?_
      exact run_items false hitems (.inl (by simpa using hne)) fun _ => hcaret
  | outside items =>
      simp only [CharSet.readable, Bool.and_eq_true] at hset
      obtain ⟨hne, hitems⟩ := hset
      refine (run_cons_of_step rfl).trans ?_
      refine (run_cons_of_step rfl).trans ?_
      exact run_items true hitems (.inl (by simpa using hne)) (by simp)

theorem run_digits (place : List Char → Place)
    (hstep : ∀ read c, Text.isDigit c = true →
      step ⟨outer, group, place read⟩ c = some ⟨outer, group, place (read ++ [c])⟩)
    {digits : List Char} (hdigits : ∀ c ∈ digits, Text.isDigit c = true) (read : List Char) :
    Reading.run ⟨outer, group, place read⟩ digits =
      some ⟨outer, group, place (read ++ digits)⟩ := by
  induction digits generalizing read with
  | nil =>
      rw [List.append_nil]
      rfl
  | cons c digits ih =>
      rw [List.forall_mem_cons] at hdigits
      rw [run_cons_of_step (hstep read c hdigits.1), ih hdigits.2, List.append_assoc]
      rfl

theorem run_least (least : Nat) :
    Reading.run ⟨outer, group, .between .piece⟩ (Char.ofNat 0x7B :: (toString least).toList) =
      some ⟨outer, group, .least (toString least).toList⟩ := by
  rw [run_cons_of_step rfl]
  exact run_digits .least (fun _ _ hc => if_pos hc) (fun _ => Text.isDigit_of_mem_toString) []

theorem step_least_comma (least : Nat) :
    step ⟨outer, group, .least (toString least).toList⟩ ',' =
      some ⟨outer, group, .most least []⟩ := by
  change inLeast _ _ _ = _
  rw [inLeast, if_neg (by decide), Text.isNumeral_toString, Text.decimal_toString]
  rfl

theorem step_least_close (least : Nat) :
    step ⟨outer, group.add p, .least (toString least).toList⟩ (Char.ofNat 0x7D) =
      some ⟨outer, group.add (exactly least p), .between .nothing⟩ := by
  change inLeast _ _ _ = _
  rw [inLeast, if_neg (by decide), Text.isNumeral_toString, Text.decimal_toString]
  rfl

theorem run_most (least most : Nat) :
    Reading.run ⟨outer, group, .most least []⟩ (toString most).toList =
      some ⟨outer, group, .most least (toString most).toList⟩ :=
  run_digits (.most least) (fun _ _ hc => if_pos hc) (fun _ => Text.isDigit_of_mem_toString) []

theorem step_most_close {least most : Nat} (hle : least ≤ most) :
    step ⟨outer, group.add p, .most least (toString most).toList⟩ (Char.ofNat 0x7D) =
      some ⟨outer, group.add (.times p least (some most)), .between .nothing⟩ := by
  have hne : (toString most).toList.isEmpty = false := by simp
  change inMost _ _ _ _ = _
  rw [inMost, if_neg (by decide), if_neg (by decide), hne, Text.decimal_toString,
    if_neg (by decide), if_pos hle]
  rfl

theorem run_braced_exactly (n : Nat) :
    Reading.run ⟨outer, group.add p, .between .piece⟩ (braced (toString n)) =
      some ⟨outer, group.add (exactly n p), .between .nothing⟩ := by
  rw [braced, run_append_of_run (run_least n), run_singleton, step_least_close]

theorem run_braced_atLeast (least : Nat) :
    Reading.run ⟨outer, group.add p, .between .piece⟩ (braced (toString least ++ ",")) =
      some ⟨outer, group.add (.times p least none), .between .nothing⟩ := by
  have hsource : braced (toString least ++ ",") =
      (Char.ofNat 0x7B :: (toString least).toList) ++ [',', Char.ofNat 0x7D] := by simp [braced]
  rw [hsource, run_append_of_run (run_least least), run_cons_of_step (step_least_comma least)]
  rfl

theorem run_braced_range {least most : Nat} (hle : least ≤ most) :
    Reading.run ⟨outer, group.add p, .between .piece⟩
        (braced (toString least ++ "," ++ toString most)) =
      some ⟨outer, group.add (.times p least (some most)), .between .nothing⟩ := by
  have hsource : braced (toString least ++ "," ++ toString most) =
      (Char.ofNat 0x7B :: (toString least).toList) ++
        ',' :: ((toString most).toList ++ [Char.ofNat 0x7D]) := by simp [braced]
  rw [hsource, run_append_of_run (run_least least), run_cons_of_step (step_least_comma least),
    run_append_of_run (run_most least most), run_singleton, step_most_close hle]

theorem run_countSource {least : Nat} {most : Option Nat} (hmost : most.all (least ≤ ·) = true) :
    Reading.run ⟨outer, group.add p, .between .piece⟩ (countSource least most) =
      some ⟨outer, group.add (.times p least most), .between .nothing⟩ := by
  cases most with
  | none =>
      simp only [countSource]
      split
      · rename_i hleast
        rw [hleast]
        rfl
      · split
        · rename_i hleast
          rw [hleast]
          rfl
        · exact run_braced_atLeast least
  | some most =>
      simp only [countSource]
      split
      · rename_i hleast
        rw [← hleast.2]
        exact run_braced_exactly least
      · exact run_braced_range (by simpa using hmost)

theorem foldl_add (pieces : List Pattern) (group : Group) :
    pieces.foldl Group.add group = { group with pieces := pieces.reverse ++ group.pieces } := by
  induction pieces generalizing group with
  | nil => rfl
  | cons p pieces ih => simp [ih, Group.add]

theorem pattern_foldl_add (p : Pattern) (picked : Bool) :
    (p.pieces.foldl Group.add { picked }).pattern =
      if picked then .part p.regrouped else p.regrouped := by
  rw [foldl_add]
  simp [Group.pattern, regrouped]

theorem pattern_foldl_add_nextBranch (p q : Pattern) :
    (q.pieces.foldl Group.add (p.pieces.foldl Group.add { picked := false }).nextBranch).pattern =
      .either p.regrouped q.regrouped := by
  rw [foldl_add, foldl_add]
  simp [Group.pattern, Group.nextBranch, regrouped]

/-- Wherever a piece may begin, to read the pattern is to add its pieces to the group that is open.
Where it has to be one piece, that piece can be counted. -/
def Reads (p : Pattern) : Prop :=
  ∀ outer group before, ∃ before', Reading.run ⟨outer, group, .between before⟩ p.sourceChars =
    some ⟨outer, p.pieces.foldl Group.add group, .between before'⟩ ∧
      (p.isTight = true → before' = .piece)

theorem run_group (hp : Reads p) (picked : Bool) (before : Before) :
    Reading.run ⟨group :: outer, { picked }, .between before⟩ (p.sourceChars ++ [')']) =
      some ⟨outer, group.add (if picked then .part p.regrouped else p.regrouped),
        .between .piece⟩ := by
  obtain ⟨before', hrun, -⟩ := hp (group :: outer) { picked } before
  rw [run_append_of_run hrun, run_singleton, ← pattern_foldl_add]
  rfl

theorem run_bracket (hp : Reads p) (before : Before) :
    Reading.run ⟨outer, group, .between before⟩ (bracket (!p.isTight) p.sourceChars) =
      some ⟨outer, group.add p.regrouped, .between .piece⟩ := by
  cases htight : p.isTight with
  | true =>
      obtain ⟨before', hrun, hcounted⟩ := hp outer group before
      rw [hcounted htight, pieces_of_isTight htight] at hrun
      exact hrun
  | false => exact run_group hp false .nothing

theorem reads_part (hp : Reads p) : Reads (.part p) := by
  intro outer group before
  exact ⟨.piece, run_group hp true .opening, fun _ => rfl⟩

theorem reads_seq (hp : Reads p) (hq : Reads q) : Reads (.seq p q) := by
  intro outer group before
  obtain ⟨before₁, hrun₁, -⟩ := hp outer group before
  obtain ⟨before₂, hrun₂, -⟩ := hq outer (p.pieces.foldl Group.add group) before₁
  refine ⟨before₂, ?_, fun htight => absurd htight Bool.false_ne_true⟩
  rw [sourceChars, run_append_of_run hrun₁, hrun₂, pieces, List.foldl_append]

theorem reads_times (hp : Reads p) {least : Nat} {most : Option Nat}
    (hmost : most.all (least ≤ ·) = true) : Reads (.times p least most) := by
  intro outer group before
  refine ⟨.nothing, ?_, fun htight => absurd htight Bool.false_ne_true⟩
  rw [sourceChars, run_append_of_run (run_bracket hp before), run_countSource hmost]
  rfl

theorem reads_either (hp : Reads p) (hq : Reads q) : Reads (.either p q) := by
  intro outer group before
  rcases eq_or_ne q .empty with rfl | hempty
  · refine ⟨.nothing, ?_, fun htight => absurd htight Bool.false_ne_true⟩
    rw [sourceChars, run_append_of_run (run_bracket hp before)]
    rfl
  · refine ⟨.piece, ?_, fun _ => rfl⟩
    have hsource : (Pattern.either p q).sourceChars =
        bracket true (p.sourceChars ++ '|' :: q.sourceChars) := by
      cases q with
      | empty => exact absurd rfl hempty
      | _ => rfl
    obtain ⟨before₁, hrun₁, -⟩ := hp (group :: outer) { picked := false } .nothing
    obtain ⟨before₂, hrun₂, -⟩ :=
      hq (group :: outer) (p.pieces.foldl Group.add { picked := false }).nextBranch .nothing
    have hbranches : Reading.run ⟨group :: outer, { picked := false }, .between .nothing⟩
        (p.sourceChars ++ '|' :: (q.sourceChars ++ [')'])) =
          some ⟨outer, group.add (.either p.regrouped q.regrouped), .between .piece⟩ := by
      rw [run_append_of_run hrun₁, run_cons_of_step rfl, run_append_of_run hrun₂, run_singleton,
        ← pattern_foldl_add_nextBranch]
      rfl
    rw [hsource, bracket, if_pos rfl, List.append_assoc, List.append_assoc]
    exact hbranches

theorem reads {p : Pattern} (hp : p.readable = true) : Reads p := by
  -- the place before the pattern and the open groups are arbitrary, as those of a part are not the
  -- ones of the whole
  induction p with
  | empty =>
      intro outer group before
      exact ⟨before, rfl, fun htight => absurd htight Bool.false_ne_true⟩
  | one set =>
      intro outer group before
      exact ⟨.piece, run_set hp before, fun _ => rfl⟩
  | seq p q ihp ihq =>
      rw [readable, Bool.and_eq_true] at hp
      exact reads_seq (ihp hp.1) (ihq hp.2)
  | either p q ihp ihq =>
      rw [readable, Bool.and_eq_true] at hp
      exact reads_either (ihp hp.1) (ihq hp.2)
  | times p least most ih =>
      rw [readable, Bool.and_eq_true] at hp
      exact reads_times (ih hp.1) hp.2
  | part p ih => exact reads_part (ih hp)

end Reading

/-- An engine that is given a written pattern reads the same pieces, in one row, and hence a pattern
that accepts the same texts. -/
theorem ofSource?_source (hp : p.readable = true) : ofSource? p.source = some p.regrouped := by
  obtain ⟨before, hrun, -⟩ := Reading.reads hp [] { picked := false } .nothing
  have hopened : Reading.start.step '^' = some ⟨[], { picked := false }, .between .nothing⟩ := rfl
  have hwhole : Reading.start.run p.source.toList =
      some ⟨[], p.pieces.foldl Group.add { picked := false }, .done⟩ := by
    rw [source, String.toList_ofList, List.cons_append, Reading.run_cons_of_step hopened,
      Reading.run_append_of_run hrun, Reading.run_singleton, Reading.foldl_add]
    rfl
  rw [ofSource?, hwhole, Option.bind_some, Reading.result?, Reading.pattern_foldl_add]
  rfl

example : ofSource? "^-?[0-9]+$" = some Name.integer.pattern := by decide

end FormCheck.Pattern
