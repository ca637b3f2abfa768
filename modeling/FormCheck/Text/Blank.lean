import FormCheck.Text.CodeRanges

namespace FormCheck.Text

/-- The characters with the property White_Space. -/
def blankRanges : CodeRanges :=
  [(0x9, 0xD), (0x20, 0x20), (0x85, 0x85), (0xA0, 0xA0), (0x1680, 0x1680), (0x2000, 0x200A),
   (0x2028, 0x2029), (0x202F, 0x202F), (0x205F, 0x205F), (0x3000, 0x3000)]

/-- Blank space of every script, line ends included. -/
def isBlank (c : Char) : Bool :=
  blankRanges.contains c

theorem isBlank_eq_false {c : Char}
    (hc : (0x20 < c.toNat ∧ c.toNat < 0x85) ∨ 0x3000 < c.toNat) : isBlank c = false := by
  rw [← Bool.not_eq_true, isBlank, CodeRanges.contains_iff]
  rintro ⟨range, hrange, hleast, hmost⟩
  simp only [blankRanges, List.mem_cons, List.not_mem_nil, or_false] at hrange
  rcases hrange with rfl | rfl | rfl | rfl | rfl | rfl | rfl | rfl | rfl | rfl <;> omega

def trimStart (s : List Char) : List Char :=
  s.dropWhile isBlank

def trimEnd (s : List Char) : List Char :=
  (s.reverse.dropWhile isBlank).reverse

/-- A text without the blank space at its two ends. -/
def trim (s : String) : String :=
  String.ofList (trimEnd (trimStart s.toList))

end FormCheck.Text
