import FormCheck.Text.CodeRanges

namespace FormCheck

/-- The characters that take two columns: one block that holds the ideographs, kana, hangul and
fullwidth forms and everything between them. All other characters, those beyond the first plane
included, take one. -/
def wideRanges : Text.CodeRanges :=
  [(0x391, 0xFFE5)]

/-- The columns that a character takes on a page of fixed-width characters. -/
def charWidth (c : Char) : Nat :=
  if wideRanges.contains c then 2 else 1

/-- The columns that the characters of a text take together. -/
def displayWidth (s : String) : Nat :=
  s.toList.foldr (fun c width => charWidth c + width) 0

end FormCheck
