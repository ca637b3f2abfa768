import FormCheck.Text.Blank

namespace FormCheck.Pattern

/-- What can be listed between the brackets of a set. -/
inductive SetItem where
  | char (c : Char)
  | span (first last : Char)
  | blank
deriving DecidableEq

namespace SetItem

def contains : SetItem → Char → Bool
  | .char d, c => c == d
  | .span first last, c => first ≤ c && c ≤ last
  | .blank, c => Text.isBlank c

def source : SetItem → List Char
  | .char c => [c]
  | .span first last => [first, '-', last]
  | .blank => ['\\', 's']

end SetItem

/-- The characters that a pattern can ask for at one place of a text: a single one, any of a line,
or those that are listed or not listed in brackets. -/
inductive CharSet where
  | just (c : Char)
  | inLine
  | among (items : List SetItem)
  | outside (items : List SetItem)
deriving DecidableEq

namespace CharSet

def contains : CharSet → Char → Bool
  | .just d, c => c == d
  | .inLine, c => c != '\n'
  | .among items, c => items.any (·.contains c)
  | .outside items, c => !items.any (·.contains c)

/-- The characters that have a meaning of their own in a pattern and are written after a
backslash when they stand for themselves. -/
def isSpecial (c : Char) : Bool :=
  ".?*+^$|()[]\\".toList.contains c

def source : CharSet → List Char
  | .just c => if isSpecial c then ['\\', c] else [c]
  | .inLine => ['.']
  | .among items => '[' :: items.flatMap (·.source) ++ [']']
  | .outside items => '[' :: '^' :: items.flatMap (·.source) ++ [']']

end CharSet

end FormCheck.Pattern
