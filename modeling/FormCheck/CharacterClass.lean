import FormCheck.Text.Blank
import FormCheck.Text.Digits

namespace FormCheck

open Text (isBlank isDigit)

/-- The 52 letters of ASCII. -/
def isLetter (c : Char) : Bool :=
  ('a' ≤ c && c ≤ 'z') || ('A' ≤ c && c ≤ 'Z')

/-- Whether a character is one of the ideographs of the first block. -/
def isIdeograph (c : Char) : Bool :=
  0x4E00 ≤ c.toNat && c.toNat ≤ 0x9FA5

/-- Whether a value holds nothing but letters and blanks. The empty value passes. -/
def isEnglish (s : String) : Bool :=
  s.toList.all fun c => isLetter c || isBlank c

/-- Whether a value holds a letter and a digit, and nothing but letters, digits and blanks. -/
def isEnglishAndNumber (s : String) : Bool :=
  s.toList.any isLetter && s.toList.any isDigit &&
    s.toList.all fun c => isLetter c || isDigit c || isBlank c

/-- Whether a value holds nothing but ideographs. The empty value passes. -/
def isChinese (s : String) : Bool :=
  s.toList.all isIdeograph

end FormCheck
