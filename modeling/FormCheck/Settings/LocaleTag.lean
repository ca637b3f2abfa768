import FormCheck.CharacterClass
import FormCheck.Settings.Policy
import FormCheck.Text.Bytes
import FormCheck.Text.Split

namespace FormCheck.Settings

/-- The two marks that may stand between the parts of a tag. -/
def isTagSeparator (c : Char) : Bool :=
  c == '-' || c == '_'

/-- Whether a part of a tag is of an allowed length, told in bytes, and of allowed characters. -/
def isTagPart (least most : Nat) (p : Char → Bool) (s : List Char) : Bool :=
  least ≤ Text.byteLength s && Text.byteLength s ≤ most && s.all p

/-- Whether a text is a locale tag: a language of two or three letters, and any number of subtags of
two to eight letters or digits, with a hyphen or a low line before each. -/
def isLocaleTag (s : String) : Bool :=
  match Text.splitOn isTagSeparator s.toList with
  | [] => false
  | language :: subtags =>
    isTagPart 2 3 isLetter language &&
      subtags.all (isTagPart 2 8 fun c => isLetter c || Text.isDigit c)

/-- Refuses the text of a setting if there is nothing but blank space in it. -/
def checkNotEmpty (key value : String) : Except Invalid Unit :=
  if Text.trim value = "" then .error ⟨key, .empty⟩ else .ok ()

/-- Refuses the text of a setting if it is no locale tag. -/
def checkLocaleTag (key value : String) : Except Invalid Unit :=
  if isLocaleTag value then .ok () else .error ⟨key, .notALocaleTag value⟩

end FormCheck.Settings
