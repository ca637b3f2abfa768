import FormCheck.Json.Decode
import FormCheck.Text.Blank
import FormCheck.Text.Lowercase

namespace FormCheck

/-- The locales in which messages are written. -/
inductive Locale where
  | zhCN
  | enUS
deriving DecidableEq, Repr

namespace Locale

instance : Inhabited Locale := ⟨.zhCN⟩

/-- The tag of a locale in its usual spelling. -/
def tag : Locale → String
  | .zhCN => "zh-CN"
  | .enUS => "en-US"

/-- A tag without blanks at its ends, with hyphens for low lines and in small letters. -/
def normalTag (s : String) : String :=
  Text.lowercase ((Text.trim s).map fun c => if c = '_' then '-' else c)

/-- The locale that a tag stands for, in any of its spellings. A language alone stands for the one
locale in that language. -/
def ofTag? (s : String) : Option Locale :=
  let tag := normalTag s
  if tag ∈ ["zh", "zh-cn", "zh-hans", "zh-hans-cn"] then some .zhCN
  else if tag ∈ ["en", "en-us"] then some .enUS
  else none

/-- A tag of a locale in which no messages are written. -/
structure Unsupported where
  tag : String
deriving DecidableEq, Repr

def Unsupported.message (e : Unsupported) : String :=
  "unsupported locale `" ++ e.tag ++ "`"

def tagged (s : String) : Except Unsupported Locale :=
  match ofTag? s with
  | some locale => .ok locale
  | none => .error ⟨s⟩

/-- Takes a locale from a JSON value, which has to spell its tag exactly. -/
def decode : Json → Except Json.DecodeError Locale :=
  Json.decodeChoice tag [.zhCN, .enUS]

def toJson (locale : Locale) : Json :=
  .str locale.tag

end Locale

end FormCheck
