import FormCheck.IdentityNumber
import FormCheck.Json.Basic
import FormCheck.Kind
import FormCheck.Locale

namespace FormCheck

/-- The numbers that a sentence is told: none, one limit, or the two ends of a range. A limit may be
missing. -/
inductive Detail where
  | none
  | bound (limit : Option Nat)
  | range (min max : Option Nat)
deriving DecidableEq, Repr

namespace Detail

/-- A number as sentences show it. One that was never given is shown as a word. -/
def numberText : Option Nat → String
  | .none => "undefined"
  | .some n => toString n

/-- The limit in a sentence with one. A detail of another shape has none to show. -/
def limitText : Detail → String
  | .bound limit => numberText limit
  | _ => numberText .none

/-- The range in a sentence with two numbers. A detail of another shape has neither of its ends. -/
def rangeText : Detail → String
  | .range min max => numberText min ++ "-" ++ numberText max
  | _ => numberText .none ++ "-" ++ numberText .none

end Detail

namespace Locale

/-- The sentence in which a locale says what a kind asks of a value. -/
def sentence : Locale → Kind → Detail → String
  | .zhCN, .required, _ => "不允许为空"
  | .zhCN, .email, _ => "必须是邮箱地址"
  | .zhCN, .float, _ => "必须是数字(float)"
  | .zhCN, .url, _ => "必须是URL"
  | .zhCN, .integer, _ => "必须是整数(int)"
  | .zhCN, .maxLength, detail => "字符串长度(<=" ++ detail.limitText ++ ")"
  | .zhCN, .minLength, detail => "字符串长度(>=" ++ detail.limitText ++ ")"
  | .zhCN, .rangeLength, detail => "字符串长度(" ++ detail.rangeText ++ ")"
  | .zhCN, .rangeChar, detail => "字符长度(" ++ detail.rangeText ++ ")"
  | .zhCN, .date, _ => "必须是日期类型(yyyy-MM-dd|MM/dd/yyyy)"
  | .zhCN, .english, _ => "必须输入英文"
  | .zhCN, .englishAndNumber, _ => "必须输入英文+数字"
  | .zhCN, .chinese, _ => "必须输入中文"
  | .zhCN, .idCards, _ => "身份证验证15~18位"
  | .enUS, .required, _ => "must not be empty"
  | .enUS, .email, _ => "must be an email address"
  | .enUS, .float, _ => "must be a number (float)"
  | .enUS, .url, _ => "must be a URL"
  | .enUS, .integer, _ => "must be an integer (int)"
  | .enUS, .maxLength, detail => "string length (<=" ++ detail.limitText ++ ")"
  | .enUS, .minLength, detail => "string length (>=" ++ detail.limitText ++ ")"
  | .enUS, .rangeLength, detail => "string length (" ++ detail.rangeText ++ ")"
  | .enUS, .rangeChar, detail => "character width (" ++ detail.rangeText ++ ")"
  | .enUS, .date, _ => "must be a date (yyyy-MM-dd|MM/dd/yyyy)"
  | .enUS, .english, _ => "must contain English letters only"
  | .enUS, .englishAndNumber, _ => "must contain English letters and digits"
  | .enUS, .chinese, _ => "must contain Chinese characters only"
  | .enUS, .idCards, _ => "identity number (15~18 characters)"

/-- The words that come before the sentence where the field is required. -/
def requiredPhrase : Locale → String
  | .zhCN => "不能为空 "
  | .enUS => "cannot be empty "

/-- The message of a rule: its sentence, introduced by the phrase where the field is required. -/
def compose (locale : Locale) (kind : Kind) (required : Bool) (detail : Detail) : String :=
  (if required then locale.requiredPhrase else "") ++ locale.sentence kind detail

/-- What a locale says about a rejected identity number. A wrong check character is not told from
a wrong shape. -/
def identityFailure : Locale → IdentityNumber.Failure → String
  | .zhCN, .notAString => "身份证号码必须是字符串"
  | .zhCN, .format | .zhCN, .checksum => "身份证号码格式错误"
  | .enUS, .notAString => "identity number must be a string"
  | .enUS, .format | .enUS, .checksum => "identity number format is invalid"

/-- The verdict on an identity number in the words of a locale. -/
def identityVerdict (locale : Locale) : Option IdentityNumber.Failure → IdentityNumber.Verdict
  | .none => { code := .valid, message := "", failure := .none }
  | .some failure =>
    { code := .invalid, message := locale.identityFailure failure, failure := .some failure }

/-- That verdict as the object that other programs are given. -/
def identityJson (locale : Locale) (failure : Option IdentityNumber.Failure) : Json :=
  (locale.identityVerdict failure).toJson

end Locale

namespace IdentityNumber

/-- Judges a text as an identity number. -/
def verify (locale : Locale) (s : String) : Verdict :=
  locale.identityVerdict (failure? s.toList)

/-- Judges a JSON value as an identity number. -/
def verifyJson (locale : Locale) (v : Json) : Verdict :=
  locale.identityVerdict (failureOfJson? v)

/-- Whether a text is an identity number, which no locale has a say in. -/
def isValid (s : String) : Bool :=
  (verify default s).isValid

end IdentityNumber

/-- The message of a rule: a text that is ready, or a sentence that is put in words when it is
shown. -/
inductive Message where
  | text (s : String)
  /-- The sentence of a kind, without any number. -/
  | template (kind : Kind) (locale : Locale)
deriving DecidableEq, Repr

def Message.render : Message → String
  | .text s => s
  | .template kind locale => locale.sentence kind .none

end FormCheck
