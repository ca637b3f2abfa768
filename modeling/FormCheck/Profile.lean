import FormCheck.Arguments
import FormCheck.CharacterClass
import FormCheck.Date.Parts
import FormCheck.DisplayWidth
import FormCheck.Rule
import FormCheck.Settings.Basic

namespace FormCheck

open Log (Logged)

/-- Everything that decides how rules are made, apart from the kind of the rule and its options. -/
structure Profile where
  locale : Locale
  malformedRules : MalformedRules
  dateCheck : DateCheck
deriving DecidableEq, Repr

/-- The options of one rule: whether the field is required, and the text with the numbers. -/
structure RuleOptions where
  required : Bool := false
  /-- The numbers of the rule, such as `rangeLength:3,10`. -/
  rules : String := ""
deriving DecidableEq, Repr

/-- Takes options from an object, or from an array of the two in order. What is missing keeps its
default. -/
def RuleOptions.decode : Json → Except Json.DecodeError RuleOptions
  | .obj fields => do
    let required ← Json.decodeOr false Json.decodeBool (Json.Fields.get? fields "required")
    let rules ← Json.decodeOr "" Json.decodeString (Json.Fields.get? fields "rules")
    pure { required, rules }
  | .arr items => do
    let required ← Json.decodeOr false Json.decodeBool items[0]?
    let rules ← Json.decodeOr "" Json.decodeString items[1]?
    if 2 < items.length then .error (.tooLong items.length) else pure { required, rules }
  | v => .error (.invalidType v "struct RuleConfig")

namespace Profile

def standard : Profile :=
  { locale := .zhCN, malformedRules := .lenient, dateCheck := .range }

instance : Inhabited Profile := ⟨standard⟩

/-- The profile that settings ask for, if messages are written in their locale. -/
def ofSettings (s : Settings) : Except Locale.Unsupported Profile := do
  let locale ← Locale.tagged s.locale
  pure { locale, malformedRules := s.malformedRules, dateCheck := s.dateCheck }

def logTarget : String := "formrule::factory"

/-- The warning about a number that was clipped. -/
def clippedMessage (e : ArgumentsError) : String :=
  e.message ++ "; saturating to " ++ toString Arguments.largest

/-- The warning about a rules text that sets no limit. -/
def unboundedMessage (kind : Kind) (e : ArgumentsError) : String :=
  e.message ++ "; `" ++ kind.name ++ "` will carry no bound"

/-- The numbers of a rule under a profile. A strict profile refuses what it cannot read. A lenient
one clips numbers that are too large and does without numbers that it cannot read at all, and logs
a warning in either case. -/
def arguments (profile : Profile) (kind : Kind) (rules : String) :
    Except ArgumentsError (Logged (Option Arguments)) :=
  match Arguments.read .refuse kind rules with
  | .ok args => .ok (pure (some args))
  | .error e =>
    match profile.malformedRules with
    | .strict => .error e
    | .lenient =>
      match Arguments.read .clip kind rules with
      | .ok args => .ok do
        Logged.log .warn logTarget (clippedMessage e)
        pure (some args)
      | .error _ => .ok do
        Logged.log .warn logTarget (unboundedMessage kind e)
        pure none

/-- The interval that the numbers of a rule make. Without numbers it has no ends. -/
def intervalOf (args : Option Arguments) : Bounds :=
  (args.map Arguments.bounds).getD .unbounded

/-- A message that is the sentence of the kind, never introduced by the phrase for required
fields. -/
def template (profile : Profile) (kind : Kind) : Message :=
  .template kind profile.locale

/-- A rule that asks for a match of a named pattern. -/
def patternRule (profile : Profile) (kind : Kind) (name : Pattern.Name) (required : Bool) : Rule :=
  .fixed kind .string required (.pattern name.pattern)
    (.text (profile.locale.compose kind required .none))

/-- A rule that asks for a length within bounds. -/
def lengthRule (profile : Profile) (kind : Kind) (required : Bool) (bounds : Bounds)
    (detail : Detail) : Rule :=
  .fixed kind .string required (.bounds bounds)
    (.text (profile.locale.compose kind required detail))

/-- A rule whose procedure tests the value, also when that is empty. -/
def testRule (profile : Profile) (kind : Kind) (required : Bool) (detail : Detail)
    (test : String → Logged Bool) : Rule :=
  .dynamic kind required (.ofTest test (profile.locale.compose kind required detail))

def widthTarget : String := "formrule_validation::predicates"

/-- The test of the display width. It logs the width and the interval. -/
def widthTest (bounds : Bounds) (value : String) : Logged Bool := do
  Logged.log .trace widthTarget
    ("display width " ++ toString (displayWidth value) ++ " against " ++ bounds.logText)
  pure (bounds.contains (displayWidth value))

/-- Whether a value is a date by the check that the profile asks for. -/
def isDate (profile : Profile) (value : String) : Bool :=
  (Date.Parts.ofText? value).any fun parts =>
    parts.inRange && (profile.dateCheck == .range || parts.inCalendar)

/-- The messages about an identity number. An empty value is judged by presence alone, and then
by the sentence of the kind. -/
def identityMessages (profile : Profile) (required : Bool) (value : String) : List String :=
  if value = "" then (if required then [profile.locale.sentence .idCards .none] else [])
  else
    let verdict := IdentityNumber.verify profile.locale value
    if verdict.isValid then [] else [verdict.message]

/-- The rule for identity numbers, whose procedure words its messages itself. -/
def identityRule (profile : Profile) (required : Bool) : Rule :=
  .dynamic .idCards required ⟨fun call => pure [profile.identityMessages required call.value]⟩

/-- The rules of a kind. A kind without numbers makes nothing of a rules text. -/
def rulesOf (profile : Profile) (kind : Kind) (options : RuleOptions) :
    Except ArgumentsError (Logged (List Rule)) :=
  let required := options.required
  match kind with
  | .required => .ok (pure [.fixed .required .string true .none (profile.template .required)])
  | .email => .ok (pure [.fixed .email .email required .none (profile.template .email)])
  | .float => .ok (pure [profile.patternRule .float .float required])
  | .url => .ok (pure [profile.patternRule .url .url required])
  | .integer => .ok (pure [profile.patternRule .integer .integer required])
  | .rangeLength => do
    let args ← profile.arguments .rangeLength options.rules
    .ok do
      let bounds := intervalOf (← args)
      pure [profile.lengthRule .rangeLength required bounds (.range bounds.min bounds.max)]
  | .maxLength => do
    let args ← profile.arguments .maxLength options.rules
    .ok do
      let max := (← args).map Arguments.first
      pure [profile.lengthRule .maxLength required (.between none max) (.bound max)]
  | .minLength => do
    let args ← profile.arguments .minLength options.rules
    .ok do
      let min := (← args).map Arguments.first
      pure [profile.lengthRule .minLength required (.between min none) (.bound min)]
  | .rangeChar => do
    let args ← profile.arguments .rangeChar options.rules
    .ok do
      let bounds := intervalOf (← args)
      pure [profile.testRule .rangeChar required (.range bounds.min bounds.max) (widthTest bounds)]
  | .date => .ok (pure [profile.testRule .date required .none fun v => pure (profile.isDate v)])
  | .english => .ok (pure [profile.testRule .english required .none fun v => pure (isEnglish v)])
  | .englishAndNumber =>
    .ok (pure [profile.testRule .englishAndNumber required .none fun v =>
      pure (isEnglishAndNumber v)])
  | .chinese => .ok (pure [profile.testRule .chinese required .none fun v => pure (isChinese v)])
  | .idCards => .ok (pure [profile.identityRule required])

/-- The line that is logged for rules that were made. -/
def builtMessage (kind : Kind) (required : Bool) (count : Nat) : String :=
  "built " ++ toString count ++ " descriptor(s) for `" ++ kind.name ++ "` (required: " ++
    toString required ++ ")"

/-- Makes the rules of a kind, and logs how many they are. -/
def build (profile : Profile) (kind : Kind) (options : RuleOptions) :
    Except ArgumentsError (Logged (List Rule)) := do
  let made ← profile.rulesOf kind options
  .ok do
    let rules ← made
    Logged.log .debug logTarget (builtMessage kind options.required rules.length)
    pure rules

/-- Why no rules were made: there is no such kind, or its numbers were refused. -/
inductive BuildError where
  | kind (e : Kind.Unknown)
  | arguments (e : ArgumentsError)
deriving DecidableEq, Repr

def BuildError.message : BuildError → String
  | .kind e => e.message
  | .arguments e => e.message

def buildNamed (profile : Profile) (name : String) (options : RuleOptions) :
    Except BuildError (Logged (List Rule)) := do
  let kind ← (Kind.named name).mapError .kind
  (profile.build kind options).mapError .arguments

end Profile

end FormCheck
