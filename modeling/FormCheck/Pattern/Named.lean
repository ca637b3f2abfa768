import FormCheck.Pattern.Basic

namespace FormCheck.Pattern

open SetItem (char span)

/-- The ten ASCII digits. Digits of other scripts are never meant. -/
def digit : Pattern := .one (.among [span '0' '9'])

def digits : Pattern := plus digit

def optionalMinus : Pattern := optional (just '-')

def letterOrDigit : Pattern := .one (.among [span 'a' 'z', span 'A' 'Z', span '0' '9'])

/-- A part of a host name: up to 63 letters, digits and hyphens, no hyphen at either end. -/
def hostLabel : Pattern :=
  .seq letterOrDigit
    (optional
      (.seq
        (atMost 61 (.one (.among [span 'a' 'z', span 'A' 'Z', span '0' '9', char '-'])))
        letterOrDigit))

/-- The characters that may stand before the at sign of an address. -/
def mailboxChar : Pattern :=
  .one (.among
    ([span 'a' 'z', span 'A' 'Z', span '0' '9'] ++
      (".!#$%&'*+/=?^_`\x7b|\x7d~-".toList.map char)))

/-- Any character but blank space of whatever script, line ends included. -/
def notBlank : Pattern := .one (.outside [.blank])

/-- The patterns that have a name. -/
inductive Name where
  | positiveInteger
  | negativeInteger
  | integer
  | positiveFloat
  | minusFloat
  | float
  | realNumber
  | yearFirstDate
  | monthFirstDate
  | email
  | url
deriving DecidableEq, Repr

namespace Name

def all : List Name :=
  [.positiveInteger, .negativeInteger, .integer, .positiveFloat, .minusFloat, .float, .realNumber,
    .yearFirstDate, .monthFirstDate, .email, .url]

def text : Name → String
  | .positiveInteger => "positiveInteger"
  | .negativeInteger => "negativeInteger"
  | .integer => "integer"
  | .positiveFloat => "positiveFloat"
  | .minusFloat => "minusFloat"
  | .float => "float"
  | .realNumber => "realNumber"
  | .yearFirstDate => "date_1"
  | .monthFirstDate => "date_2"
  | .email => "email"
  | .url => "url"

def ofText? (s : String) : Option Name :=
  all.find? (·.text == s)

/-- What the names stand for. The patterns for dates pick out the three parts. -/
def pattern : Name → Pattern
  | .positiveInteger => digits
  | .negativeInteger => inTurn [just '-', digits]
  | .integer => inTurn [optionalMinus, digits]
  | .positiveFloat => inTurn [digits, just '.', digits]
  | .minusFloat => inTurn [just '-', digits, just '.', digits]
  | .float => inTurn [optionalMinus, digits, just '.', digits]
  | .realNumber => inTurn [optionalMinus, digits, optional (just '.'), star digit]
  | .yearFirstDate =>
    inTurn [.part (exactly 4 digit), just '-', .part (exactly 2 digit), just '-',
      .part (exactly 2 digit)]
  | .monthFirstDate =>
    inTurn [.part (exactly 2 digit), just '/', .part (exactly 2 digit), just '/',
      .part (exactly 4 digit)]
  | .email =>
    inTurn [plus mailboxChar, just '@', hostLabel, star (.seq (just '.') hostLabel)]
  | .url =>
    inTurn [word "http", optional (just 's'), word "://",
      .one (.outside [.blank, char '/', char '$', char '.', char '?', char '#']), .one .inLine,
      star notBlank]

theorem ofText?_text (name : Name) : ofText? name.text = some name := by
  cases name <;> decide

end Name

/-- Why there is no pattern: its name is unknown, or its limit on places too large. -/
inductive Missing where
  | unknown (name : String)
  | tooManyPlaces (places : Nat)
deriving DecidableEq, Repr

def Missing.message : Missing → String
  | .unknown name => "unknown pattern `" ++ name ++ "`"
  | .tooManyPlaces _ => "invalid pattern"

def named (s : String) : Except Missing Name :=
  match Name.ofText? s with
  | some name => .ok name
  | none => .error (.unknown s)

/-- The most places for which the matching engine makes a pattern. The engine refuses a pattern
whose compiled form is larger than ten mebibytes, and it compiles a counted repetition to as many
copies of the digit. How many places that allows is not documented but measured: a pattern is made
for 93617 places, and refused for 93618. -/
def maxPlaces : Nat := 93617

/-- The pattern of the real numbers with at most `places` digits behind the point, or the error of
the engine that makes none so large. -/
def retain (places : Nat) : Except Missing Pattern :=
  if places ≤ maxPlaces then
    .ok (inTurn [optionalMinus, digits, optional (just '.'), atMost places digit])
  else .error (.tooManyPlaces places)

end FormCheck.Pattern
