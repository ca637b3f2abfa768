import FormCheck.CharacterClass
import FormCheck.Toml.Scalar
import FormCheck.Toml.Table

namespace FormCheck.Toml

open Text (Reader isDigit)
open Text.Reader

def isGap (c : Char) : Bool :=
  c == ' ' || c == '\t'

def gap : Reader Unit := do
  let _ ← takeWhile isGap

/-- Reads a line end as it is written. A carriage return counts only together with a line feed. -/
def lineEnd : Reader (List Char) := do
  let returned ← taken? '\r'
  char '\n'
  pure (if returned then ['\r', '\n'] else ['\n'])

def newline : Reader Unit := do
  let _ ← lineEnd

/-- The characters that may stand in comments and strings. Of the ASCII controls only the tab may.
-/
def isPrintable (c : Char) : Bool :=
  c == '\t' || (0x20 ≤ c.toNat && c.toNat != 0x7F)

/-- Reads a comment up to the end of its line. -/
def comment : Reader Unit := do
  char '#'
  let _ ← takeWhile isPrintable

/-- Passes over blanks, comments and line ends, as they may stand between brackets. -/
def wideGap (limit : Nat) : Reader Unit := do
  let _ ← many limit ((do let _ ← takeWhile1 isGap) <|> comment <|> newline)

/-- Reads the code of an escaped character, which has a given number of hexadecimal digits and is no
half of a surrogate pair. -/
def codeEscape (digits : Nat) : Reader Char := do
  let code ← take (fun c => (Json.hexValue? c).isSome) digits
  let n := Json.hexadecimal code
  if n < 0xD800 ∨ (0xE000 ≤ n ∧ n < 0x110000) then pure (Char.ofNat n) else failure

def escape : Reader Char := do
  char '\\'
  let c ← one fun _ => true
  match c with
  | 'b' => pure (Char.ofNat 8)
  | 't' => pure '\t'
  | 'n' => pure '\n'
  | 'f' => pure (Char.ofNat 12)
  | 'r' => pure '\r'
  | 'e' => pure (Char.ofNat 27)
  | '"' => pure '"'
  | '\\' => pure '\\'
  | 'x' => codeEscape 2
  | 'u' => codeEscape 4
  | 'U' => codeEscape 8
  | _ => failure

/-- The characters that stand for themselves between double quotes. -/
def isPlain (c : Char) : Bool :=
  isPrintable c && c != '"' && c != '\\'

/-- The characters that may stand between single quotes, where all of them stand for themselves. -/
def isLiteral (c : Char) : Bool :=
  isPrintable c && c != '\''

def basicString (limit : Nat) : Reader (List Char) := do
  char '"'
  let parts ← many limit (takeWhile1 isPlain <|> (do pure [← escape]))
  char '"'
  pure parts.flatten

def literalString : Reader (List Char) := do
  char '\''
  let s ← takeWhile isLiteral
  char '\''
  pure s

/-- Reads quotes that belong to a string over several lines, too few of them to end it. -/
def innerQuotes (quote : Char) : Reader (List Char) := do
  let quotes ← takeWhile1 (· == quote)
  if quotes.length < 3 then pure quotes else failure

/-- Passes over a backslash at the end of a line, with the blanks and line ends after it. -/
def continuation (limit : Nat) : Reader (List Char) := do
  char '\\'
  gap
  newline
  let _ ← many limit ((do let _ ← takeWhile1 isGap) <|> newline)
  pure []

/-- Takes the quotes that end a string over several lines. Up to two more quotes before them belong
to the string. -/
def closingQuotes (quote : Char) : Reader (List Char) :=
  fun s =>
    let count := min (s.takeWhile (· == quote)).length 5
    if count < 3 then none else some (List.replicate (count - 3) quote, s.drop count)

/-- Reads a string between triple quotes from parts of the given kind. A line end after the opening
quotes is passed over. -/
def longString (limit : Nat) (quote : Char) (part : Reader (List Char)) : Reader (List Char) := do
  word [quote, quote, quote]
  newline <|> pure ()
  let parts ← many limit (part <|> lineEnd <|> innerQuotes quote)
  let last ← closingQuotes quote
  pure (parts.flatten ++ last)

def longBasicString (limit : Nat) : Reader (List Char) :=
  longString limit '"' (takeWhile1 isPlain <|> continuation limit <|> (do pure [← escape]))

def longLiteralString (limit : Nat) : Reader (List Char) :=
  longString limit '\'' (takeWhile1 isLiteral)

/-- The characters of keys that are written without quotes. -/
def isKeyChar (c : Char) : Bool :=
  isLetter c || isDigit c || c == '_' || c == '-'

def simpleKey (limit : Nat) : Reader String := do
  let name ← takeWhile1 isKeyChar <|> basicString limit <|> literalString
  pure (String.ofList name)

def spaced (blanks : Reader Unit) (c : Char) : Reader Unit := do
  blanks
  char c
  blanks

/-- The most names that a key with dots may have. -/
def maxKeyParts : Nat := 80

/-- Reads a key, which may have dots between its names. -/
def key (limit : Nat) : Reader (List String) := do
  let parts ← sepBy1 limit (simpleKey limit) (spaced gap '.')
  if parts.length ≤ maxKeyParts then pure parts else failure

/-- The characters of values that are written without quotes. -/
def isWordChar (c : Char) : Bool :=
  isLetter c || isDigit c || c == '_' || c == '+' || c == '-' || c == '.' || c == ':'

/-- Reads the time that follows a date after a blank. A blank after any other word ends the
value. -/
def spacedTime (date : List Char) : Reader (List Char) := do
  if (date? date).isNone then failure
  char ' '
  match ← peek with
  | some c => if isDigit c then takeWhile1 isWordChar else failure
  | none => failure

/-- Reads a value that is written without quotes. -/
def scalar : Reader Value := do
  let s ← takeWhile1 isWordChar
  let time ← (do pure (some (← spacedTime s))) <|> pure none
  match scalar? ((time.map fun t => s ++ ' ' :: t).getD s) with
  | some v => pure v
  | none => failure

/-- Reads a string of one of the four kinds. -/
def anyString (limit : Nat) : Reader Value := do
  let s ← longBasicString limit <|> longLiteralString limit <|> basicString limit <|> literalString
  pure (.string (String.ofList s))

/-- Reads pieces between brackets. A comma stands between two of them and may follow the last, and
lines may end on either side of each. -/
def bracketed (limit : Nat) (left right : Char) (piece : Reader α) : Reader (List α) := do
  char left
  wideGap limit
  let pieces ← (do
    let pieces ← sepBy1 limit piece (spaced (wideGap limit) ',')
    wideGap limit
    let _ ← taken? ','
    wideGap limit
    pure pieces) <|> pure []
  char right
  pure pieces

def array (limit : Nat) (item : Reader Value) : Reader Value := do
  pure (.array (← bracketed limit '[' ']' item))

def pair (limit : Nat) (blanks : Reader Unit) (item : Reader Value) :
    Reader (List String × Value) := do
  let name ← key limit
  spaced blanks '='
  let v ← item
  pure (name, v)

def leftBrace : Char := Char.ofNat 0x7B

def rightBrace : Char := Char.ofNat 0x7D

/-- Reads a table between braces. No two of its keys may get in each other's way. -/
def inlineTable (limit : Nat) (item : Reader Value) : Reader Value := do
  let pairs ← bracketed limit leftBrace rightBrace (pair limit (wideGap limit) item)
  match tableOfPairs? pairs with
  | some v => pure v
  | none => failure

/-- Reads a value with containers nested at most so deep. -/
def value (limit : Nat) : Nat → Reader Value
  | 0 => anyString limit <|> scalar
  | depth + 1 => do
    match ← peek with
    | some c =>
      if c = '[' then array limit (value limit depth)
      else if c = leftBrace then inlineTable limit (value limit depth)
      else anyString limit <|> scalar
    | none => failure

/-- How deep containers may be nested. -/
def maxDepth : Nat := 80

/-- What one line of a document says. -/
inductive Statement where
  | pair (key : List String) (v : Value)
  | table (header : List String)
  | item (header : List String)

/-- Reads the rest of a header up to its first closing bracket. -/
def header (limit : Nat) : Reader (List String) := do
  gap
  let name ← key limit
  gap
  char ']'
  pure name

/-- Reads a pair or a header. Two brackets are tried before one. -/
def statement (limit : Nat) : Reader Statement :=
  (do
    word ['[', '[']
    let name ← header limit
    char ']'
    pure (.item name)) <|>
  (do
    char '['
    pure (.table (← header limit))) <|>
  (do
    let (name, v) ← pair limit gap (value limit maxDepth)
    pure (.pair name v))

/-- Reads a line, on which there may be nothing but blanks and a comment. -/
def documentLine (limit : Nat) : Reader (Option Statement) := do
  gap
  let said ← (do pure (some (← statement limit))) <|> pure none
  gap
  comment <|> pure ()
  pure said

/-- A document under construction: the header of the current table, and the entries so far. -/
structure Document where
  header : List String
  entries : Entries

/-- A document with one more line, if that can follow the lines before it. -/
def Document.add? (d : Document) : Option Statement → Option Document
  | none => some d
  | some (.pair name v) => do
    let entries ← Node.addAt d.header name v d.entries
    some { d with entries }
  | some (.table header) => do
    let entries ← Node.openTable header d.entries
    some ⟨header, entries⟩
  | some (.item header) => do
    let entries ← Node.openItem header d.entries
    some ⟨header, entries⟩

/-- The object that a TOML text stands for. The text may start with a byte order mark. -/
def parse? (text : String) : Option Json := do
  let chars := match text.toList with
    | c :: rest => if c.toNat = 0xFEFF then rest else c :: rest
    | [] => []
  let limit := chars.length
  let lines ← (sepBy1 limit (documentLine limit) newline).whole chars
  let document ← lines.foldlM Document.add? ⟨[], []⟩
  documentJson? document.entries.values

end FormCheck.Toml
