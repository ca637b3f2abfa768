import FormCheck.Json.Numeral
import FormCheck.Text.Reader

namespace FormCheck.Json

open Text (Reader isDigit decimal)
open Text.Reader

/-- The four blanks of JSON text. No other blank space may stand between values. -/
def isSpace (c : Char) : Bool :=
  c == ' ' || c == '\n' || c == '\t' || c == '\r'

def space : Reader Unit := do
  let _ ← takeWhile isSpace

/-- What a hexadecimal digit counts, with letters of either case. -/
def hexValue? (c : Char) : Option Nat :=
  if isDigit c then some (c.toNat - '0'.toNat)
  else if 'a' ≤ c && c ≤ 'f' then some (c.toNat - 'a'.toNat + 10)
  else if 'A' ≤ c && c ≤ 'F' then some (c.toNat - 'A'.toNat + 10)
  else none

def hexadecimal (digits : List Char) : Nat :=
  digits.foldl (fun n c => 16 * n + (hexValue? c).getD 0) 0

/-- Reads the four digits of a code unit. -/
def hexUnit : Reader Nat := do
  let digits ← take (fun c => (hexValue? c).isSome) 4
  pure (hexadecimal digits)

/-- Reads the code after `\u`; a character beyond the first plane takes a pair of them. -/
def codeEscape : Reader Char := do
  let unit ← hexUnit
  if 0xD800 ≤ unit && unit < 0xDC00 then
    word ['\\', 'u']
    let low ← hexUnit
    if 0xDC00 ≤ low && low < 0xE000 then
      pure (Char.ofNat (0x10000 + (unit - 0xD800) * 0x400 + (low - 0xDC00)))
    else failure
  else if 0xDC00 ≤ unit && unit < 0xE000 then failure
  else pure (Char.ofNat unit)

/-- Reads an escaped character together with its backslash. -/
def escape : Reader Char := do
  char '\\'
  let c ← one fun _ => true
  match c with
  | '"' => pure '"'
  | '\\' => pure '\\'
  | '/' => pure '/'
  | 'b' => pure (Char.ofNat 8)
  | 'f' => pure (Char.ofNat 12)
  | 'n' => pure '\n'
  | 'r' => pure '\r'
  | 't' => pure '\t'
  | 'u' => codeEscape
  | _ => failure

/-- The characters that stand for themselves in a string. Controls have to be escaped. -/
def isPlain (c : Char) : Bool :=
  0x20 ≤ c.toNat && c != '"' && c != '\\'

def string (limit : Nat) : Reader String := do
  char '"'
  let parts ← many limit (takeWhile1 isPlain <|> (do pure [← escape]))
  char '"'
  pure (String.ofList parts.flatten)

/-- Reads the digits before the point: a lone zero, or digits that do not start with one. -/
def wholeDigits : Reader (List Char) := do
  let first ← one isDigit
  if first == '0' then pure ['0']
  else do
    let rest ← takeWhile isDigit
    pure (first :: rest)

/-- Reads an exponent: its letter, a sign if there is one, and its digits. -/
def exponent : Reader Int := do
  let _ ← one fun c => c == 'e' || c == 'E'
  let negative ← taken? '-'
  if !negative then
    let _ ← taken? '+'
  let digits ← takeWhile1 isDigit
  pure (if negative then -(decimal digits : Int) else decimal digits)

/-- Reads a number, unless it is too large to have a value. -/
def number : Reader Json := do
  let negative ← taken? '-'
  let whole ← wholeDigits
  let fraction ← (char '.' *> takeWhile1 isDigit) <|> pure []
  let exponent ← (do pure (some (← exponent))) <|> pure none
  match Numeral.value? { negative, whole, fraction, exponent } with
  | some value => pure value
  | none => failure

/-- Reads a value that is no container. -/
def scalar (limit : Nat) : Reader Json := do
  match ← peek with
  | some '"' => return .str (← string limit)
  | some 't' => do word "true".toList; pure (.bool true)
  | some 'f' => do word "false".toList; pure (.bool false)
  | some 'n' => do word "null".toList; pure .null
  | _ => number

def separator (c : Char) : Reader Unit := do
  space
  char c
  space

def array (limit : Nat) (item : Reader Json) : Reader Json := do
  char '['
  space
  let items ← sepBy1 limit item (separator ',') <|> pure []
  space
  char ']'
  pure (.arr items)

/-- Reads an object. Of two fields with one name the later counts. -/
def object (limit : Nat) (item : Reader Json) : Reader Json := do
  char (Char.ofNat 0x7B)
  space
  let field : Reader (String × Json) := do
    let name ← string limit
    separator ':'
    let value ← item
    pure (name, value)
  let fields ← sepBy1 limit field (separator ',') <|> pure []
  space
  char (Char.ofNat 0x7D)
  pure (ofFields fields)

/-- Reads a value with containers nested at most `depth` deep. -/
def value (limit : Nat) : Nat → Reader Json
  | 0 => scalar limit
  | depth + 1 => do
    match ← peek with
    | some '[' => array limit (value limit depth)
    | some c => if c.toNat == 0x7B then object limit (value limit depth) else scalar limit
    | none => failure

/-- How deep containers may be nested. -/
def maxDepth : Nat := 127

/-- Reads a JSON text strictly: one value, and nothing but blanks around it. -/
def parse? (text : String) : Option Json :=
  let chars := text.toList
  (space *> value chars.length maxDepth <* space).whole chars

end FormCheck.Json
