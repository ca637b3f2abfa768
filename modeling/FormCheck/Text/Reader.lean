/-!
Readers: functions that take a piece off the front of a text. A reader fails or gives what it read
together with the rest of the text; of two alternatives the second starts where the first did.
-/

namespace FormCheck.Text

abbrev Reader := StateT (List Char) Option

namespace Reader

/-- What a reader makes of a text if it leaves nothing of it. -/
def whole (r : Reader α) (s : List Char) : Option α :=
  match r s with
  | some (a, []) => some a
  | _ => none

/-- The next character, which is not taken off the text. -/
def peek : Reader (Option Char) :=
  fun s => some (s.head?, s)

def one (p : Char → Bool) : Reader Char
  | c :: rest => if p c then some (c, rest) else none
  | [] => none

def char (c : Char) : Reader Unit := do
  let _ ← one (· == c)

def word : List Char → Reader Unit
  | [] => pure ()
  | c :: rest => do
    char c
    word rest

/-- Reads characters for as long as `p` picks them, which need not be any. -/
def takeWhile (p : Char → Bool) : Reader (List Char) :=
  fun s => some (s.takeWhile p, s.dropWhile p)

/-- Reads characters for as long as `p` picks them, and fails if there are none. -/
def takeWhile1 (p : Char → Bool) : Reader (List Char) := do
  let taken ← takeWhile p
  if taken.isEmpty then failure else pure taken

/-- Reads a given number of characters, all of which `p` has to pick. -/
def take (p : Char → Bool) : Nat → Reader (List Char)
  | 0 => pure []
  | n + 1 => do
    let c ← one p
    let rest ← take p n
    pure (c :: rest)

/-- Reads a character if it comes next, and tells whether it did. -/
def taken? (c : Char) : Reader Bool :=
  (char c *> pure true) <|> pure false

/-- Reads pieces one after another until the reader fails, and no more than `limit` of them. The
length of a text is more than enough when each piece takes a character. -/
def many (limit : Nat) (r : Reader α) : Reader (List α) :=
  match limit with
  | 0 => pure []
  | limit + 1 =>
    (do
      let first ← r
      let others ← many limit r
      pure (first :: others)) <|> pure []

/-- Reads pieces with separators between them. There has to be one piece at least. -/
def sepBy1 (limit : Nat) (r : Reader α) (separator : Reader Unit) : Reader (List α) := do
  let first ← r
  let others ← many limit (separator *> r)
  pure (first :: others)

end Reader

end FormCheck.Text
