import FormCheck.Text.Visible

namespace FormCheck.Text

/-- A code point in hexadecimal, without zeros in front. -/
def hexDigits (n : Nat) : List Char :=
  Nat.toDigits 16 n

/-- A character in a quotation. One that would not show, or that would end the quotation, is spelled
out. -/
def quoteChar (c : Char) : List Char :=
  if c = '"' then ['\\', '"']
  else if c = '\\' then ['\\', '\\']
  else if c = '\n' then ['\\', 'n']
  else if c = '\r' then ['\\', 'r']
  else if c = '\t' then ['\\', 't']
  else if c.toNat = 0 then ['\\', '0']
  else if isVisible c || c = ' ' then [c]
  else ['\\', 'u', Char.ofNat 0x7B] ++ hexDigits c.toNat ++ [Char.ofNat 0x7D]

/-- A quoted text without its marks. -/
def quoteBody (s : List Char) : List Char :=
  s.flatMap quoteChar

/-- A text between double quotes. It stays on one line, whatever it quotes. -/
def quoted (s : String) : String :=
  String.ofList ('"' :: quoteBody s.toList ++ ['"'])

end FormCheck.Text
