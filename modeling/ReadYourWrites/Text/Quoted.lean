import ReadYourWrites.Text.Unprintable

-- Texts in quotes. A quote and a backslash are escaped, so are the tab, the line ends and the null
-- character by a letter, and every other character that does not show by its code point in hex.

namespace ReadYourWrites.Text

def hexDigits (n : Nat) : List Char :=
  Nat.toDigits 16 n

def escape (c : Char) : List Char :=
  if c = '\t' then ['\\', 't']
  else if c = '\r' then ['\\', 'r']
  else if c = '\n' then ['\\', 'n']
  else if c = '\x00' then ['\\', '0']
  else if c = '"' then ['\\', '"']
  else if c = '\\' then ['\\', '\\']
  else if isPrintable c then [c]
  else ['\\', 'u', '\x7b'] ++ hexDigits c.toNat ++ ['\x7d']

def quote (text : String) : String :=
  .ofList (['"'] ++ text.toList.flatMap escape ++ ['"'])

end ReadYourWrites.Text
