import DeviceUplink.Text.Unprintable

/-!
# Quoted text

Text as messages quote it: a backslash before the quote mark and the backslash, short escapes for
the zero character, tab, line feed and carriage return, and the number of any other unprintable
character.
-/

namespace DeviceUplink.Text

def hexDigits (n : Nat) : List Char :=
  Nat.toDigits 16 n

/-- `mark` is the quote mark that encloses the character. -/
def escapeChar (mark c : Char) : List Char :=
  if c = '\x00' then ['\\', '0']
  else if c = '\t' then ['\\', 't']
  else if c = '\n' then ['\\', 'n']
  else if c = '\r' then ['\\', 'r']
  else if c = '\\' || c = mark then ['\\', c]
  else if isUnprintable c then ['\\', 'u', '\x7b'] ++ hexDigits c.toNat ++ ['\x7d']
  else [c]

def quoted (s : String) : String :=
  String.ofList ('"' :: s.toList.flatMap (escapeChar '"') ++ ['"'])

def quotedChar (c : Char) : String :=
  String.ofList ('\'' :: escapeChar '\'' c ++ ['\''])

end DeviceUplink.Text
