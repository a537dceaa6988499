/-!
# YAML tokens

The words of a YAML stream, and what single characters mean in it.
-/

namespace DeviceUplink.Yaml

structure Mark where
  index : Nat := 0
  line : Nat := 0
  column : Nat := 0

namespace Mark

/-- Past characters of one line. -/
def skip (m : Mark) (count : Nat := 1) : Mark :=
  { m with index := m.index + count, column := m.column + count }

/-- Past a line break that is written with `count` characters. -/
def newLine (m : Mark) (count : Nat := 1) : Mark :=
  { index := m.index + count, line := m.line + 1, column := 0 }

end Mark

def isBreak (c : Char) : Bool :=
  c == '\r' || c == '\n' || c == '\u0085' || c == '\u2028' || c == '\u2029'

def isSpace (c : Char) : Bool :=
  c == ' ' || c == '\t'

/-- The character ends a word. So does the end of the text. -/
def endsWord : Option Char → Bool
  | some c => isSpace c || isBreak c
  | none => true

/-- What a line break stands for in a scalar. -/
def breakText (c : Char) : Char :=
  if c == '\u2028' || c == '\u2029' then c else '\n'

def isNameChar (c : Char) : Bool :=
  c.isAlphanum || c == '_' || c == '-'

/-- The character may stand in a stream. A byte order mark may stand only at the start. -/
def isAllowed (c : Char) : Bool :=
  let n := c.toNat
  n == 0x09 || n == 0x0A || n == 0x0D || (0x20 ≤ n && n ≤ 0x7E) || n == 0x85
    || (0xA0 ≤ n && n ≤ 0xD7FF) || (0xE000 ≤ n && n ≤ 0xFFFD && n != 0xFEFF) || 0x10000 ≤ n

inductive ScalarStyle
  | plain
  | singleQuoted
  | doubleQuoted
  | literal
  | folded
deriving DecidableEq, Repr

inductive Token
  | versionDirective (major minor : Nat)
  | tagDirective (handle start : List Char)
  | documentStart
  | documentEnd
  | blockSequenceStart
  | blockMappingStart
  | blockEnd
  | flowSequenceStart
  | flowSequenceEnd
  | flowMappingStart
  | flowMappingEnd
  | blockEntry
  | flowEntry
  | key
  | value
  | alias (name : List Char)
  | anchor (name : List Char)
  | tag (handle suffix : List Char)
  | scalar (text : List Char) (style : ScalarStyle)
deriving DecidableEq

end DeviceUplink.Yaml
