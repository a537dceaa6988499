import DeviceUplink.Yaml.Token

/-!
# YAML scalars

The five ways to write text. A line break within text becomes a space, and only the second of two
breaks counts; literal text keeps its breaks. Each reader takes the characters and the mark behind
the opening indicator and gives the text with what follows it, or nothing if the form is broken.
-/

namespace DeviceUplink.Yaml

/-- The white space since the last character of a text. -/
structure Gap where
  spaces : List Char := []
  hasBreak : Bool := false
  firstBreak : Option Char := none
  moreBreaks : List Char := []

namespace Gap

def addSpace (g : Gap) (c : Char) : Gap :=
  if g.hasBreak then g else { g with spaces := g.spaces ++ [c] }

def addBreak (g : Gap) (c : Char) : Gap :=
  if g.hasBreak then { g with moreBreaks := g.moreBreaks ++ [breakText c] }
  else { spaces := [], hasBreak := true, firstBreak := some (breakText c) }

/-- What the white space comes to once more text follows. -/
def text (g : Gap) : List Char :=
  if g.hasBreak then
    match g.firstBreak with
    | some '\n' => if g.moreBreaks.isEmpty then [' '] else g.moreBreaks
    | first? => first?.toList ++ g.moreBreaks
  else g.spaces

/-- Takes in white space. A tab in the first `tabLimit` columns of a further line is refused. -/
def read (tabLimit : Nat) : List Char → Mark → Gap → Option (List Char × Mark × Gap)
  | '\r' :: '\n' :: rest, m, g => read tabLimit rest (m.newLine 2) (g.addBreak '\n')
  | c :: rest, m, g =>
    if isSpace c then
      if g.hasBreak && c == '\t' && m.column < tabLimit then none
      else read tabLimit rest m.skip (g.addSpace c)
    else if isBreak c then read tabLimit rest m.newLine (g.addBreak c)
    else some (c :: rest, m, g)
  | [], m, g => some ([], m, g)

end Gap

/-- The text and what is left behind it. -/
structure Scanned where
  text : List Char
  rest : List Char
  mark : Mark

/-- Three marks at the start of a line, which begin or end a document. -/
def isDocumentMark (cs : List Char) (m : Mark) : Bool :=
  m.column == 0 && (cs.take 3 == ['-', '-', '-'] || cs.take 3 == ['.', '.', '.'])
    && endsWord cs[3]?

def isFlowIndicator (c : Char) : Bool :=
  c == ',' || c == '[' || c == ']' || c == '\x7b' || c == '\x7d'

/-- The plain characters up to white space or an indicator. Within brackets a colon may not stand
right before another indicator. -/
def plainRun (inFlow : Bool) : List Char → Option (List Char)
  | [] => some []
  | c :: rest =>
    if isSpace c || isBreak c then some []
    else if inFlow && c == ':' && rest.head?.any (fun d => isFlowIndicator d || d == '?') then none
    else if c == ':' && endsWord rest.head? then some []
    else if inFlow && isFlowIndicator c then some []
    else (plainRun inFlow rest).map (c :: ·)

/-- Reads plain text that is indented by `indent`. The last part says whether it ended behind a
line break. -/
def readPlain (inFlow : Bool) (indent : Nat) :
    (fuel : Nat) → Scanned → Gap → Option (Scanned × Bool)
  | 0, _, _ => none
  | fuel + 1, s, g =>
    if isDocumentMark s.rest s.mark || s.rest.head? == some '#' then some (s, g.hasBreak)
    else
      match plainRun inFlow s.rest with
      | none => none
      | some run =>
        let rest := s.rest.drop run.length
        let mark := s.mark.skip run.length
        let (text, gap) := if run.isEmpty then (s.text, g) else (s.text ++ g.text ++ run, {})
        if rest.isEmpty || !endsWord rest.head? then some ({ text, rest, mark }, gap.hasBreak)
        else
          match Gap.read indent rest mark gap with
          | none => none
          | some (behind, m, gap) =>
            let next : Scanned := { text, rest := behind, mark := m }
            if !inFlow && m.column < indent then some (next, gap.hasBreak)
            else readPlain inFlow indent fuel next gap

def hexValue? (c : Char) : Option Nat :=
  if '0' ≤ c && c ≤ '9' then some (c.toNat - 48)
  else if 'a' ≤ c && c ≤ 'f' then some (c.toNat - 87)
  else if 'A' ≤ c && c ≤ 'F' then some (c.toNat - 55)
  else none

/-- The character that hexadecimal digits denote. -/
def charOfHex? (digits : List Char) : Option Char :=
  match digits.mapM hexValue? with
  | none => none
  | some values =>
    let n := values.foldl (fun n v => n * 16 + v) 0
    if n.isValidChar then some (Char.ofNat n) else none

/-- What stands behind a backslash: a character by itself, or by so many digits. -/
inductive Escape
  | char (c : Char)
  | digits (count : Nat)

def Escape.ofChar? : Char → Option Escape
  | '0' => some (char '\x00')
  | 'a' => some (char '\x07')
  | 'b' => some (char '\x08')
  | 't' | '\t' => some (char '\t')
  | 'n' => some (char '\n')
  | 'v' => some (char '\x0b')
  | 'f' => some (char '\x0c')
  | 'r' => some (char '\r')
  | 'e' => some (char '\x1b')
  | ' ' => some (char ' ')
  | '"' => some (char '"')
  | '/' => some (char '/')
  | '\\' => some (char '\\')
  | 'N' => some (char '\u0085')
  | '_' => some (char '\u00a0')
  | 'L' => some (char '\u2028')
  | 'P' => some (char '\u2029')
  | 'x' => some (digits 2)
  | 'u' => some (digits 4)
  | 'U' => some (digits 8)
  | _ => none

/-- The characters of quoted text up to white space, the closing quote or an escaped line break;
the last part says whether it was the latter. -/
def quotedRun (isSingle : Bool) (cs : List Char) (m : Mark) : Option (Scanned × Bool) :=
  match cs with
  | [] => some ({ text := [], rest := [], mark := m }, false)
  | c :: rest =>
    if isSpace c || isBreak c then some ({ text := [], rest := cs, mark := m }, false)
    else if isSingle && c == '\'' then
      if rest.head? == some '\'' then
        (quotedRun isSingle (rest.drop 1) (m.skip 2)).map fun (s, broke) =>
          ({ s with text := '\'' :: s.text }, broke)
      else some ({ text := [], rest := cs, mark := m }, false)
    else if !isSingle && c == '"' then some ({ text := [], rest := cs, mark := m }, false)
    else if !isSingle && c == '\\' then
      match rest with
      | [] => none
      | '\r' :: '\n' :: more =>
        some ({ text := [], rest := more, mark := m.skip.newLine 2 }, true)
      | d :: more =>
        if isBreak d then some ({ text := [], rest := more, mark := m.skip.newLine }, true)
        else
          match Escape.ofChar? d with
          | none => none
          | some (.char x) =>
            (quotedRun isSingle more (m.skip 2)).map fun (s, broke) =>
              ({ s with text := x :: s.text }, broke)
          | some (.digits count) =>
            if more.length < count then none
            else
              match charOfHex? (more.take count) with
              | none => none
              | some x =>
                (quotedRun isSingle (more.drop count) (m.skip (count + 2))).map fun (s, broke) =>
                  ({ s with text := x :: s.text }, broke)
    else
      (quotedRun isSingle rest m.skip).map fun (s, broke) => ({ s with text := c :: s.text }, broke)
termination_by cs.length
decreasing_by all_goals (simp only [List.length_drop, List.length_cons]; omega)

def quoteMark (isSingle : Bool) : Char :=
  if isSingle then '\'' else '"'

/-- Reads quoted text; the opening quote is already taken. -/
def readQuoted (isSingle : Bool) : (fuel : Nat) → Scanned → Option Scanned
  | 0, _ => none
  | fuel + 1, s =>
    if isDocumentMark s.rest s.mark || s.rest.isEmpty then none
    else
      match quotedRun isSingle s.rest s.mark with
      | none => none
      | some (run, broke) =>
        let text := s.text ++ run.text
        if run.rest.head? == some (quoteMark isSingle) then
          some { text, rest := run.rest.drop 1, mark := run.mark.skip }
        else
          match Gap.read 0 run.rest run.mark { hasBreak := broke } with
          | none => none
          | some (rest, mark, gap) =>
            readQuoted isSingle fuel { text := text ++ gap.text, rest, mark }

inductive Chomping
  | strip
  | clip
  | keep
deriving DecidableEq

structure BlockHeader where
  chomping : Chomping := .clip
  /-- The columns of indentation, if they are given. -/
  indentation : Option Nat := none

/-- Reads the signs behind the indicator, each at most once. -/
def BlockHeader.read : List Char → Option (BlockHeader × List Char)
  | cs =>
    let chomp : List Char → Option (Chomping × List Char)
      | '+' :: rest => some (.keep, rest)
      | '-' :: rest => some (.strip, rest)
      | _ => none
    let digit : List Char → Option (Nat × List Char)
      | c :: rest => if c.isDigit then some (c.toNat - 48, rest) else none
      | [] => none
    match chomp cs with
    | some (chomping, rest) =>
      match digit rest with
      | some (n, rest) => if n = 0 then none else some ({ chomping, indentation := some n }, rest)
      | none => some ({ chomping }, rest)
    | none =>
      match digit cs with
      | some (n, rest) =>
        if n = 0 then none
        else
          match chomp rest with
          | some (chomping, rest) => some ({ chomping, indentation := some n }, rest)
          | none => some ({ indentation := some n }, rest)
      | none => some ({}, cs)

/-- Skips one line break. -/
def skipBreak : List Char → Mark → List Char × Mark
  | '\r' :: '\n' :: rest, m => (rest, m.newLine 2)
  | c :: rest, m => if isBreak c then (rest, m.newLine) else (c :: rest, m)
  | [], m => ([], m)

/-- Empty lines before a line of block text. -/
structure EmptyLines where
  breaks : List Char
  /-- The longest indentation seen. -/
  widest : Nat
  rest : List Char
  mark : Mark

/-- Skips indentation and collects empty lines. While the indentation is unknown every space counts
as indentation, and a tab in it is refused. -/
def readEmptyLines (indent : Option Nat) :
    List Char → Mark → List Char → Nat → Option EmptyLines
  | '\r' :: '\n' :: rest, m, breaks, widest =>
    readEmptyLines indent rest (m.newLine 2) (breaks ++ ['\n']) (max widest m.column)
  | c :: rest, m, breaks, widest =>
    let isIndentation := indent.all fun n => m.column < n
    if isIndentation && c == ' ' then readEmptyLines indent rest m.skip breaks widest
    else if isIndentation && c == '\t' then none
    else if isBreak c then
      readEmptyLines indent rest m.newLine (breaks ++ [breakText c]) (max widest m.column)
    else some { breaks, widest := max widest m.column, rest := c :: rest, mark := m }
  | [], m, breaks, widest => some { breaks, widest := max widest m.column, rest := [], mark := m }

/-- The state between two lines of block text. -/
structure BlockText where
  text : List Char := []
  /-- The break at the end of the last line. -/
  lineBreak : Option Char := none
  /-- The last line started with a space. -/
  isSpaced : Bool := false

def readBlockLines (isLiteral : Bool) (indent : Nat) :
    (fuel : Nat) → BlockText → EmptyLines → Option (BlockText × EmptyLines)
  | 0, _, _ => none
  | fuel + 1, b, e =>
    if e.mark.column != indent || e.rest.isEmpty then some (b, e)
    else
      let startsSpaced := e.rest.head?.any isSpace
      let folds := !isLiteral && b.lineBreak == some '\n' && !b.isSpaced && !startsSpaced
      let joint :=
        if folds then (if e.breaks.isEmpty then [' '] else []) else b.lineBreak.toList
      let line := e.rest.takeWhile fun c => !isBreak c
      let behind := e.rest.drop line.length
      let (rest, mark) := skipBreak behind (e.mark.skip line.length)
      let next : BlockText :=
        { text := b.text ++ joint ++ e.breaks ++ line
          lineBreak := behind.head?.map breakText
          isSpaced := startsSpaced }
      match readEmptyLines (some indent) rest mark [] 0 with
      | none => none
      | some e => readBlockLines isLiteral indent fuel next e

/-- Reads block text; the indicator is already taken. `parent` is the indentation around it. -/
def readBlock (isLiteral : Bool) (parent : Option Nat) (cs : List Char) (m : Mark) :
    Option Scanned :=
  match BlockHeader.read cs with
  | none => none
  | some (header, behind) =>
    let spaced := behind.dropWhile isSpace
    let rest := if spaced.head? == some '#' then spaced.dropWhile fun c => !isBreak c else spaced
    if !rest.isEmpty && !rest.head?.any isBreak then none
    else
      let (rest, mark) := skipBreak rest (m.skip (cs.length - rest.length))
      let given := header.indentation.map fun n => parent.getD 0 + n
      match readEmptyLines given rest mark [] 0 with
      | none => none
      | some e =>
        let least := match parent with
          | some n => n + 1
          | none => 1
        let indent := given.getD (max e.widest least)
        match readBlockLines isLiteral indent (rest.length + 1) {} e with
        | none => none
        | some (b, e) =>
          let tail := match header.chomping with
            | .strip => []
            | .clip => b.lineBreak.toList
            | .keep => b.lineBreak.toList ++ e.breaks
          some { text := b.text ++ tail, rest := e.rest, mark := e.mark }

end DeviceUplink.Yaml
