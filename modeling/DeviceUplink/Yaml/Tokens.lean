import DeviceUplink.Yaml.Scalar

/-!
# From text to tokens

Indentation becomes tokens that open and close collections. What turns out to be the key of a
mapping is known only at the colon behind it, so every place where a key may have started is
remembered until then.
-/

namespace DeviceUplink.Yaml

/-- A place where a key may have started. -/
structure KeyStart where
  /-- Nothing but a key may stand there. -/
  isRequired : Bool
  /-- How many tokens stand before it. -/
  place : Nat
  mark : Mark

structure Scanner where
  rest : List Char
  mark : Mark := {}
  tokens : Array Token := #[]
  /-- The indentation of the innermost block collection, if there is one. -/
  indent : Option Nat := none
  outerIndents : List (Option Nat) := []
  /-- The key that may be open at the present depth of brackets. -/
  keyStart : Option KeyStart := none
  /-- Those of the depths around it. -/
  outerKeyStarts : List (Option KeyStart) := []
  keyAllowed : Bool := true

namespace Scanner

def inFlow (s : Scanner) : Bool :=
  !s.outerKeyStarts.isEmpty

def emit (s : Scanner) (t : Token) : Scanner :=
  { s with tokens := s.tokens.push t }

def insertAt (s : Scanner) (place : Nat) (t : Token) : Scanner :=
  { s with tokens := (s.tokens.extract 0 place).push t ++ s.tokens.extract place s.tokens.size }

def skip (s : Scanner) (count : Nat := 1) : Scanner :=
  { s with rest := s.rest.drop count, mark := s.mark.skip count }

/-- Skips blanks, comments and line breaks. Tabs do not count as indentation. -/
def skipBlanks : (fuel : Nat) → Scanner → Scanner
  | 0, s => s
  | fuel + 1, s =>
    let blank (c : Char) := c == ' ' || (c == '\t' && (s.inFlow || !s.keyAllowed))
    let s := s.skip (s.rest.takeWhile blank).length
    let comment := if s.rest.head? == some '#' then s.rest.takeWhile fun c => !isBreak c else []
    let s := s.skip comment.length
    if s.rest.head?.any isBreak then
      let (rest, mark) := skipBreak s.rest s.mark
      skipBlanks fuel { s with rest, mark, keyAllowed := s.keyAllowed || !s.inFlow }
    else s

/-- A key has to end on its line and within 1024 characters. -/
def isStale (now : Mark) (k : KeyStart) : Bool :=
  k.mark.line < now.line || k.mark.index + 1024 < now.index

def dropStale (now : Mark) : Option KeyStart → Option (Option KeyStart)
  | none => some none
  | some k => if isStale now k then (if k.isRequired then none else some none) else some (some k)

def dropStaleKeys (s : Scanner) : Option Scanner := do
  let keyStart ← dropStale s.mark s.keyStart
  let outerKeyStarts ← s.outerKeyStarts.mapM (dropStale s.mark)
  return { s with keyStart, outerKeyStarts }

/-- No key starts at this depth any more. -/
def forgetKey (s : Scanner) : Option Scanner :=
  if s.keyStart.any (·.isRequired) then none else some { s with keyStart := none }

/-- A key may start here. -/
def noteKey (s : Scanner) : Option Scanner :=
  if s.keyAllowed then do
    let isRequired := !s.inFlow && s.indent == some s.mark.column
    let s ← s.forgetKey
    return { s with keyStart := some { isRequired, place := s.tokens.size, mark := s.mark } }
  else some s

/-- Column `column` is further in than the present block. -/
def isDeeper (s : Scanner) (column : Nat) : Bool :=
  s.indent.all (· < column)

/-- Opens a block collection at a column that is further in; its token goes to `place`. -/
def openBlock (s : Scanner) (column place : Nat) (t : Token) : Scanner :=
  if !s.inFlow && s.isDeeper column then
    { s with indent := some column, outerIndents := s.indent :: s.outerIndents }.insertAt place t
  else s

/-- Closes the blocks that are further in than `column`; without one, all of them. -/
def closeBlocks (column : Option Nat) (s : Scanner) : Scanner :=
  if s.inFlow then s
  else
    let isInside : Option Nat → Bool
      | none => false
      | some n => column.all (· < n)
    let rec close : Option Nat → List (Option Nat) → Array Token → Scanner
      | indent, [], tokens => { s with indent, outerIndents := [], tokens }
      | indent, outer :: rest, tokens =>
        if isInside indent then close outer rest (tokens.push .blockEnd)
        else { s with indent, outerIndents := outer :: rest, tokens }
    close s.indent s.outerIndents s.tokens

def takeName (cs : List Char) : List Char :=
  cs.takeWhile isNameChar

/-- Skips the rest of a directive's line, which may hold a comment. -/
def endDirective (s : Scanner) : Option Scanner :=
  let s := s.skip (s.rest.takeWhile isSpace).length
  let comment := if s.rest.head? == some '#' then s.rest.takeWhile fun c => !isBreak c else []
  let s := s.skip comment.length
  if s.rest.isEmpty then some s
  else if s.rest.head?.any isBreak then
    let (rest, mark) := skipBreak s.rest s.mark
    some { s with rest, mark }
  else none

/-- A number of at most nine digits. -/
def takeVersion (s : Scanner) : Option (Nat × Scanner) :=
  let digits := s.rest.takeWhile Char.isDigit
  if digits.isEmpty || 9 < digits.length then none
  else some (digits.foldl (fun n c => n * 10 + (c.toNat - 48)) 0, s.skip digits.length)

/-- The part of a tag from one exclamation mark to the next, or to the end of the name. -/
def takeHandle (s : Scanner) : Option (List Char × Scanner) :=
  match s.rest with
  | '!' :: rest =>
    let name := takeName rest
    let closing := if rest[name.length]? == some '!' then ['!'] else []
    let handle := '!' :: name ++ closing
    some (handle, s.skip handle.length)
  | _ => none

def isUriChar (isLong : Bool) (c : Char) : Bool :=
  isNameChar c || ";/?:@&=+$.!~*'()%".toList.contains c || (isLong && ",[]".toList.contains c)

/-- Every percent sign is followed by two hexadecimal digits. -/
def hasWholeEscapes : List Char → Bool
  | [] => true
  | '%' :: rest =>
    (rest.take 2).length == 2 && (rest.take 2).all (fun c => (hexValue? c).isSome)
      && hasWholeEscapes rest
  | _ :: rest => hasWholeEscapes rest

def takeUri (isLong : Bool) (s : Scanner) : Option (List Char × Scanner) :=
  let uri := s.rest.takeWhile (isUriChar isLong)
  if hasWholeEscapes uri then some (uri, s.skip uri.length) else none

def scanDirective (s : Scanner) : Option Scanner := do
  let s := s.skip
  let name := takeName s.rest
  let s := s.skip name.length
  if name.isEmpty || !endsWord s.rest.head? then none
  let s := s.skip (s.rest.takeWhile isSpace).length
  match String.ofList name with
  | "YAML" =>
    let (major, s) ← s.takeVersion
    if s.rest.head? != some '.' then none
    let (minor, s) ← s.skip.takeVersion
    (s.emit (.versionDirective major minor)).endDirective
  | "TAG" =>
    let (handle, s) ← s.takeHandle
    if handle != ['!'] && (handle.length < 2 || handle.getLast? != some '!') then none
    if !s.rest.head?.any isSpace then none
    let s := s.skip (s.rest.takeWhile isSpace).length
    let (start, s) ← s.takeUri true
    if start.isEmpty || !endsWord s.rest.head? then none
    (s.emit (.tagDirective handle start)).endDirective
  | _ => none

/-- Reads the name of an anchor or an alias. -/
def scanAnchor (s : Scanner) (make : List Char → Token) : Option Scanner :=
  let s := s.skip
  let name := takeName s.rest
  let s := s.skip name.length
  let endsName := endsWord s.rest.head? || s.rest.head?.any ("?:,]\x7d%@`".toList.contains ·)
  if name.isEmpty || !endsName then none else some (s.emit (make name))

def scanTag (s : Scanner) : Option Scanner := do
  let (handle, suffix, s) ←
    if s.rest[1]? == some '<' then do
      let (uri, s) ← (s.skip 2).takeUri true
      if uri.isEmpty || s.rest.head? != some '>' then none
      pure ([], uri, s.skip)
    else do
      let (handle, s) ← s.takeHandle
      let (uri, s) ← s.takeUri false
      if 2 ≤ handle.length && handle.getLast? == some '!' then
        if uri.isEmpty then none
        pure (handle, uri, s)
      else
        let suffix := handle.drop 1 ++ uri
        if suffix.isEmpty then pure ([], ['!'], s) else pure (['!'], suffix, s)
  if (s.inFlow && s.rest.head? == some ',') || endsWord s.rest.head? then
    return s.emit (.tag handle suffix)
  else none

def takeScanned (s : Scanner) (style : ScalarStyle) (scanned : Scanned) : Scanner :=
  { s with rest := scanned.rest, mark := scanned.mark }.emit (.scalar scanned.text style)

def scanQuoted (s : Scanner) (isSingle : Bool) : Option Scanner := do
  let s ← s.noteKey
  let opened := s.skip
  let scanned ← readQuoted isSingle (s.rest.length + 1)
    { text := [], rest := opened.rest, mark := opened.mark }
  let style := if isSingle then ScalarStyle.singleQuoted else .doubleQuoted
  return { s with keyAllowed := false }.takeScanned style scanned

def scanPlain (s : Scanner) : Option Scanner := do
  let s ← s.noteKey
  let indent := match s.indent with
    | some n => n + 1
    | none => 0
  let (scanned, endsLine) ← readPlain s.inFlow indent (s.rest.length + 1)
    { text := [], rest := s.rest, mark := s.mark } {}
  return { s with keyAllowed := endsLine }.takeScanned .plain scanned

def scanBlock (s : Scanner) (isLiteral : Bool) : Option Scanner := do
  let s ← s.forgetKey
  let opened := s.skip
  let scanned ← readBlock isLiteral s.indent opened.rest opened.mark
  let style := if isLiteral then ScalarStyle.literal else .folded
  return { s with keyAllowed := true }.takeScanned style scanned

/-- A document starts or ends: every block is closed. -/
def scanDocumentMark (s : Scanner) (t : Token) : Option Scanner := do
  let s ← (closeBlocks none s).forgetKey
  return { s with keyAllowed := false }.skip 3 |>.emit t

def openFlow (s : Scanner) (t : Token) : Option Scanner := do
  let s ← s.noteKey
  let deeper := { s with keyStart := none, outerKeyStarts := s.keyStart :: s.outerKeyStarts }
  return ({ deeper with keyAllowed := true }.emit t).skip

def closeFlow (s : Scanner) (t : Token) : Option Scanner := do
  let s ← s.forgetKey
  let s := match s.outerKeyStarts with
    | [] => s
    | outer :: rest => { s with keyStart := outer, outerKeyStarts := rest }
  return ({ s with keyAllowed := false }.emit t).skip

def scanFlowEntry (s : Scanner) : Option Scanner := do
  let s ← s.forgetKey
  return ({ s with keyAllowed := true }.emit .flowEntry).skip

def scanBlockEntry (s : Scanner) : Option Scanner := do
  if !s.inFlow && !s.keyAllowed then none
  let s ← (s.openBlock s.mark.column s.tokens.size .blockSequenceStart).forgetKey
  return ({ s with keyAllowed := true }.emit .blockEntry).skip

def scanKey (s : Scanner) : Option Scanner := do
  if !s.inFlow && !s.keyAllowed then none
  let s ← (s.openBlock s.mark.column s.tokens.size .blockMappingStart).forgetKey
  return ({ s with keyAllowed := !s.inFlow }.emit .key).skip

def scanValue (s : Scanner) : Option Scanner :=
  match s.keyStart with
  | some k =>
    let s := (s.insertAt k.place .key).openBlock k.mark.column k.place .blockMappingStart
    some (({ s with keyStart := none, keyAllowed := false }.emit .value).skip)
  | none => do
    if !s.inFlow && !s.keyAllowed then none
    let s := s.openBlock s.mark.column s.tokens.size .blockMappingStart
    return ({ s with keyAllowed := !s.inFlow }.emit .value).skip

/-- Plain text does not start with an indicator, but some indicators count as text when more text
follows them. -/
def startsPlain (s : Scanner) (c : Char) : Bool :=
  let follower := s.rest[1]?
  if isSpace c then false
  else if "-?:,[]\x7b\x7d#&*!|>'\"%@`".toList.contains c then
    (c == '-' && !follower.any isSpace)
      || (!s.inFlow && (c == '?' || c == ':') && !endsWord follower)
  else true

/-- Takes in the next token; blanks before it are skipped. -/
def next (s : Scanner) (c : Char) : Option Scanner :=
  let follower := s.rest[1]?
  if s.mark.column == 0 && c == '%' then do
    let s ← (closeBlocks none s).forgetKey
    { s with keyAllowed := false }.scanDirective
  else if isDocumentMark s.rest s.mark then
    s.scanDocumentMark (if c == '-' then .documentStart else .documentEnd)
  else if c == '[' then s.openFlow .flowSequenceStart
  else if c == '\x7b' then s.openFlow .flowMappingStart
  else if c == ']' then s.closeFlow .flowSequenceEnd
  else if c == '\x7d' then s.closeFlow .flowMappingEnd
  else if c == ',' then s.scanFlowEntry
  else if c == '-' && endsWord follower then s.scanBlockEntry
  else if c == '?' && (s.inFlow || endsWord follower) then s.scanKey
  else if c == ':' && (s.inFlow || endsWord follower) then s.scanValue
  else if c == '*' then do
    let s ← s.noteKey
    { s with keyAllowed := false }.scanAnchor .alias
  else if c == '&' then do
    let s ← s.noteKey
    { s with keyAllowed := false }.scanAnchor .anchor
  else if c == '!' then do
    let s ← s.noteKey
    { s with keyAllowed := false }.scanTag
  else if c == '|' && !s.inFlow then s.scanBlock true
  else if c == '>' && !s.inFlow then s.scanBlock false
  else if c == '\'' then s.scanQuoted true
  else if c == '"' then s.scanQuoted false
  else if s.startsPlain c then s.scanPlain
  else none

def run : (fuel : Nat) → Scanner → Option (List Token)
  | 0, _ => none
  | fuel + 1, s => do
    let s ← (skipBlanks (s.rest.length + 1) s).dropStaleKeys
    let s := closeBlocks (some s.mark.column) s
    match s.rest with
    | [] =>
      let s ← (closeBlocks none s).forgetKey
      return s.tokens.toList
    | c :: _ => run fuel (← s.next c)

end Scanner

def tokens? (text : String) : Option (List Token) :=
  let cs := text.toList
  let cs := if cs.head? == some '\ufeff' then cs.drop 1 else cs
  if cs.all isAllowed then Scanner.run (cs.length + 2) { rest := cs } else none

end DeviceUplink.Yaml
