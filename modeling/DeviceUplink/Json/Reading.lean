import DeviceUplink.Json.Value

/-!
# Reading JSON

A document is one value with blanks around it. Lists and objects may nest 127 deep.
-/

namespace DeviceUplink.Json

def isBlank (c : Char) : Bool :=
  c == ' ' || c == '\n' || c == '\t' || c == '\r'

def skipBlanks (cs : List Char) : List Char :=
  cs.dropWhile isBlank

def hexValue? (c : Char) : Option Nat :=
  if c.toNat < 128 then Hex.digitValue? c.toNat.toUInt8 else none

/-- The number that four hexadecimal digits denote. -/
def unit? (a b c d : Char) : Option Nat := do
  return ((← hexValue? a) * 16 + (← hexValue? b)) * 256 + (← hexValue? c) * 16 + (← hexValue? d)

def isHighSurrogate (n : Nat) : Bool :=
  0xD800 ≤ n && n < 0xDC00

def isLowSurrogate (n : Nat) : Bool :=
  0xDC00 ≤ n && n < 0xE000

def shortEscape? : Char → Option Char
  | '"' => some '"'
  | '\\' => some '\\'
  | '/' => some '/'
  | 'b' => some '\x08'
  | 'f' => some '\x0c'
  | 'n' => some '\n'
  | 'r' => some '\r'
  | 't' => some '\t'
  | _ => none

/-- The character of an escape with digits. Surrogates have to come in pairs. -/
def longEscape? : List Char → Option (Char × List Char)
  | a :: b :: c :: d :: rest => do
    let first ← unit? a b c d
    if isLowSurrogate first then none
    else if isHighSurrogate first then
      match rest with
      | '\\' :: 'u' :: e :: f :: g :: h :: rest => do
        let second ← unit? e f g h
        if isLowSurrogate second then
          return (Char.ofNat (0x10000 + (first - 0xD800) * 0x400 + (second - 0xDC00)), rest)
        else none
      | _ => none
    else return (Char.ofNat first, rest)
  | _ => none

/-- The text behind an opening quote mark, with what follows the closing one. -/
def readText? : (fuel : Nat) → List Char → Option (List Char × List Char)
  | 0, _ | _, [] => none
  | _ + 1, '"' :: rest => some ([], rest)
  | fuel + 1, '\\' :: 'u' :: rest => do
    let (c, rest) ← longEscape? rest
    let (text, rest) ← readText? fuel rest
    return (c :: text, rest)
  | fuel + 1, '\\' :: c :: rest => do
    let c ← shortEscape? c
    let (text, rest) ← readText? fuel rest
    return (c :: text, rest)
  | fuel + 1, c :: rest =>
    if c.toNat < 0x20 then none
    else (readText? fuel rest).map fun (text, rest) => (c :: text, rest)

mutual

/-- The value at the front of a text, in which lists and objects may nest less than `depth` deep. -/
def readValue? : (fuel depth : Nat) → List Char → Option (Value × List Char)
  | 0, _, _ => none
  | fuel + 1, depth, cs =>
    match skipBlanks cs with
    | 'n' :: 'u' :: 'l' :: 'l' :: rest => some (.null, rest)
    | 't' :: 'r' :: 'u' :: 'e' :: rest => some (.bool true, rest)
    | 'f' :: 'a' :: 'l' :: 's' :: 'e' :: rest => some (.bool false, rest)
    | '"' :: rest => (readText? fuel rest).map fun (t, rest) => (.text (String.ofList t), rest)
    | '[' :: rest =>
      if depth ≤ 1 then none
      else
        match skipBlanks rest with
        | ']' :: rest => some (.list [], rest)
        | rest => (readItems? fuel (depth - 1) rest).map fun (items, rest) => (.list items, rest)
    | '\x7b' :: rest =>
      if depth ≤ 1 then none
      else
        match skipBlanks rest with
        | '\x7d' :: rest => some (.object [], rest)
        | rest =>
          (readFields? fuel (depth - 1) rest).map fun (fields, rest) => (.ofFields fields, rest)
    | rest => (Number.read? rest).map fun (n, rest) => (.number n, rest)

def readItems? : (fuel depth : Nat) → List Char → Option (List Value × List Char)
  | 0, _, _ => none
  | fuel + 1, depth, cs => do
    let (first, rest) ← readValue? fuel depth cs
    match skipBlanks rest with
    | ',' :: rest =>
      let (others, rest) ← readItems? fuel depth rest
      return (first :: others, rest)
    | ']' :: rest => return ([first], rest)
    | _ => none

def readFields? : (fuel depth : Nat) → List Char → Option (List (String × Value) × List Char)
  | 0, _, _ => none
  | fuel + 1, depth, cs => do
    match skipBlanks cs with
    | '"' :: rest =>
      let (name, rest) ← readText? fuel rest
      match skipBlanks rest with
      | ':' :: rest =>
        let (value, rest) ← readValue? fuel depth rest
        let field := (String.ofList name, value)
        match skipBlanks rest with
        | ',' :: rest =>
          let (others, rest) ← readFields? fuel depth rest
          return (field :: others, rest)
        | '\x7d' :: rest => return ([field], rest)
        | _ => none
      | _ => none
    | _ => none

end

/-- The value of a document. Every step takes a character or leads to one that does, so twice the
length is enough fuel. -/
def Value.ofDocument? (text : String) : Option Value :=
  let cs := text.toList
  match readValue? (2 * cs.length + 2) 128 cs with
  | some (value, rest) => if (skipBlanks rest).isEmpty then some value else none
  | none => none

end DeviceUplink.Json
