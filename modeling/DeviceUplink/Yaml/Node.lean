import DeviceUplink.Text.Numeral
import DeviceUplink.Yaml.Tokens

/-!
# YAML documents

The tree that a stream with one document denotes. An alias stands for the node it names; inside
that very node there is nothing it could stand for yet.
-/

namespace DeviceUplink.Yaml

inductive Node
  | scalar (text : String) (style : ScalarStyle) (tag? : Option String)
  | sequence (items : List Node)
  | mapping (entries : List (Node × Node))
  /-- An alias within the node that it names. -/
  | cycle

namespace Node

/-- Nothing is written where a node is expected. -/
def empty (tag? : Option String) : Node :=
  .scalar "" .plain tag?

def text? : Node → Option String
  | .scalar text _ _ => some text
  | _ => none

/-- A plain scalar without any text. -/
def isEmpty : Node → Bool
  | .scalar "" .plain _ => true
  | _ => false

def isNullText (text : String) : Bool :=
  text == "null" || text == "Null" || text == "NULL" || text == "~"

def nullTag : String := "tag:yaml.org,2002:null"

def intTag : String := "tag:yaml.org,2002:int"

/-- Says of an optional value whether it is absent; a node that denies its own null tag is
neither. -/
def isNull? : Node → Option Bool
  | .scalar text .plain (some tag) =>
    if tag == nullTag then (if isNullText text then some true else none) else some false
  | .scalar text .plain none => some (text == "" || isNullText text)
  | _ => some false

/-- The entries of a mapping. An empty scalar counts as an empty mapping. -/
def entries? : Node → Option (List (Node × Node))
  | .mapping entries => some entries
  | node => if node.isEmpty then some [] else none

/-- The items of a sequence. An empty scalar counts as an empty sequence. -/
def items? : Node → Option (List Node)
  | .sequence items => some items
  | node => if node.isEmpty then some [] else none

def valueOfDigits? (base : Nat) (cs : List Char) : Option Nat :=
  if cs.isEmpty then none
  else
    cs.foldl (fun n? c => do
      let n ← n?
      let v ← hexValue? c
      if v < base then some (n * base + v) else none) (some 0)

/-- Reads a whole number: decimal without leading zeros, or in one of three other bases. -/
def natOfText? (text : String) : Option Nat :=
  let cs := text.toList
  let digits := if cs.head? == some '+' then cs.drop 1 else cs
  match digits with
  | '0' :: 'x' :: rest => valueOfDigits? 16 rest
  | '0' :: 'o' :: rest => valueOfDigits? 8 rest
  | '0' :: 'b' :: rest => valueOfDigits? 2 rest
  | '0' :: _ :: _ => none
  | _ => valueOfDigits? 10 digits

/-- The number at most `largest` that a scalar denotes. Quoted digits are text. -/
def nat? (largest : Nat) (node : Node) : Option Nat :=
  let number? := match node with
    | .scalar text .plain _ => natOfText? text
    | .scalar text .literal (some tag) => if tag == intTag then natOfText? text else none
    | _ => none
  number?.filter (· ≤ largest)

end Node

/-- What is left of the tokens, and what the anchors so far name. -/
structure Composer where
  tokens : List Token
  anchors : List (List Char × Node) := []

/-- The full form of the start of a tag. -/
def resolveTag (directives : List (List Char × List Char)) (handle suffix : List Char) :
    Option String :=
  if handle.isEmpty then some (String.ofList suffix)
  else
    let known := directives ++ [(['!'], ['!']), (['!', '!'], "tag:yaml.org,2002:".toList)]
    (known.lookup handle).map fun start => String.ofList (start ++ suffix)

structure Properties where
  anchor? : Option (List Char) := none
  tag? : Option String := none

namespace Composer

def drop (c : Composer) : Composer :=
  { c with tokens := c.tokens.drop 1 }

def peek (c : Composer) : Option Token :=
  c.tokens.head?

/-- The next token is one of these, or there is none. -/
def meets (c : Composer) (stops : List Token) : Bool :=
  c.peek.all stops.contains

/-- Takes an anchor and a tag, each at most once and in any order. -/
def takeProperties (directives : List (List Char × List Char)) (c : Composer) :
    Option (Properties × Composer) :=
  match c.tokens with
  | .anchor name :: .tag handle suffix :: rest | .tag handle suffix :: .anchor name :: rest =>
    (resolveTag directives handle suffix).map fun tag =>
      ({ anchor? := some name, tag? := some tag }, { c with tokens := rest })
  | .anchor name :: rest => some ({ anchor? := some name }, { c with tokens := rest })
  | .tag handle suffix :: rest =>
    (resolveTag directives handle suffix).map fun tag =>
      ({ tag? := some tag }, { c with tokens := rest })
  | _ => some ({}, c)

def name (c : Composer) (p : Properties) (node : Node) : Composer :=
  match p.anchor? with
  | some anchor => { c with anchors := (anchor, node) :: c.anchors }
  | none => c

mutual

/-- Composes a node. In a block, collections by indentation are taken too; `isIndentless` says
whether a sequence may stand at the indentation of its key. -/
def node (directives : List (List Char × List Char)) (inBlock isIndentless : Bool) :
    (fuel : Nat) → Composer → Option (Node × Composer)
  | 0, _ => none
  | fuel + 1, c => do
    if let some (.alias anchor) := c.peek then
      let target ← c.anchors.lookup anchor
      return (target, c.drop)
    let (p, c) ← c.takeProperties directives
    let content (named : Composer) : Option (Node × Composer) :=
      match c.peek with
      | some (.scalar text style) =>
        some (.scalar (String.ofList text) style p.tag?, named.drop)
      | some .blockEntry =>
        if isIndentless then indentlessItems directives fuel named [] else none
      | some .flowSequenceStart => flowItems directives true fuel named.drop []
      | some .flowMappingStart => flowEntries directives true fuel named.drop []
      | some .blockSequenceStart =>
        if inBlock then blockItems directives fuel named.drop [] else none
      | some .blockMappingStart =>
        if inBlock then blockEntries directives fuel named.drop [] else none
      | _ => none
    match content (c.name p .cycle) with
    | some (n, rest) => return (n, rest.name p n)
    | none =>
      let isContent := match c.peek with
        | some (.scalar _ _) | some .flowSequenceStart | some .flowMappingStart => true
        | some .blockEntry => isIndentless
        | some .blockSequenceStart | some .blockMappingStart => inBlock
        | _ => false
      if !isContent && (p.anchor?.isSome || p.tag?.isSome) then
        let n := Node.empty p.tag?
        return (n, c.name p n)
      else none

/-- A node, or an empty one if one of these tokens comes first. -/
def nodeUnless (directives : List (List Char × List Char)) (inBlock isIndentless : Bool)
    (stops : List Token) : (fuel : Nat) → Composer → Option (Node × Composer)
  | 0, _ => none
  | fuel + 1, c =>
    if c.meets stops then some (.empty none, c) else node directives inBlock isIndentless fuel c

/-- Items of a block sequence, up to its end. -/
def blockItems (directives : List (List Char × List Char)) :
    (fuel : Nat) → Composer → List Node → Option (Node × Composer)
  | 0, _, _ => none
  | fuel + 1, c, items =>
    match c.peek with
    | some .blockEntry => do
      let (item, c) ← nodeUnless directives true false [.blockEntry, .blockEnd] fuel c.drop
      blockItems directives fuel c (items ++ [item])
    | some .blockEnd => some (.sequence items, c.drop)
    | _ => none

/-- Items of a sequence that is no further in than its key. -/
def indentlessItems (directives : List (List Char × List Char)) :
    (fuel : Nat) → Composer → List Node → Option (Node × Composer)
  | 0, _, _ => none
  | fuel + 1, c, items =>
    match c.peek with
    | some .blockEntry => do
      let (item, c) ←
        nodeUnless directives true false [.blockEntry, .key, .value, .blockEnd] fuel c.drop
      indentlessItems directives fuel c (items ++ [item])
    | _ => some (.sequence items, c)

/-- Entries of a block mapping, up to its end. -/
def blockEntries (directives : List (List Char × List Char)) :
    (fuel : Nat) → Composer → List (Node × Node) → Option (Node × Composer)
  | 0, _, _ => none
  | fuel + 1, c, entries =>
    let stops := [Token.key, .value, .blockEnd]
    match c.peek with
    | some .key => do
      let (key, c) ← nodeUnless directives true true stops fuel c.drop
      let (value, c) ←
        if c.peek == some .value then nodeUnless directives true true stops fuel c.drop
        else some (.empty none, c)
      blockEntries directives fuel c (entries ++ [(key, value)])
    | some .blockEnd => some (.mapping entries, c.drop)
    | _ => none

/-- Items in square brackets. An item with a colon is a mapping with one entry. -/
def flowItems (directives : List (List Char × List Char)) (isFirst : Bool) :
    (fuel : Nat) → Composer → List Node → Option (Node × Composer)
  | 0, _, _ => none
  | fuel + 1, c, items =>
    if c.peek == some .flowSequenceEnd then some (.sequence items, c.drop)
    else do
      let c ← if isFirst then some c
        else if c.peek == some .flowEntry then some c.drop else none
      if c.peek == some .flowSequenceEnd then return (.sequence items, c.drop)
      if c.peek == some .key then
        let (key, c) ← nodeUnless directives false false
          [.value, .flowEntry, .flowSequenceEnd] fuel c.drop
        let (value, c) ←
          if c.peek == some .value then
            nodeUnless directives false false [.flowEntry, .flowSequenceEnd] fuel c.drop
          else some (.empty none, c)
        flowItems directives false fuel c (items ++ [.mapping [(key, value)]])
      else
        let (item, c) ← node directives false false fuel c
        flowItems directives false fuel c (items ++ [item])

def flowEntries (directives : List (List Char × List Char)) (isFirst : Bool) :
    (fuel : Nat) → Composer → List (Node × Node) → Option (Node × Composer)
  | 0, _, _ => none
  | fuel + 1, c, entries =>
    if c.peek == some .flowMappingEnd then some (.mapping entries, c.drop)
    else do
      let c ← if isFirst then some c
        else if c.peek == some .flowEntry then some c.drop else none
      if c.peek == some .flowMappingEnd then return (.mapping entries, c.drop)
      if c.peek == some .key then
        let (key, c) ← nodeUnless directives false false
          [.value, .flowEntry, .flowMappingEnd] fuel c.drop
        let (value, c) ←
          if c.peek == some .value then
            nodeUnless directives false false [.flowEntry, .flowMappingEnd] fuel c.drop
          else some (.empty none, c)
        flowEntries directives false fuel c (entries ++ [(key, value)])
      else
        let (key, c) ← node directives false false fuel c
        flowEntries directives false fuel c (entries ++ [(key, .empty none)])

end

/-- Takes the directives before a document. There is one version at most, which is 1.1 or 1.2, and
no handle is declared twice. -/
def directives : List Token → Bool → List (List Char × List Char) →
    Option (List (List Char × List Char) × Bool × List Token)
  | .versionDirective major minor :: rest, hasVersion, handles =>
    if hasVersion || major != 1 || (minor != 1 && minor != 2) then none
    else directives rest true handles
  | .tagDirective handle start :: rest, hasVersion, handles =>
    if (handles.lookup handle).isSome then none
    else directives rest hasVersion (handles ++ [(handle, start)])
  | tokens, hasVersion, handles => some (handles, hasVersion, tokens)

/-- The content of a document, which may be missing. -/
def content (handles : List (List Char × List Char)) (tokens : List Token) :
    Option (Node × List Token) :=
  match tokens.head? with
  | none | some .documentStart | some .documentEnd | some (.versionDirective _ _)
  | some (.tagDirective _ _) => some (.empty none, tokens)
  | _ =>
    (node handles true false (4 * tokens.length + 4) { tokens }).map fun (n, c) => (n, c.tokens)

end Composer

/-- The document of a stream that holds exactly one. -/
def document? (text : String) : Option Node := do
  let tokens ← tokens? text
  if tokens.isEmpty then none
  let (handles, hasVersion, body) ← Composer.directives tokens false []
  let (root, rest) ←
    if body.head? == some .documentStart then Composer.content handles (body.drop 1)
    else if hasVersion || !handles.isEmpty then none
    else Composer.content handles body
  if (rest.dropWhile (· == .documentEnd)).isEmpty then some root else none

end DeviceUplink.Yaml
