import DeviceUplink.Json.Number
import DeviceUplink.Text.Hex

/-!
# JSON values

The values of a JSON document and their compact form. The fields of an object are in the order of
their names.
-/

namespace DeviceUplink.Json

inductive Value
  | null
  | bool (b : Bool)
  | number (n : Number)
  | text (s : String)
  | list (items : List Value)
  | object (fields : List (String × Value))

namespace Value

/-- Puts a field in its place; of two fields with one name the later counts. -/
def insert (name : String) (value : Value) : List (String × Value) → List (String × Value)
  | [] => [(name, value)]
  | (other, old) :: rest =>
    if name < other then (name, value) :: (other, old) :: rest
    else if name = other then (name, value) :: rest
    else (other, old) :: insert name value rest

/-- The object with these fields, in any order. -/
def ofFields (fields : List (String × Value)) : Value :=
  object (fields.foldl (fun sorted field => insert field.1 field.2 sorted) [])

def escapeChar (c : Char) : List Char :=
  if c = '"' || c = '\\' then ['\\', c]
  else if c = '\x08' then ['\\', 'b']
  else if c = '\x0c' then ['\\', 'f']
  else if c = '\n' then ['\\', 'n']
  else if c = '\r' then ['\\', 'r']
  else if c = '\t' then ['\\', 't']
  else if c.toNat < 0x20 then
    ['\\', 'u', '0', '0', Hex.digit (c.toNat / 16), Hex.digit (c.toNat % 16)]
  else [c]

def quotedText (s : String) : List Char :=
  '"' :: s.toList.flatMap escapeChar ++ ['"']

def separated : List (List Char) → List Char
  | [] => []
  | [last] => last
  | first :: rest => first ++ ',' :: separated rest

mutual

def chars : Value → List Char
  | null => "null".toList
  | bool true => "true".toList
  | bool false => "false".toList
  | number n => n.text
  | text s => quotedText s
  | list items => '[' :: separated (itemChars items) ++ [']']
  | object fields => '\x7b' :: separated (fieldChars fields) ++ ['\x7d']

def itemChars : List Value → List (List Char)
  | [] => []
  | item :: rest => chars item :: itemChars rest

def fieldChars : List (String × Value) → List (List Char)
  | [] => []
  | (name, value) :: rest => (quotedText name ++ ':' :: chars value) :: fieldChars rest

end

/-- Without any white space. -/
def compact (v : Value) : String :=
  String.ofList v.chars

end Value

end DeviceUplink.Json
