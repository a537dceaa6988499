import DeviceUplink.Log.Severity
import DeviceUplink.Text.Quoted

/-!
# Log lines

An event as one line of the log, less the time at its front: where it comes from, how grave it is,
its message and what else it carries.
-/

namespace DeviceUplink

/-- The value of a field, as its text or in quoted form. -/
inductive FieldValue
  | text (text : String)
  | quoted (text : String)
deriving DecidableEq

namespace FieldValue

def shown : FieldValue → String
  | text t => t
  | quoted t => Text.quoted t

/-- Without the quote marks at its ends. -/
def bare : FieldValue → String
  | text t => t
  | quoted t =>
    let isMark (c : Char) := c == '"'
    let front := (Text.quoted t).toList.dropWhile isMark
    String.ofList (front.reverse.dropWhile isMark).reverse

end FieldValue

structure LogEvent where
  severity : Severity
  /-- The part of the client that reports, unless it is the client as a whole. -/
  component : Option FieldValue := none
  message : String
  /-- Names and values, in the order in which they are shown. -/
  fields : List (String × FieldValue) := []

structure LogStyle where
  service : String := "uplink"
  hasColor : Bool := false

namespace LogStyle

/-- Terminals have colour unless they call themselves dumb. -/
def hasColorOf (terminal : Option String) : Bool :=
  terminal.any (· != "dumb")

def labelWidth : Nat := 20

def severityWidth : Nat := 9

def padded (width : Nat) (text : List Char) : List Char :=
  text ++ List.replicate (width - text.length) ' '

/-- A label of exactly the width; one that is too long ends in an ellipsis. -/
def fitted (width : Nat) (text : List Char) : List Char :=
  if width < text.length then text.take (width - 1) ++ ['…'] else padded width text

def label (style : LogStyle) (e : LogEvent) : String :=
  let name := match e.component with
    | some component => style.service ++ "-" ++ component.bare
    | none => style.service
  String.ofList (fitted labelWidth name.toList)

def severityLabel (s : Severity) : String :=
  let text := match s with
    | .error => "✗ ERROR"
    | .warn => "⚠ WARN"
    | .info => "ℹ INFO"
    | .debug => "◦ DEBUG"
    | .trace => "◦ TRACE"
  String.ofList (padded severityWidth text.toList)

def colorCode (number : String) : String :=
  "\x1b[" ++ number ++ "m"

def ifColor (style : LogStyle) (number : String) : String :=
  if style.hasColor then colorCode number else ""

def severityColor : Severity → String
  | .error => "91"
  | .warn => "93"
  | .info => "32"
  | .debug | .trace => "90"

def fieldText (field : String × FieldValue) : String :=
  " " ++ field.1 ++ "=" ++ field.2.shown

/-- The event as the log shows it. A message with line breaks makes more than one line. -/
def line (style : LogStyle) (e : LogEvent) : String :=
  style.ifColor "36" ++ "[" ++ style.label e ++ "] [" ++ style.ifColor (severityColor e.severity)
    ++ severityLabel e.severity ++ style.ifColor "0" ++ "] " ++ e.message
    ++ String.join (e.fields.map fieldText)

def lines (style : LogStyle) (events : List LogEvent) : List String :=
  events.flatMap fun e => (Text.split '\n' (style.line e).toList).map String.ofList

end LogStyle

end DeviceUplink
