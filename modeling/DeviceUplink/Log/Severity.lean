import DeviceUplink.Text.Blank
import DeviceUplink.Text.Fields
import DeviceUplink.Text.Numeral

/-!
# Severity of log events

How grave events are, and which of them a log passes on. The level on the command line holds for
the client's own events; events from elsewhere pass down to information.
-/

namespace DeviceUplink

/-- The gravest first. -/
inductive Severity
  | error
  | warn
  | info
  | debug
  | trace
deriving DecidableEq, Repr

namespace Severity

def all : List Severity :=
  [error, warn, info, debug, trace]

def name : Severity → String
  | error => "error"
  | warn => "warn"
  | info => "info"
  | debug => "debug"
  | trace => "trace"

def rank : Severity → Nat
  | error => 1
  | warn => 2
  | info => 3
  | debug => 4
  | trace => 5

def ofRank? (n : Nat) : Option Severity :=
  all.find? fun s => s.rank == n

end Severity

/-- The least grave events that pass, if any do. -/
abbrev Threshold := Option Severity

namespace Threshold

def passes (t : Threshold) (s : Severity) : Bool :=
  t.any fun least => s.rank ≤ least.rank

/-- The threshold of a name in any case, or of a number from 0 for none to 5 for all. -/
def ofName? (text : List Char) : Option Threshold :=
  match Numeral.parse Numeral.max64 text with
  | .ok 0 => some none
  | .ok n => (Severity.ofRank? n).map some
  | .error _ =>
    let lower := String.ofList (text.map Char.toLower)
    if lower == "off" then some none
    else (Severity.all.find? fun s => s.name == lower).map some

end Threshold

structure LogFilter where
  /-- For the client's own events. -/
  own : Threshold

namespace LogFilter

def dropTrailingBlanks (text : List Char) : List Char :=
  (text.reverse.dropWhile Text.isBlank).reverse

/-- The name in a level, which may have one comma behind it and then nothing but blanks. -/
def levelName? (level : List Char) : Option (List Char) :=
  match Text.split ',' (dropTrailingBlanks level) with
  | [name, []] => some name
  | [_] => some level
  | _ => none

/-- The filter of a level. An empty level passes everything. -/
def ofLevel? (level : String) : Option LogFilter :=
  match levelName? level.toList with
  | none => none
  | some [] => some ⟨some .trace⟩
  | some name => (Threshold.ofName? name).map LogFilter.mk

/-- The client's own targets start with its name. -/
def threshold (f : LogFilter) (target : String) : Threshold :=
  if "uplink".toList.isPrefixOf target.toList then f.own else some .info

def passes (f : LogFilter) (target : String) (s : Severity) : Bool :=
  (f.threshold target).passes s

end LogFilter

end DeviceUplink
