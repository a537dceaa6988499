/-!
# Agendas

Things to be done at set times. Of two for the same time the one that was added first comes first.
-/

namespace DeviceUplink

structure Agenda (α : Type) where
  entries : List (Nat × α) := []

namespace Agenda

variable {α : Type}

def add (a : Agenda α) (time : Nat) (item : α) : Agenda α :=
  { entries := a.entries ++ [(time, item)] }

def remove (a : Agenda α) (drops : α → Bool) : Agenda α :=
  { entries := a.entries.filter fun entry => !drops entry.2 }

/-- The earliest entry and the others. -/
def splitFirst : List (Nat × α) → Option ((Nat × α) × List (Nat × α))
  | [] => none
  | entry :: rest =>
    match splitFirst rest with
    | none => some (entry, [])
    | some (first, others) =>
      if entry.1 ≤ first.1 then some (entry, rest) else some (first, entry :: others)

/-- When the next entry is due. -/
def nextTime? (a : Agenda α) : Option Nat :=
  (splitFirst a.entries).map fun split => split.1.1

/-- Takes out the earliest entry if its time has come. -/
def takeDue? (a : Agenda α) (now : Nat) : Option (α × Agenda α) :=
  match splitFirst a.entries with
  | some ((time, item), others) => if time ≤ now then some (item, { entries := others }) else none
  | none => none

end Agenda

end DeviceUplink
