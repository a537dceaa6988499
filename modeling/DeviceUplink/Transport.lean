/-!
# Transports

The features multiplexed over a channel and the directions in which each may move data. Sets and
maps of transports are functions on the seven of them, so equal contents are equal values and
listing them always follows one order.
-/

namespace DeviceUplink

inductive Transport
  | bootstrap
  | profile
  | configuration
  | notification
  | user
  | event
  | logging
deriving DecidableEq, Repr

inductive Direction
  /-- Device to server only. -/
  | up
  /-- Server to device only. -/
  | down
  | bidirectional
deriving DecidableEq, Repr

namespace Transport

def all : List Transport :=
  [bootstrap, profile, configuration, notification, user, event, logging]

theorem mem_all (t : Transport) : t ∈ all := by
  cases t <;> decide

def name : Transport → String
  | bootstrap => "bootstrap"
  | profile => "profile"
  | configuration => "configuration"
  | notification => "notification"
  | user => "user"
  | event => "event"
  | logging => "logging"

def ofName? (name : String) : Option Transport :=
  all.find? fun t => t.name == name

def title : Transport → String
  | bootstrap => "Bootstrap"
  | profile => "Profile"
  | configuration => "Configuration"
  | notification => "Notification"
  | user => "User"
  | event => "Event"
  | logging => "Logging"

theorem ofName?_name (t : Transport) : ofName? t.name = some t := by
  cases t <;> rfl

end Transport

namespace Direction

def all : List Direction :=
  [up, down, bidirectional]

def name : Direction → String
  | up => "up"
  | down => "down"
  | bidirectional => "bidirectional"

def ofName? (name : String) : Option Direction :=
  all.find? fun d => d.name == name

def title : Direction → String
  | up => "Up"
  | down => "Down"
  | bidirectional => "Bidirectional"

theorem ofName?_name (d : Direction) : ofName? d.name = some d := by
  cases d <;> rfl

end Direction

structure TransportSet where
  has : Transport → Bool

namespace TransportSet

def ofList (ts : List Transport) : TransportSet :=
  ⟨fun t => ts.contains t⟩

def toList (s : TransportSet) : List Transport :=
  Transport.all.filter s.has

def size (s : TransportSet) : Nat :=
  s.toList.length

theorem mem_toList {s : TransportSet} {t : Transport} : t ∈ s.toList ↔ s.has t = true := by
  simp [toList, Transport.mem_all]

theorem toList_inj {a b : TransportSet} : a.toList = b.toList ↔ a = b := by
  refine ⟨fun h => ?_, fun h => h ▸ rfl⟩
  cases a with
  | mk f =>
    cases b with
    | mk g =>
      congr
      funext t
      have hmem : t ∈ toList ⟨f⟩ ↔ t ∈ toList ⟨g⟩ := by rw [h]
      rw [mem_toList, mem_toList] at hmem
      exact Bool.eq_iff_iff.mpr hmem

instance : DecidableEq TransportSet := fun _ _ => decidable_of_iff _ toList_inj

end TransportSet

/-- A direction for each transport that a channel carries. -/
structure DirectionMap where
  find? : Transport → Option Direction

namespace DirectionMap

def empty : DirectionMap :=
  ⟨fun _ => none⟩

def insert (m : DirectionMap) (t : Transport) (d : Direction) : DirectionMap :=
  ⟨fun u => if u = t then some d else m.find? u⟩

/-- Of two entries for one transport the last counts. -/
def ofList (entries : List (Transport × Direction)) : DirectionMap :=
  entries.foldl (fun m entry => m.insert entry.1 entry.2) empty

def toList (m : DirectionMap) : List (Transport × Direction) :=
  Transport.all.filterMap fun t => (m.find? t).map fun d => (t, d)

def carries (m : DirectionMap) (t : Transport) : Bool :=
  (m.find? t).isSome

def keys (m : DirectionMap) : TransportSet :=
  ⟨m.carries⟩

/-- Every carried transport that is not requested may only be updated by the server. -/
def restrictTo (m : DirectionMap) (requested : TransportSet) : DirectionMap :=
  ⟨fun t => (m.find? t).map fun d => if requested.has t then d else .down⟩

/-- The requested transports that are not carried, in order. -/
def missing (m : DirectionMap) (requested : TransportSet) : List Transport :=
  requested.toList.filter fun t => !m.carries t

theorem keys_restrictTo (m : DirectionMap) (requested : TransportSet) :
    (m.restrictTo requested).keys = m.keys := by
  simp only [keys, TransportSet.mk.injEq]
  funext t
  simp [carries, restrictTo]

/-- What an operations channel carries unless it is told otherwise. -/
def operations : DirectionMap :=
  ofList ([.profile, .configuration, .notification, .user, .event, .logging].map
    fun t => (t, .bidirectional))

end DirectionMap

end DeviceUplink
