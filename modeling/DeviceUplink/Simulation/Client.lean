import DeviceUplink.Channel.Handling
import DeviceUplink.Coordinator
import DeviceUplink.Simulation.Agenda

/-!
# A simulated client

A channel and a coordinator on a virtual clock, in a network where every dial fails at once. A
checker is the answer that it gives.

Commands that wait for the channel come first, then signals, dials and the timers that are due;
only when none is left does time go on.
-/

namespace DeviceUplink

namespace Simulation

inductive Task
  | openTimer (timer : Nat)
  | restartList (role : ServerRole) (protocol : Protocol)
deriving DecidableEq

/-- Something that happened in the channel or in the switchboard. -/
inductive Happening
  | channel (occurrence : Occurrence)
  | board (notice : Notice Bool)

end Simulation

structure Simulation where
  channel : Channel
  coordinator : Coordinator Bool
  identity : Identity
  /-- The serial number by which the switchboard knows the channel, if it does. -/
  serial : Option Nat := none
  isOnline : Bool := true
  now : Nat := 0
  queue : List Command := []
  dials : List Nat := []
  agenda : Agenda Simulation.Task := {}
  /-- What has happened, the oldest first. -/
  log : List Simulation.Happening := []

namespace Simulation

/-- Nothing that is drawn at random ever leaves a client that never connects. -/
def fresh : Fresh :=
  { sessionKey := List.replicate sessionKeySize 0
    ephemeral := List.replicate agreementKeySize 0
    wrapNonce := List.replicate nonceSize 0
    payloadNonce := List.replicate nonceSize 0 }

def host (s : Simulation) : Host where
  suite := .standard
  now := s.now
  identity _ := s.identity
  draw _ := fresh
  compile _ _ := .ok []
  digest _ _ := .ok ()
  write _ _ := .error "unreachable"
  isOnline _ := s.isOnline
  decide _ status := s.coordinator.adviser.decision status

/-- What an occurrence in the channel sets off. -/
def follow (s : Simulation) (occurrence : Occurrence) : Simulation :=
  let s := { s with log := s.log ++ [.channel occurrence] }
  match occurrence with
  | .scheduled timer delay =>
    { s with agenda := s.agenda.add (s.now + delay.nanoseconds) (.openTimer timer) }
  | .cancelled timer => { s with agenda := s.agenda.remove (· == .openTimer timer) }
  | .dialed attempt _ => { s with dials := s.dials ++ [attempt] }
  | .serverFailed server => { s with coordinator := s.coordinator.serverFailed s.now server }
  | .serverConnected server => { s with coordinator := s.coordinator.serverConnected server }
  | .asked status _ => { s with coordinator := s.coordinator.asked status }
  | _ => s

def obey (s : Simulation) (command : Command) : Simulation :=
  let (channel, occurrences) := s.channel.handle s.host command
  occurrences.foldl follow { s with channel }

def send (s : Simulation) (command : Command) : Simulation :=
  { s with queue := s.queue ++ [command] }

/-- Gives the channel a checker. -/
def sendChecker (s : Simulation) (isOnline : Bool) : Simulation :=
  { s with isOnline }.send .bindChecker

def sendOrder (s : Simulation) : Order Bool → Simulation
  | .setServer server => s.send (.setServer server)
  | .setChecker isOnline => s.sendChecker isOnline
  | .sync transport => s.send (.sync (.ofList [transport]))
  | .syncAll => s.send .syncAll
  | .syncAck transport => s.send (.syncAck (.ofList [transport]))
  | .pause => s.send .pause
  | .resume => s.send .resume
  | .shutdown => s.send .shutdown

/-- What a notice of the switchboard sets off. -/
def heed (s : Simulation) (notice : Notice Bool) : Simulation :=
  let s := { s with log := s.log ++ [.board notice] }
  match notice with
  | .order serial order => if s.serial = some serial then s.sendOrder order else s
  | .retryList role protocol delay =>
    { s with agenda := s.agenda.add (s.now + delay.nanoseconds) (.restartList role protocol) }
  | .asked _ _ | .fatal _ => s

def afterRequest (s : Simulation) (result : Coordinator Bool × List (Notice Bool)) : Simulation :=
  result.2.foldl heed { s with coordinator := result.1 }

def request (s : Simulation) (r : Request Bool) : Simulation :=
  s.afterRequest (s.coordinator.request r)

def perform (s : Simulation) : Task → Simulation
  | .openTimer timer => s.send (.timerFired timer)
  | .restartList role protocol => s.request (.restartList role protocol)

/-- Does the next thing that can be done now. -/
def step? (s : Simulation) : Option Simulation :=
  match s.queue, s.coordinator.signals, s.dials with
  | command :: rest, _, _ => some ({ s with queue := rest }.obey command)
  | [], _ :: _, _ => some (s.afterRequest s.coordinator.takeSignal)
  | [], [], attempt :: rest =>
    some ({ s with dials := rest }.send (.dialEnded attempt (some (.socket "unreachable"))))
  | [], [], [] => (s.agenda.takeDue? s.now).map fun due => { s with agenda := due.2 }.perform due.1

/-- Does what can be done now, at most `fuel` things. -/
def settle : (fuel : Nat) → Simulation → Simulation
  | 0, s => s
  | fuel + 1, s =>
    match s.step? with
    | some next => settle fuel next
    | none => s

/-- Puts the clock forward at once; what was due meanwhile is done late. -/
def jump (fuel : Nat) (s : Simulation) (span : Duration) : Simulation :=
  settle fuel { s with now := s.now + span.nanoseconds }

/-- Lets time pass until `target`, with everything done at its own time. -/
def flowTo (target : Nat) : (fuel : Nat) → Simulation → Simulation
  | 0, s => { s with now := target }
  | fuel + 1, s =>
    match s.step? with
    | some next => flowTo target fuel next
    | none =>
      match s.agenda.nextTime? with
      | some time => if time ≤ target then flowTo target fuel { s with now := time }
        else { s with now := target }
      | none => { s with now := target }

def flow (fuel : Nat) (s : Simulation) (span : Duration) : Simulation :=
  flowTo (s.now + span.nanoseconds) fuel s

end Simulation

end DeviceUplink
