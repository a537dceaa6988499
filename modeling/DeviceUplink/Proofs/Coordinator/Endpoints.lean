import DeviceUplink.Proofs.Channel.Retargeting
import DeviceUplink.Proofs.Coordinator.Signals
import DeviceUplink.Proofs.Text.Partition

/-!
# Endpoints and addresses

A ledger tells servers apart by the text of their addresses; lists and channels compare host and
port. The port stands behind the last colon of an address, and it has one text, so an address has
one host and one port, whatever the host looks like. Hence all of them take the same servers for
the same.
-/

namespace DeviceUplink

namespace Server

variable {a b : Server}

theorem toList_address (s : Server) :
    s.address.toList = s.host.toList ++ ':' :: Nat.toDigits 10 s.port.toNat := by
  simp [address, Nat.toString_eq_repr, Nat.toList_repr]

/-- What stands behind the last colon is the port. -/
theorem splitLast_address (s : Server) :
    Text.splitLast ':' s.address.toList =
      some (s.host.toList, Nat.toDigits 10 s.port.toNat) := by
  rw [toList_address]
  apply Text.splitLast_append
  intro hColon
  have hDigit : ':'.isDigit = true := Nat.isDigit_of_mem_toDigits (by decide) (by decide) hColon
  revert hDigit
  decide

theorem address_eq_iff : a.address = b.address ↔ a.sameEndpoint b = true := by
  rw [sameEndpoint_iff]
  constructor
  · intro h
    have hParts : some (a.host.toList, Nat.toDigits 10 a.port.toNat) =
        some (b.host.toList, Nat.toDigits 10 b.port.toNat) := by
      rw [← splitLast_address, ← splitLast_address, h]
    simp only [Option.some.injEq, Prod.mk.injEq] at hParts
    obtain ⟨hHost, hPort⟩ := hParts
    refine ⟨String.toList_inj.mp hHost, UInt16.toNat_inj.mp ?_⟩
    have hRead := congrArg (Nat.ofDigitChars 10 · 0) hPort
    simpa only [Nat.ofDigitChars_ten_toDigits] using hRead
  · rintro ⟨hHost, hPort⟩
    rw [address, address, hHost, hPort]

theorem beq_address (a b : Server) : (a.address == b.address) = a.sameEndpoint b := by
  apply Bool.eq_iff_iff.mpr
  rw [beq_iff_eq, address_eq_iff]

end Server

namespace FailoverLedger

variable {a b server : Server}

def Call.concerns (server : Server) : Call → Bool
  | serverFailed _ other | serverConnected other =>
    other.sameEndpoint server && other.role = server.role
  | asked _ => false

/-- The failures at an endpoint in a role since a server last connected there. -/
def failuresThere (server : Server) (history : List Call) : Nat :=
  (history.reverse.takeWhile fun call => !(call.isConnection && call.concerns server)).countP
    fun call => call.isFailure && call.concerns server

theorem Call.isFailureOf_eq (server : Server) (call : Call) :
    call.isFailureOf server = (call.isFailure && call.concerns server) := by
  cases call with
  | serverFailed now other => simp [isFailureOf, isFailure, concerns, Server.address_eq_iff]
  | serverConnected | asked => rfl

theorem Call.isConnectionOf_eq (server : Server) (call : Call) :
    call.isConnectionOf server = (call.isConnection && call.concerns server) := by
  cases call with
  | serverConnected other => simp [isConnectionOf, isConnection, concerns, Server.address_eq_iff]
  | serverFailed | asked => rfl

theorem failuresSince_eq (server : Server) (history : List Call) :
    failuresSince server history = failuresThere server history := by
  simp only [failuresSince, failuresThere, Call.isFailureOf_eq, Call.isConnectionOf_eq]

/-- The signal that stands was for a server at this endpoint and is still recent. -/
def RepeatsThere (policy : FailoverPolicy) (record : List Entry) (now : Nat) (server : Server) :
    Prop :=
  ∃ instant other, Stands record server.role instant other ∧ other.sameEndpoint server = true ∧
    now - instant < policy.resolutionWindow.nanoseconds

theorem repeats_iff (policy : FailoverPolicy) (record : List Entry) (now : Nat) (server : Server) :
    Repeats policy record now server ↔ RepeatsThere policy record now server := by
  simp only [Repeats, RepeatsThere, Server.address_eq_iff]

variable (book : FailoverLedger)

theorem signalled_eq_not_isRepeated (now : Nat) (server : Server) :
    (book.serverFailed now server).2 = !book.isRepeated now server := by
  cases hRepeated : book.isRepeated now server with
  | true => rw [book.serverFailed_of_isRepeated hRepeated]; rfl
  | false => rw [book.serverFailed_of_not_isRepeated (by simp [hRepeated])]; rfl

/-- A failure counts for the servers of its role at its endpoint. -/
theorem failureCount_serverFailed (hRole : a.role = b.role) (now : Nat) :
    (book.serverFailed now a).1.failureCount b =
      book.failureCount b + if a.sameEndpoint b then 1 else 0 := by
  have hTaken := book.failureCount_take b (.serverFailed now a)
  simpa [take, Call.isConnectionOf, Call.isFailureOf, hRole, Server.address_eq_iff] using hTaken

theorem failureCount_serverConnected (hRole : a.role = b.role) :
    (book.serverConnected a).failureCount b =
      if a.sameEndpoint b then 0 else book.failureCount b := by
  have hTaken := book.failureCount_take b (.serverConnected a)
  simpa [take, Call.isConnectionOf, Call.isFailureOf, hRole, Server.address_eq_iff] using hTaken

/-- Within the window a signal holds back the reports from its endpoint and no other ones. -/
theorem signalled_after_signal (hRole : a.role = b.role) {now later : Nat}
    (hSignal : (book.serverFailed now a).2 = true)
    (hRecent : later - now < book.policy.resolutionWindow.nanoseconds) :
    ((book.serverFailed now a).1.serverFailed later b).2 = !a.sameEndpoint b := by
  rw [signalled_eq_not_isRepeated, Bool.not_eq_true'] at hSignal
  rw [signalled_eq_not_isRepeated, book.serverFailed_of_not_isRepeated (by simp [hSignal])]
  simp [isRepeated, noteSignal, countFailure, hRole, hRecent, Server.beq_address]

end FailoverLedger

namespace Switchboard

variable {Checker : Type} {b : Switchboard Checker} {l : ServerList} {current server : Server}

/-- A failure moves a list if it is one at the endpoint of the current server. -/
theorem serverFailed_moves_iff (answer : FailoverStatus → FailoverDecision)
    (hRunning : b.isShutDown = false) (hList : b.lists server.role server.protocol = some l)
    (hCurrent : l.current? = some current) :
    (serverFailed answer b server).1.lists server.role server.protocol =
      some { l with place := l.place + if current.sameEndpoint server then 1 else 0 } := by
  have hIs : l.isCurrent server = current.sameEndpoint server := by
    simp only [ServerList.isCurrent, hCurrent]
  cases hSame : current.sameEndpoint server with
  | true =>
    obtain ⟨notices, hMoved, _⟩ :=
      serverFailed_of_isCurrent answer hRunning hList (hIs.trans hSame)
    rw [hMoved]
    exact lists_putList _ _ _ _
  | false =>
    have hOther : ∀ other, b.lists server.role server.protocol = some other →
        other.isCurrent server = false := by
      intro other hOther
      rw [hList] at hOther
      cases hOther
      exact hIs.trans hSame
    rw [serverFailed_of_not_isCurrent answer hOther]
    exact hList

end Switchboard

theorem ServerList.endpointPlace?_eq (l : ServerList) (server : Server) :
    l.endpointPlace? server = l.servers.findIdx? fun s => s.address == server.address := by
  simp only [endpointPlace?, Server.beq_address]

namespace Channel

def isUnderWay (c : Channel) : Bool :=
  c.connection.isSome || c.attempt.isSome || c.reconnect.isSome

/-- What is under way goes on if the server that is set is at the same endpoint. -/
theorem handle_setServer_goes_on_iff {c : Channel} {current server : Server}
    (hRunning : c.phase ≠ .shutdown) (hPaused : c.phase ≠ .paused)
    (hCurrent : c.server = some current) (hUnderWay : c.isUnderWay = true) (host : Host) :
    c.handle host (.setServer server) = ({ c with server := some server }, []) ↔
      current.sameEndpoint server = true := by
  have hIs : c.isUnderWayTo server = (current.sameEndpoint server && c.isUnderWay) := by
    simp only [isUnderWayTo, isUnderWay, hCurrent, Option.any_some]
  rw [hUnderWay, Bool.and_true] at hIs
  cases hSame : current.sameEndpoint server with
  | true => simp only [handle_setServer_of_isUnderWayTo hRunning (hIs.trans hSame) host]
  | false =>
    rw [handle_setServer_of_elsewhere hRunning hPaused (hIs.trans hSame) host]
    simp only [Bool.false_eq_true, iff_false]
    intro hStays
    -- A channel that goes elsewhere starts a timer, so its log is not empty.
    have hEmpty : (Turn.retargeted host c server).log = [] := congrArg Prod.snd hStays
    have hLog := Turn.outward_retargeted host c server
    rw [hEmpty] at hLog
    simp [outward] at hLog

end Channel

/-- Text and comparison tell the same servers apart. A ledger goes by addresses: along every history
it counts the failures at an endpoint and holds back what repeats a signal for an endpoint, so of
two servers of a role one counts for the other, and is held back after the other, if they share host
and port. Lists and channels go by host and port: a failure moves a list, an update takes the place
of an entry, and what is under way goes on, if the addresses are the same. -/
theorem endpoints_told_apart_alike (Checker : Type) (a b : Server) :
    (a.address = b.address ↔ a.sameEndpoint b = true) ∧
    (∀ (policy : FailoverPolicy) (history : List FailoverLedger.Call) (now : Nat),
      let book := FailoverLedger.after { policy } history
      let record := FailoverLedger.record { policy } history
      book.failureCount b = FailoverLedger.failuresThere b history ∧
        ((book.serverFailed now b).2 = false ↔
          FailoverLedger.RepeatsThere policy record now b)) ∧
    (∀ (book : FailoverLedger) (now : Nat), a.role = b.role →
      let next := (book.serverFailed now a).1
      next.failureCount b = book.failureCount b + (if a.sameEndpoint b then 1 else 0) ∧
        (book.serverConnected a).failureCount b =
          (if a.sameEndpoint b then 0 else book.failureCount b) ∧
        ∀ later, (book.serverFailed now a).2 = true →
          later - now < book.policy.resolutionWindow.nanoseconds →
          ((next.serverFailed later b).2 = false ↔ a.sameEndpoint b = true)) ∧
    (∀ (answer : FailoverStatus → FailoverDecision) (board : Switchboard Checker) (l : ServerList),
      board.isShutDown = false → board.lists b.role b.protocol = some l → l.current? = some a →
      (Switchboard.serverFailed answer board b).1.lists b.role b.protocol =
        some { l with place := l.place + if a.address = b.address then 1 else 0 }) ∧
    (∀ l : ServerList, l.endpointPlace? b = l.servers.findIdx? fun s => s.address == b.address) ∧
    ∀ (host : Host) (c : Channel), c.phase ≠ .shutdown → c.phase ≠ .paused →
      c.server = some a → c.isUnderWay = true →
      (c.handle host (.setServer b) = ({ c with server := some b }, []) ↔
        a.address = b.address) := by
  refine ⟨Server.address_eq_iff, ?_, ?_, ?_, fun l => l.endpointPlace?_eq b, ?_⟩
  · intro policy history now book record
    have hPolicy : book.policy = policy := FailoverLedger.policy_after _ history
    have hRepeated :=
      book.isRepeated_iff (FailoverLedger.recollects_after policy history b.role) now
    rw [hPolicy, FailoverLedger.repeats_iff] at hRepeated
    refine ⟨?_, ?_⟩
    · rw [← FailoverLedger.failuresSince_eq]
      exact FailoverLedger.failureCount_after policy history b
    · rw [book.signalled_eq_not_isRepeated, Bool.not_eq_false', hRepeated]
  · intro book now hRole next
    refine ⟨book.failureCount_serverFailed hRole now, book.failureCount_serverConnected hRole, ?_⟩
    intro later hSignal hRecent
    rw [book.signalled_after_signal hRole hSignal hRecent, Bool.not_eq_false']
  · intro answer board l hRunning hList hCurrent
    rw [Switchboard.serverFailed_moves_iff answer hRunning hList hCurrent]
    simp only [Server.address_eq_iff]
  · intro host c hRunning hPaused hCurrent hUnderWay
    rw [Server.address_eq_iff]
    exact c.handle_setServer_goes_on_iff hRunning hPaused hCurrent hUnderWay host

end DeviceUplink
