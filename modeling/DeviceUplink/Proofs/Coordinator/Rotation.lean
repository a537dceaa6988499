import DeviceUplink.Proofs.Coordinator.Memory
import DeviceUplink.Proofs.Switchboard.Replies

/-!
# Rotation of server lists

A failure of the current server of a list moves the list on as soon as its signal is taken, however
many other events lie between. It is not signalled while the ledger remembers a signal for the same
address, even if the server has been made current again since. Whether a failure moves its list
therefore depends on the ledger and on the signals that wait, and on nothing else.
-/

namespace DeviceUplink

def Request.rearranges {Checker : Type} : Request Checker → Bool
  | .addChannel _ | .removeChannel _ | .shutdown | .setServers _ _ _ | .updateServer _
  | .restartList _ _ => true
  | _ => false

namespace Switchboard

variable {Checker : Type} {b : Switchboard Checker} {role : ServerRole} {protocol : Protocol}

/-- The channels have the current server of a list, or the failover has been asked about it. -/
def Served (members : List Member) (role : ServerRole) (l : ServerList)
    (notices : List (Notice Checker)) : Prop :=
  match l.current? with
  | some next => ∀ m ∈ members, m.role = next.role → m.protocol = next.protocol →
      .order m.serial (.setServer next) ∈ notices
  | none => ∃ decision, .asked (.exhausted role) decision ∈ notices

structure MovedOff (l : ServerList) (members : List Member) (role : ServerRole)
    (protocol : Protocol) (after : Switchboard Checker) (notices : List (Notice Checker)) :
    Prop where
  moved : ∃ current, after.lists role protocol = some current ∧ current.servers = l.servers ∧
    l.place < current.place ∧ Served members role current notices

theorem Served.mono {members : List Member} {l : ServerList} {notices more : List (Notice Checker)}
    (h : Served members role l notices) (hMore : notices ⊆ more) : Served members role l more := by
  unfold Served at h ⊢
  split at h
  · intro m hm hRole hProtocol
    exact hMore (h m hm hRole hProtocol)
  · obtain ⟨decision, hAsked⟩ := h
    exact ⟨decision, hMore hAsked⟩

theorem served_applyServer {l : ServerList} {next : Server} (h : l.current? = some next) :
    Served b.members role l (b.applyServer next) := by
  unfold Served
  rw [h]
  intro m hm hRole hProtocol
  refine List.mem_map.mpr ⟨m, ?_, rfl⟩
  simp [hm, hRole, hProtocol]

theorem served_exhaust (answer : FailoverStatus → FailoverDecision) {members : List Member}
    {l : ServerList} (h : l.current? = none) :
    Served members role l (exhaust answer role protocol : List (Notice Checker)) := by
  unfold Served
  rw [h]
  refine ⟨answer (.exhausted role), ?_⟩
  unfold exhaust
  simp only
  split <;> simp

def Hits (role : ServerRole) (protocol : Protocol) (l : ServerList) (server : Server) : Prop :=
  server.role = role ∧ server.protocol = protocol ∧ l.isCurrent server = true

/-- The failure of a current server moves its list to the next place. -/
theorem serverFailed_of_isCurrent (answer : FailoverStatus → FailoverDecision) {server : Server}
    {l : ServerList} (hRunning : b.isShutDown = false)
    (hList : b.lists server.role server.protocol = some l) (hCurrent : l.isCurrent server = true) :
    ∃ notices, serverFailed answer b server =
        (b.putList server.role server.protocol { l with place := l.place + 1 }, notices) ∧
      Served b.members server.role { l with place := l.place + 1 } notices := by
  simp only [serverFailed, hRunning, hList, hCurrent, if_true]
  cases hNext : ServerList.current? { l with place := l.place + 1 } with
  | some next => exact ⟨_, rfl, served_applyServer (b := b.putList _ _ _) hNext⟩
  | none => exact ⟨_, rfl, served_exhaust answer hNext⟩

/-- The failure of any other server changes nothing. -/
theorem serverFailed_of_not_isCurrent (answer : FailoverStatus → FailoverDecision)
    {server : Server}
    (h : ∀ l, b.lists server.role server.protocol = some l → l.isCurrent server = false) :
    serverFailed answer b server = (b, []) := by
  unfold serverFailed
  split
  · rfl
  · split
    · rfl
    · next l hList => simp [h l hList]

/-- A failure that hits a list moves it to the next place, and no other failure changes it. -/
theorem serverFailed_cases (answer : FailoverStatus → FailoverDecision) (server : Server)
    {l : ServerList} (hRunning : b.isShutDown = false) (hList : b.lists role protocol = some l) :
    let after := serverFailed answer b server
    after.1.isShutDown = false ∧ after.1.members = b.members ∧
      (¬ Hits role protocol l server ∧ after.1.lists role protocol = some l ∨
        Hits role protocol l server ∧
          after.1.lists role protocol = some { l with place := l.place + 1 } ∧
          Served b.members role { l with place := l.place + 1 } after.2) := by
  by_cases hCurrent : ∃ other, b.lists server.role server.protocol = some other ∧
      other.isCurrent server = true
  · obtain ⟨other, hOther, hCurrent⟩ := hCurrent
    obtain ⟨notices, hEq, hServed⟩ := serverFailed_of_isCurrent answer hRunning hOther hCurrent
    rw [hEq]
    refine ⟨hRunning, rfl, ?_⟩
    by_cases hKey : role = server.role ∧ protocol = server.protocol
    · obtain ⟨rfl, rfl⟩ := hKey
      rw [hOther] at hList
      cases hList
      exact .inr ⟨⟨rfl, rfl, hCurrent⟩, lists_putList _ _ _ _, hServed⟩
    · refine .inl ⟨?_, ?_⟩
      · rintro ⟨hRole, hProtocol, _⟩
        exact hKey ⟨hRole.symm, hProtocol.symm⟩
      · rw [← hList]
        exact lists_putList_of_ne _ hKey
  · have hOther : ∀ other, b.lists server.role server.protocol = some other →
        other.isCurrent server = false := by
      intro other hSome
      exact Bool.eq_false_iff.mpr fun hIs => hCurrent ⟨other, hSome, hIs⟩
    rw [serverFailed_of_not_isCurrent answer hOther]
    refine ⟨hRunning, rfl, .inl ⟨?_, hList⟩⟩
    rintro ⟨rfl, rfl, hIs⟩
    exact hCurrent ⟨l, hList, hIs⟩

theorem handle_same (answer : FailoverStatus → FailoverDecision) {r : Request Checker}
    (hr : r.rearranges = false) (hFailed : ¬ ∃ server, r = .serverFailed server) :
    let after := (b.handle answer r).1
    after.isShutDown = b.isShutDown ∧ after.members = b.members ∧ after.lists = b.lists := by
  cases r with
  | serverFailed server => exact absurd ⟨server, rfl⟩ hFailed
  | sync | syncAck | syncAll | syncRole | setChecker => exact ⟨rfl, rfl, rfl⟩
  | pause =>
    simp only [handle, pause]
    split <;> exact ⟨rfl, rfl, rfl⟩
  | resume =>
    simp only [handle, resume]
    split <;> exact ⟨rfl, rfl, rfl⟩
  | _ => cases hr

/-- The list moves on in time: the signal for its current server waits among these, or it has moved
already. -/
structure Underway (l : ServerList) (members : List Member) (role : ServerRole)
    (protocol : Protocol) (b : Switchboard Checker) (signals : List Server)
    (notices : List (Notice Checker)) : Prop where
  running : b.isShutDown = false
  sameMembers : b.members = members
  progress : (b.lists role protocol = some l ∧ ∃ server ∈ signals, Hits role protocol l server) ∨
    MovedOff l members role protocol b notices

namespace Underway

variable {l : ServerList} {members : List Member} {signals : List Server}
  {notices : List (Notice Checker)}

theorem mono (h : Underway l members role protocol b signals notices) {moreSignals : List Server}
    {moreNotices : List (Notice Checker)} (hSignals : signals ⊆ moreSignals)
    (hNotices : notices ⊆ moreNotices) :
    Underway l members role protocol b moreSignals moreNotices where
  running := h.running
  sameMembers := h.sameMembers
  progress := by
    rcases h.progress with ⟨hList, server, hServer, hHits⟩ | hMoved
    · exact .inl ⟨hList, server, hSignals hServer, hHits⟩
    · obtain ⟨current, hList, hServers, hPlace, hServed⟩ := hMoved
      exact .inr ⟨current, hList, hServers, hPlace, hServed.mono hNotices⟩

/-- The oldest signal is taken. -/
theorem serverFailed {server : Server}
    (h : Underway l members role protocol b (server :: signals) notices)
    (answer : FailoverStatus → FailoverDecision) :
    Underway l members role protocol (Switchboard.serverFailed answer b server).1 signals
      (notices ++ (Switchboard.serverFailed answer b server).2) := by
  rcases h.progress with ⟨hList, signal, hSignal, hHits⟩ | hMoved
  · obtain ⟨hRunning, hMembers, hStays | hMoves⟩ :=
      serverFailed_cases answer server h.running hList
    · refine ⟨hRunning, hMembers.trans h.sameMembers, .inl ⟨hStays.2, signal, ?_, hHits⟩⟩
      rcases List.mem_cons.mp hSignal with rfl | hRest
      · exact absurd hHits hStays.1
      · exact hRest
    · obtain ⟨_, hMoved, hServed⟩ := hMoves
      rw [h.sameMembers] at hServed
      exact ⟨hRunning, hMembers.trans h.sameMembers, .inr ⟨_, hMoved, rfl, Nat.lt_succ_self _,
        hServed.mono (List.subset_append_right _ _)⟩⟩
  · obtain ⟨current, hList, hServers, hPlace, hServed⟩ := hMoved
    obtain ⟨hRunning, hMembers, hStays | hMoves⟩ :=
      serverFailed_cases answer server h.running hList
    · exact ⟨hRunning, hMembers.trans h.sameMembers, .inr ⟨current, hStays.2, hServers, hPlace,
        hServed.mono (List.subset_append_left _ _)⟩⟩
    · obtain ⟨_, hNext, hServed⟩ := hMoves
      rw [h.sameMembers] at hServed
      exact ⟨hRunning, hMembers.trans h.sameMembers, .inr ⟨_, hNext, hServers,
        Nat.lt_succ_of_lt hPlace, hServed.mono (List.subset_append_right _ _)⟩⟩

theorem of_same {c : Switchboard Checker} (h : Underway l members role protocol b signals notices)
    (hRunning : c.isShutDown = b.isShutDown) (hMembers : c.members = b.members)
    (hLists : c.lists = b.lists) (more : List (Notice Checker)) :
    Underway l members role protocol c signals (notices ++ more) := by
  have hMore := h.mono (List.Subset.refl signals) (List.subset_append_left notices more)
  refine ⟨hRunning.trans h.running, hMembers.trans h.sameMembers, ?_⟩
  rcases hMore.progress with hWaiting | ⟨current, hList, hRest⟩
  · exact .inl (by rwa [hLists])
  · exact .inr ⟨current, by rwa [hLists], hRest⟩

theorem handle (h : Underway l members role protocol b signals notices)
    (answer : FailoverStatus → FailoverDecision) {r : Request Checker}
    (hr : r.rearranges = false) :
    Underway l members role protocol (b.handle answer r).1 signals
      (notices ++ (b.handle answer r).2) := by
  by_cases hFailed : ∃ server, r = .serverFailed server
  · obtain ⟨server, rfl⟩ := hFailed
    exact (h.mono (List.subset_cons_self server signals) (List.Subset.refl notices)).serverFailed
      answer
  · obtain ⟨hRunning, hMembers, hLists⟩ := handle_same (b := b) answer hr hFailed
    exact h.of_same hRunning hMembers hLists _

end Underway

end Switchboard

namespace Coordinator

variable {Checker : Type} {c : Coordinator Checker} {role : ServerRole} {protocol : Protocol}
  {l : ServerList}

def Event.rearranges : Event Checker → Bool
  | .request r => r.rearranges
  | _ => false

def Underway (l : ServerList) (members : List Member) (role : ServerRole) (protocol : Protocol)
    (c : Coordinator Checker) (notices : List (Notice Checker)) : Prop :=
  Switchboard.Underway l members role protocol c.board c.signals notices

namespace Underway

variable {members : List Member} {notices : List (Notice Checker)}

theorem handle (h : Underway l members role protocol c notices) {event : Event Checker}
    (hEvent : event.rearranges = false) :
    Underway l members role protocol (c.handle event).1 (notices ++ (c.handle event).2) := by
  cases event with
  | request r => exact Switchboard.Underway.handle h c.adviser.decision hEvent
  | serverFailed now server =>
    simp only [Coordinator.handle, Coordinator.serverFailed, List.append_nil]
    split
    · exact h.mono (List.subset_append_left _ _) (List.Subset.refl notices)
    · exact h
  | serverConnected server =>
    simp only [Coordinator.handle, List.append_nil]
    exact h
  | asked status =>
    simp only [Coordinator.handle, List.append_nil]
    exact h
  | takeSignal =>
    simp only [Coordinator.handle, takeSignal]
    split
    · rw [List.append_nil]
      exact h
    · next server rest hSignals =>
      unfold Underway at h
      rw [hSignals] at h
      exact h.serverFailed c.adviser.decision

theorem run (h : Underway l members role protocol c notices) {later : List (Event Checker)}
    (hLater : ∀ event ∈ later, event.rearranges = false) :
    Underway l members role protocol (c.run later).1 (notices ++ (c.run later).2) := by
  induction later generalizing c notices with
  | nil => simpa [Coordinator.run] using h
  | cons event rest ih =>
    have hNext := h.handle (hLater event List.mem_cons_self)
    have hRest := ih hNext fun other hOther => hLater other (List.mem_cons_of_mem _ hOther)
    rwa [List.append_assoc] at hRest

/-- No signal waits any more. -/
theorem movedOff (h : Underway l members role protocol c notices) (hTaken : c.signals = []) :
    Switchboard.MovedOff l members role protocol c.board notices := by
  rcases h.progress with ⟨_, server, hServer, _⟩ | hMoved
  · rw [hTaken] at hServer
    cases hServer
  · exact hMoved

end Underway

/-- Signals that do not hit a list leave it where it is. -/
theorem run_takeSignal {signals : List Server} (hSignals : c.signals = signals)
    (hRunning : c.board.isShutDown = false) (hList : c.board.lists role protocol = some l)
    (hMiss : ∀ signal ∈ signals, ¬ Switchboard.Hits role protocol l signal) :
    let after := (c.run (signals.map fun _ => .takeSignal)).1
    after.signals = [] ∧ after.board.lists role protocol = some l := by
  induction signals generalizing c with
  | nil => exact ⟨hSignals, hList⟩
  | cons signal rest ih =>
    obtain ⟨hStillRunning, _, hStays | hMoves⟩ :=
      Switchboard.serverFailed_cases c.adviser.decision signal hRunning hList
    · have hTake : (c.handle .takeSignal).1 = (request { c with signals := rest }
          (.serverFailed signal)).1 := by
        simp only [handle, takeSignal, hSignals]
      refine ih (c := (c.handle .takeSignal).1) ?_ ?_ ?_ ?_
      · rw [hTake]
        rfl
      · rw [hTake]
        exact hStillRunning
      · rw [hTake]
        exact hStays.2
      · intro other hOther
        exact hMiss other (List.mem_cons_of_mem _ hOther)
    · exact absurd hMoves.1 (hMiss signal List.mem_cons_self)

/-- The failure is dealt with in time if and only if some signal for the server waits. -/
theorem movedOff_iff_hits (hRunning : c.board.isShutDown = false)
    (hList : c.board.lists role protocol = some l) :
    (∀ later : List (Event Checker), (∀ event ∈ later, event.rearranges = false) →
      (c.run later).1.signals = [] →
      Switchboard.MovedOff l c.board.members role protocol (c.run later).1.board (c.run later).2) ↔
    ∃ signal ∈ c.signals, Switchboard.Hits role protocol l signal := by
  constructor
  · intro hMoves
    by_cases hHit : ∃ signal ∈ c.signals, Switchboard.Hits role protocol l signal
    · exact hHit
    · have hMiss : ∀ signal ∈ c.signals, ¬ Switchboard.Hits role protocol l signal := by
        intro signal hSignal hHits
        exact hHit ⟨signal, hSignal, hHits⟩
      -- Nothing but the taking of the signals has to happen for the list to be left behind.
      obtain ⟨hTaken, hStays⟩ := run_takeSignal rfl hRunning hList hMiss
      obtain ⟨current, hCurrent, _, hPlace, _⟩ := hMoves _ (by simp [Event.rearranges]) hTaken
      rw [hStays] at hCurrent
      cases hCurrent
      exact absurd hPlace (Nat.lt_irrefl _)
  · rintro ⟨signal, hSignal, hHits⟩ later hLater hTaken
    have hUnderway : Underway l c.board.members role protocol c [] :=
      ⟨hRunning, rfl, .inl ⟨hList, signal, hSignal, hHits⟩⟩
    simpa using (hUnderway.run hLater).movedOff hTaken

theorem signals_serverFailed {book : FailoverLedger} (h : c.adviser = .ledger book) (now : Nat)
    (server : Server) :
    (c.serverFailed now server).signals =
      c.signals ++ if book.isRepeated now server then [] else [server] := by
  unfold serverFailed FailoverAdviser.serverFailed FailoverLedger.serverFailed
  simp only [h]
  cases book.isRepeated now server <;> simp [signal]

/-- After any run, the failure of a current server moves its list on in time, unless the ledger
takes it for a repetition and no signal for the server waits. A repetition goes back to an earlier
failure of the address, but not necessarily to one since the list was last set. -/
theorem failure_moves_list_iff (policy : FailoverPolicy) (events : List (Event Checker)) (now : Nat)
    (server : Server) (l : ServerList)
    (hRunning : ((start policy).run events).1.board.isShutDown = false)
    (hList : ((start policy).run events).1.board.lists server.role server.protocol = some l)
    (hCurrent : l.isCurrent server = true) :
    let c := ((start policy).run events).1
    let told := c.serverFailed now server
    ∃ book, c.adviser = .ledger book ∧
      ((∀ later : List (Event Checker), (∀ event ∈ later, event.rearranges = false) →
          (told.run later).1.signals = [] →
          Switchboard.MovedOff l c.board.members server.role server.protocol
            (told.run later).1.board (told.run later).2) ↔
        book.isRepeated now server = false ∨
          ∃ signal ∈ c.signals, Switchboard.Hits server.role server.protocol l signal) ∧
      (book.isRepeated now server = true → ∃ before instant earlier after,
        events = before ++ .serverFailed instant earlier :: after ∧ earlier.role = server.role ∧
          earlier.address = server.address ∧
          now - instant < policy.resolutionWindow.nanoseconds ∧
          ∀ other, .serverConnected other ∈ after → other.role ≠ server.role) := by
  intro c told
  obtain ⟨book, hBook, hRecalls⟩ := (Recalls.start policy).run (c := start policy) rfl events
  have hBoard : told.board = c.board := by
    simp only [told, Coordinator.serverFailed]
    split <;> rfl
  have hIff := movedOff_iff_hits (c := told) (hBoard ▸ hRunning) (hBoard ▸ hList)
  rw [hBoard] at hIff
  refine ⟨book, hBook, hIff.trans ?_, ?_⟩
  · rw [signals_serverFailed hBook]
    cases hRepeated : book.isRepeated now server with
    | true => simp [c]
    | false =>
      simp only [true_or, iff_true]
      exact ⟨server, by simp, rfl, rfl, hCurrent⟩
  · intro hRepeated
    unfold FailoverLedger.isRepeated at hRepeated
    split at hRepeated
    · next address instant hLast =>
      simp only [Bool.and_eq_true, beq_iff_eq, decide_eq_true_eq] at hRepeated
      obtain ⟨hAddress, hWindow⟩ := hRepeated
      obtain ⟨before, earlier, after, hEvents, hRole, hSame, hAfter⟩ := hRecalls.told _ _ _ hLast
      rw [hRecalls.policy_eq] at hWindow
      exact ⟨before, instant, earlier, after, hEvents, hRole, hSame.trans hAddress, hWindow, hAfter⟩
    · cases hRepeated

def firstServer : Server := .operations "10.0.0.1" 1 []

def secondServer : Server := .operations "10.0.0.1" 2 []

/-- The first of two servers fails in a new list. -/
theorem first_failure_moves_list :
    let c := ((start {} : Coordinator Unit).run
      [.request (.setServers .operations .tcp [firstServer, secondServer])]).1
    let l : ServerList := { servers := [firstServer, secondServer] }
    c.board.isShutDown = false ∧ c.board.lists .operations .tcp = some l ∧
      l.isCurrent firstServer = true ∧
      ∀ later : List (Event Unit), (∀ event ∈ later, event.rearranges = false) →
        ((c.serverFailed 0 firstServer).run later).1.signals = [] →
        Switchboard.MovedOff l c.board.members .operations .tcp
          ((c.serverFailed 0 firstServer).run later).1.board
          ((c.serverFailed 0 firstServer).run later).2 := by
  intro c l
  let events : List (Event Unit) :=
    [.request (.setServers .operations .tcp [firstServer, secondServer])]
  have hIff := failure_moves_list_iff {} events 0 firstServer l rfl rfl (by decide)
  refine ⟨rfl, rfl, by decide, ?_⟩
  obtain ⟨book, hBook, hMoves, _⟩ := hIff
  cases hBook
  exact hMoves.mpr (.inl rfl)

def setAgain : List (Event Unit) :=
  [.request (.setServers .operations .tcp [firstServer, secondServer]),
    .serverFailed 0 firstServer, .takeSignal,
    .request (.setServers .operations .tcp [firstServer, secondServer])]

/-- The first server of the list is current again but its next failure is taken for a repetition,
so that the list stays where it is. -/
theorem failure_of_list_set_again_is_lost :
    ¬ ∀ (policy : FailoverPolicy) (events : List (Event Unit)) (now : Nat) (server : Server)
      (l : ServerList),
      let c := ((start policy).run events).1
      let told := c.serverFailed now server
      c.board.isShutDown = false → c.board.lists server.role server.protocol = some l →
      l.isCurrent server = true →
      ∀ later : List (Event Unit), (∀ event ∈ later, event.rearranges = false) →
        (told.run later).1.signals = [] →
        Switchboard.MovedOff l c.board.members server.role server.protocol
          (told.run later).1.board (told.run later).2 := by
  intro hMoves
  obtain ⟨current, hCurrent, _, hPlace, _⟩ :=
    hMoves {} setAgain 0 firstServer { servers := [firstServer, secondServer] } rfl rfl (by decide)
      [] (by simp) (by decide)
  have hStays : (((start {}).run setAgain).1.serverFailed 0 firstServer).board.lists .operations
      .tcp = some { servers := [firstServer, secondServer] } := rfl
  have hSame := hStays.symm.trans hCurrent
  cases hSame
  exact absurd hPlace (Nat.lt_irrefl 0)

end Coordinator

end DeviceUplink
