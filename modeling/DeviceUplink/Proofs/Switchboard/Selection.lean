import DeviceUplink.Proofs.Switchboard.Replies

/-!
# How long a selected server stays

A server that is made current stays so until it fails or its list is set or updated again, unless
the timer of an earlier exhaustion goes off: whatever has been selected since, that takes the list
back to its first server.
-/

namespace DeviceUplink

namespace Request

variable {Checker : Type}

def Selects (server : Server) : Request Checker → Prop
  | setServers role protocol (first :: _) =>
    first = server ∧ role = server.role ∧ protocol = server.protocol
  | updateServer s => s = server
  | _ => False

/-- It says anew which server is current in a list. -/
def Names (role : ServerRole) (protocol : Protocol) : Request Checker → Prop
  | setServers r p _ => r = role ∧ p = protocol
  | updateServer s => s.role = role ∧ s.protocol = protocol
  | _ => False

def Faults (server : Server) : Request Checker → Prop
  | serverFailed s =>
    s.role = server.role ∧ s.protocol = server.protocol ∧ s.sameEndpoint server = true
  | _ => False

end Request

namespace Switchboard

variable {Checker : Type} {answer : FailoverStatus → FailoverDecision}
  {b next : Switchboard Checker} {r : Request Checker} {notices : List (Notice Checker)}
  {server : Server} {pending : List (ServerRole × Protocol)}

def armed (notices : List (Notice Checker)) : List (ServerRole × Protocol) :=
  notices.filterMap fun
    | .retryList role protocol _ => some (role, protocol)
    | _ => none

def timersAfter (pending : List (ServerRole × Protocol)) (notices : List (Notice Checker)) :
    Request Checker → List (ServerRole × Protocol)
  | .restartList role protocol => pending.erase (role, protocol) ++ armed notices
  | _ => pending ++ armed notices

def timers (pending : List (ServerRole × Protocol)) (b : Switchboard Checker) :
    List (Answered Checker) → List (ServerRole × Protocol)
  | [] => pending
  | (answer, r) :: rest =>
    (b.handle answer r).1.timers (timersAfter pending (b.handle answer r).2 r) rest

/-- A list is restarted only when a timer for it goes off, at whatever time that is. -/
def Timely (pending : List (ServerRole × Protocol)) (b : Switchboard Checker) :
    List (Answered Checker) → Prop
  | [] => True
  | (answer, r) :: rest =>
    (∀ role protocol, r = .restartList role protocol → (role, protocol) ∈ pending) ∧
      Timely (timersAfter pending (b.handle answer r).2 r) (b.handle answer r).1 rest

theorem armed_tell (order : Order Checker) (members : List Member) :
    armed (tell order members) = [] := by
  simp [armed, tell]

theorem armed_welcome (b : Switchboard Checker) (member : Member) :
    armed (b.welcome member) = [] := by
  refine List.filterMap_eq_nil_iff.mpr fun notice hNotice => ?_
  simp only [welcome, List.mem_append, List.mem_map] at hNotice
  rcases hNotice with (⟨_, _, rfl⟩ | hPause) | ⟨_, _, rfl⟩
  · rfl
  · split at hPause
    · rw [List.mem_singleton.mp hPause]
    · cases hPause
  · rfl

theorem Reply.relisted_of_armed (h : Reply answer b r next notices) {role : ServerRole}
    {protocol : Protocol} (hArmed : (role, protocol) ∈ armed notices) :
    ∃ failed l, r = .serverFailed failed ∧ Relisted b r role protocol l := by
  cases h with
  | ignored | emptied => cases hArmed
  | added member =>
    rw [armed_welcome] at hArmed
    cases hArmed
  | removed | routed | paused | resumed | stopped | checked =>
    rw [armed_tell] at hArmed
    cases hArmed
  | served =>
    rw [applyServer, armed_tell] at hArmed
    cases hArmed
  | @exhausted failed other exhausted l h =>
    have hKey : (role, protocol) = (other, exhausted) := by
      unfold exhaust at hArmed
      simp only at hArmed
      split at hArmed
      · cases hArmed
      · exact List.mem_singleton.mp hArmed
      · cases hArmed
    cases hKey
    exact ⟨failed, l, rfl, h⟩

/-- The server is current, and no timer that goes off takes another one instead. -/
structure Stays (server : Server) (pending : List (ServerRole × Protocol))
    (b : Switchboard Checker) : Prop where
  matched : b.Matched
  current : ∃ l, b.lists server.role server.protocol = some l ∧ l.isCurrent server = true
  safe : b.isShutDown = true ∨ (server.role, server.protocol) ∉ pending ∨
    ∃ l first, b.lists server.role server.protocol = some l ∧ l.servers.head? = some first ∧
      first.sameEndpoint server = true

namespace Relisted

variable {l : ServerList}

/-- Only the failure of a current server moves its list. -/
theorem faults {failed : Server}
    (h : Relisted b (.serverFailed failed) server.role server.protocol l)
    (hCurrent : ∃ l, b.lists server.role server.protocol = some l ∧ l.isCurrent server = true) :
    (.serverFailed failed : Request Checker).Faults server := by
  obtain ⟨old, hOld, hServer⟩ := hCurrent
  generalize hRole : server.role = role, hProtocol : server.protocol = protocol at h hOld
  cases h with
  | rotated _ hList hFailed =>
    cases hList.symm.trans hOld
    obtain ⟨current, hIs, hSame⟩ := ServerList.isCurrent_iff.mp hServer
    obtain ⟨other, hOther, hSameFailed⟩ := ServerList.isCurrent_iff.mp hFailed
    cases hIs.symm.trans hOther
    exact ⟨hRole.symm, hProtocol.symm,
      Server.sameEndpoint_trans (Server.sameEndpoint_symm hSameFailed) hSame⟩

/-- What else moves the list of a current server is a timer. -/
theorem restarts (h : Relisted b r server.role server.protocol l)
    (hCurrent : ∃ l, b.lists server.role server.protocol = some l ∧ l.isCurrent server = true)
    (hNames : ¬ r.Names server.role server.protocol) (hFaults : ¬ r.Faults server) :
    r = .restartList server.role server.protocol ∧ b.isShutDown = false ∧
      ∃ old, b.lists server.role server.protocol = some old ∧ l = { old with place := 0 } := by
  by_cases hFailed : ∃ failed, r = .serverFailed failed
  · obtain ⟨failed, rfl⟩ := hFailed
    exact absurd (h.faults hCurrent) hFaults
  · generalize server.role = role, server.protocol = protocol at h hNames ⊢
    cases h with
    | set | updated => exact absurd ⟨rfl, rfl⟩ hNames
    | rotated => exact absurd ⟨_, rfl⟩ hFailed
    | restarted hRunning hList => exact ⟨rfl, hRunning, _, hList, rfl⟩

end Relisted

theorem mem_timersAfter {role : ServerRole} {protocol : Protocol}
    (h : (role, protocol) ∈ timersAfter pending notices r) :
    (role, protocol) ∈ pending ∨ (role, protocol) ∈ armed notices := by
  unfold timersAfter at h
  split at h
  · exact (List.mem_append.mp h).imp_left List.mem_of_mem_erase
  · exact List.mem_append.mp h

theorem Reply.stays (h : Reply answer b r next notices) (hb : Stays server pending b)
    (hTimely : ∀ role protocol, r = .restartList role protocol → (role, protocol) ∈ pending)
    (hMatched : r.IsMatched) (hNames : ¬ r.Names server.role server.protocol)
    (hFaults : ¬ r.Faults server) : Stays server (timersAfter pending notices r) next := by
  have hNext := h.matched hb.matched hMatched
  rcases h.lists_cases server.role server.protocol with hSame | ⟨l, hRelisted, hList⟩
  · refine ⟨hNext, by rw [hSame]; exact hb.current, ?_⟩
    rcases hb.safe with hDown | hNone | hFirst
    · exact .inl (h.isShutDown hDown)
    · refine .inr (.inl fun hTimer => ?_)
      rcases mem_timersAfter hTimer with hOld | hArmed
      · exact hNone hOld
      · obtain ⟨failed, l, rfl, hRelisted⟩ := h.relisted_of_armed hArmed
        exact hFaults (hRelisted.faults hb.current)
    · exact .inr (.inr (by rw [hSame]; exact hFirst))
  · obtain ⟨hRestarts, hRunning, old, hOld, rfl⟩ := hRelisted.restarts hb.current hNames hFaults
    -- The timer has been running, so the first server of the list is the one that is current.
    rcases hb.safe with hDown | hNone | ⟨listed, first, hListed, hFirst, hSame⟩
    · rw [hRunning] at hDown
      cases hDown
    · exact absurd (hTimely _ _ hRestarts) hNone
    · cases hOld.symm.trans hListed
      refine ⟨hNext, ⟨_, hList, ?_⟩, .inr (.inr ⟨_, first, hList, hFirst, hSame⟩)⟩
      refine ServerList.isCurrent_iff.mpr ⟨first, ?_, hSame⟩
      rw [← hFirst, List.head?_eq_getElem?]
      rfl

/-- A serial number stands for one channel. -/
def Consistent (channels : List Member) : Prop :=
  ∀ m ∈ channels, ∀ other ∈ channels, m.serial = other.serial → m = other

/-- The server is current after these requests, and meanwhile none of these channels that are for
its list has been handed a server with another endpoint. -/
def Keeps (server : Server) (channels : List Member) (b : Switchboard Checker)
    (requests : List (Answered Checker)) : Prop :=
  (∃ current, (b.run requests).1.currentServer? server.role server.protocol = some current ∧
    current.sameEndpoint server = true) ∧
  ∀ m ∈ channels, m.role = server.role → m.protocol = server.protocol →
    ∀ other, .order m.serial (.setServer other) ∈ (b.run requests).2 →
      other.sameEndpoint server = true

theorem Stays.currentServer (hb : Stays server pending b) :
    ∃ current, b.currentServer? server.role server.protocol = some current ∧
      current.sameEndpoint server = true := by
  obtain ⟨l, hList, hCurrent⟩ := hb.current
  obtain ⟨current, hIs, hSame⟩ := ServerList.isCurrent_iff.mp hCurrent
  refine ⟨current, ?_, hSame⟩
  rw [currentServer?, hList]
  exact hIs

theorem Stays.keeps {channels : List Member} {later : List (Answered Checker)}
    (hb : Stays server pending b) (hTimely : Timely pending b later)
    (hLater : ∀ p ∈ later, p.2.IsMatched ∧ ¬ p.2.Names server.role server.protocol ∧
      ¬ p.2.Faults server)
    (hChannels : Consistent channels) (hMembers : b.members ⊆ channels)
    (hAdded : added later ⊆ channels) : Keeps server channels b later := by
  induction later generalizing b pending with
  | nil => exact ⟨hb.currentServer, fun _ _ _ _ _ hHanded => absurd hHanded List.not_mem_nil⟩
  | cons request rest ih =>
    obtain ⟨answer, r⟩ := request
    obtain ⟨hFires, hTimelyRest⟩ := hTimely
    obtain ⟨hMatched, hNames, hFaults⟩ := hLater _ List.mem_cons_self
    have hReply := reply_handle answer b r
    have hNext := hReply.stays hb hFires hMatched hNames hFaults
    have hMembersNext : (b.handle answer r).1.members ⊆ channels := by
      intro m hm
      rcases hReply.mem_members hm with hOld | rfl
      · exact hMembers hOld
      · exact hAdded (mem_added_cons.mpr (.inl rfl))
    obtain ⟨hCurrent, hRest⟩ := ih hNext hTimelyRest
      (fun p hp => hLater p (List.mem_cons_of_mem _ hp)) hMembersNext
      fun m hm => hAdded (mem_added_cons.mpr (.inr hm))
    refine ⟨hCurrent, ?_⟩
    intro m hm hRole hProtocol other hHanded
    rcases List.mem_append.mp hHanded with hNow | hThen
    · obtain ⟨m', hm', hSerial, hOther⟩ := hReply.holds hNext.matched rfl hNow
      obtain rfl := hChannels m' (hMembersNext hm') m hm hSerial
      obtain ⟨current, hIs, hSame⟩ := hNext.currentServer
      rw [Holds, hRole, hProtocol, hIs] at hOther
      cases hOther
      exact hSame
    · exact hRest m hm hRole hProtocol other hThen

theorem current_of_selects (h : r.Selects server) :
    ∃ l, (b.handle answer r).1.lists server.role server.protocol = some l ∧
      l.isCurrent server = true := by
  cases r with
  | setServers role protocol servers =>
    cases servers with
    | nil => cases h
    | cons first rest =>
      obtain ⟨rfl, rfl, rfl⟩ := h
      exact ⟨_, lists_putList b _ _ _,
        ServerList.isCurrent_iff.mpr ⟨first, rfl, first.sameEndpoint_refl⟩⟩
  | updateServer s =>
    obtain rfl := h
    exact ⟨_, lists_putList b _ _ _,
      ServerList.isCurrent_iff.mpr ⟨s, ServerList.current?_select _ s, s.sameEndpoint_refl⟩⟩
  | _ => cases h

theorem added_of_selects (h : r.Selects server) (requests : List (Answered Checker)) :
    added (requests ++ [(answer, r)]) = added requests := by
  rw [added_append]
  cases r with
  | addChannel => cases h
  | _ => exact List.append_nil _

/-- From the moment when a server is made current it stays so, until its failure is reported or its
list is set or updated again, unless and only unless a timer for the list still runs and the list
does not start with that server. After a shutdown it stays in any case. -/
theorem selection_stays_iff {requests : List (Answered Checker)}
    {answer : FailoverStatus → FailoverDecision} {r : Request Checker} {server : Server}
    (hSelects : r.Selects server)
    (hMatched : ∀ p ∈ requests ++ [(answer, r)], p.2.IsMatched)
    (hChannels : Consistent (added requests)) :
    let start : Switchboard Checker := {}
    let b := (start.run (requests ++ [(answer, r)])).1
    let pending := start.timers [] (requests ++ [(answer, r)])
    (∀ later, Timely pending b later →
        (∀ p ∈ later, p.2.IsMatched ∧ ¬ p.2.Names server.role server.protocol ∧
          ¬ p.2.Faults server) →
        Consistent (added requests ++ added later) →
        Keeps server (added requests ++ added later) b later) ↔
      b.isShutDown = true ∨ (server.role, server.protocol) ∉ pending ∨
        ∃ l first, b.lists server.role server.protocol = some l ∧ l.servers.head? = some first ∧
          first.sameEndpoint server = true := by
  intro start b pending
  have hMembers : b.members ⊆ added requests := by
    intro m hm
    rcases mem_members_run hm with hNew | hAdded
    · cases hNew
    · rwa [added_of_selects hSelects] at hAdded
  obtain ⟨l, hList, hCurrent⟩ : ∃ l, b.lists server.role server.protocol = some l ∧
      l.isCurrent server = true := by
    simp only [b, run_append, run]
    exact current_of_selects hSelects
  constructor
  · intro hKeeps
    by_cases hTimer : b.isShutDown = false ∧ (server.role, server.protocol) ∈ pending
    · obtain ⟨hRunning, hPending⟩ := hTimer
      -- The timer goes off at once.
      obtain ⟨⟨current, hNow, hSame⟩, _⟩ :=
        hKeeps [(answer, .restartList server.role server.protocol)]
          ⟨by simpa using hPending, trivial⟩ (by simp [Request.IsMatched, Request.Names,
            Request.Faults]) (by simpa [added] using hChannels)
      have hRestarted : (b.restartList server.role server.protocol).1.lists server.role
          server.protocol = some { l with place := 0 } := by
        simp only [restartList, hRunning, hList, Bool.false_eq_true, if_false]
        split <;> exact lists_putList b _ _ _
      simp only [run, handle, currentServer?, hRestarted, Option.bind_some] at hNow
      exact .inr (.inr ⟨l, current, hList, by rw [List.head?_eq_getElem?]; exact hNow, hSame⟩)
    · cases hRunning : b.isShutDown with
      | true => exact .inl rfl
      | false => exact .inr (.inl fun hPending => hTimer ⟨hRunning, hPending⟩)
  · intro hSafe later hTimely hLater hConsistent
    have hStays : Stays server pending b :=
      ⟨matched_run matched_new hMatched, ⟨l, hList, hCurrent⟩, hSafe⟩
    exact hStays.keeps hTimely hLater hConsistent
      (List.Subset.trans hMembers (List.subset_append_left _ _)) (List.subset_append_right _ _)

def exhaustion : List (Answered Unit) :=
  answered (.retry .zero) [.setServers .operations .tcp [operationsServer 1, operationsServer 2],
    .serverFailed (operationsServer 1), .serverFailed (operationsServer 2)]

theorem isMatched_exhaustion {server : Server} (answer : FailoverStatus → FailoverDecision) :
    ∀ p ∈ exhaustion ++ [(answer, .updateServer server)], p.2.IsMatched := by
  intro p hp
  simp only [exhaustion, answered, List.map_cons, List.map_nil, List.cons_append, List.nil_append,
    List.mem_cons, List.not_mem_nil, or_false] at hp
  rcases hp with rfl | rfl | rfl | rfl
  · intro s hs
    simp only [List.mem_cons, List.not_mem_nil, or_false] at hs
    rcases hs with rfl | rfl <;> exact ⟨rfl, rfl⟩
  all_goals trivial

theorem first_server_outlives_timer :
    let server := operationsServer 1
    let requests : List (Answered Unit) := exhaustion ++ [(fun _ => .noop, .updateServer server)]
    let b := (({} : Switchboard Unit).run requests).1
    let pending := ({} : Switchboard Unit).timers [] requests
    (.updateServer server : Request Unit).Selects server ∧ (∀ p ∈ requests, p.2.IsMatched) ∧
      Consistent (added exhaustion) ∧ (ServerRole.operations, Protocol.tcp) ∈ pending ∧
      ∀ later, Timely pending b later →
        (∀ p ∈ later, p.2.IsMatched ∧ ¬ p.2.Names .operations .tcp ∧ ¬ p.2.Faults server) →
        Consistent (added exhaustion ++ added later) →
        Keeps server (added exhaustion ++ added later) b later := by
  intro server requests b pending
  have hMatched : ∀ p ∈ requests, p.2.IsMatched := isMatched_exhaustion _
  have hChannels : Consistent (added exhaustion) := by
    intro m hm
    cases hm
  have hIff := @selection_stays_iff Unit exhaustion (fun _ => .noop) (.updateServer server) server
    rfl hMatched hChannels
  refine ⟨rfl, hMatched, hChannels, by decide, hIff.mpr (.inr (.inr ?_))⟩
  exact ⟨_, operationsServer 1, rfl, rfl, by decide⟩

/-- The second server of an exhausted list is selected before the timer of the list goes off, which
makes the first server current all the same. -/
theorem stale_timer_overrides_selection :
    ¬ ∀ (requests later : List (Answered Unit)) (answer : FailoverStatus → FailoverDecision)
      (r : Request Unit) (server : Server),
      let start : Switchboard Unit := {}
      let b := (start.run (requests ++ [(answer, r)])).1
      let pending := start.timers [] (requests ++ [(answer, r)])
      r.Selects server → Timely [] start (requests ++ [(answer, r)]) → Timely pending b later →
      (∀ p ∈ requests ++ [(answer, r)], p.2.IsMatched) →
      (∀ p ∈ later, p.2.IsMatched ∧ ¬ p.2.Names server.role server.protocol ∧
        ¬ p.2.Faults server) →
      Consistent (added requests ++ added later) →
      Keeps server (added requests ++ added later) b later := by
  intro hKeeps
  let answer : FailoverStatus → FailoverDecision := fun _ => .noop
  have hPast : Timely [] ({} : Switchboard Unit)
      (exhaustion ++ [(answer, .updateServer (operationsServer 2))]) := by
    refine ⟨?_, ?_, ?_, ?_, trivial⟩ <;> rintro _ _ ⟨⟩
  obtain ⟨⟨current, hNow, hSame⟩, _⟩ :=
    hKeeps exhaustion [(answer, .restartList .operations .tcp)] answer
      (.updateServer (operationsServer 2)) (operationsServer 2) rfl hPast
      ⟨by rintro _ _ ⟨⟩; decide, trivial⟩ (isMatched_exhaustion _)
      (by simp [Request.IsMatched, Request.Names, Request.Faults])
      (by rintro m ⟨⟩)
  have hFirst : (some (operationsServer 1) : Option Server) = some current := hNow
  cases hFirst
  exact absurd hSame (by decide)

end Switchboard

end DeviceUplink
