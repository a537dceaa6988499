import DeviceUplink.Proofs.Coordinator.Rotation
import DeviceUplink.Proofs.Switchboard.Selection

/-!
# Passes through a list

A list of servers is gone through one entry at a time: only the failure of its current entry moves
it, to the next one, and the failover is asked once the last has failed. Whatever else is reported,
and however often, each pass has every server once. That holds as long as no timer is left from a
list that was there before: such a timer breaks off the pass in which it goes off.
-/

namespace DeviceUplink

deriving instance DecidableEq for ServerList

def Request.concerns {Checker : Type} (role : ServerRole) (protocol : Protocol) :
    Request Checker → Bool
  | serverFailed s => s.role = role ∧ s.protocol = protocol
  | restartList r p => r = role ∧ p = protocol
  | _ => false

/-- A step of a list: a server becomes current, or the failover is asked. -/
inductive Visit
  | entered (server : Server)
  | asked (decision : FailoverDecision)
deriving DecidableEq

/-- The steps of a list, pass by pass. There is another pass only after a retry. -/
inductive Passes (servers : List Server) : List Visit → Prop
  | partway (count : Nat) : Passes servers ((servers.take count).map .entered)
  | ended (decision : FailoverDecision) :
      Passes servers (servers.map .entered ++ [.asked decision])
  | again (delay : Duration) {more : List Visit} (hMore : Passes servers more) :
      Passes servers (servers.map .entered ++ .asked (.retry delay) :: more)

theorem Passes.entered_of_unasked {servers : List Server} {visits : List Visit}
    (h : Passes servers visits) (hUnasked : ∀ decision, .asked decision ∉ visits) :
    ∃ count, visits = (servers.take count).map .entered := by
  cases h with
  | partway count => exact ⟨count, rfl⟩
  | ended decision => exact absurd (by simp) (hUnasked decision)
  | again delay => exact absurd (by simp) (hUnasked (.retry delay))

theorem Passes.retry_of_more {servers : List Server} {decision : FailoverDecision} {visit : Visit}
    {more : List Visit}
    (h : Passes servers (servers.map .entered ++ .asked decision :: visit :: more)) :
    ∃ delay, decision = .retry delay := by
  generalize hVisits : servers.map .entered ++ .asked decision :: visit :: more = visits at h
  cases h with
  | partway count =>
    have hAsked : .asked decision ∈ (servers.take count).map Visit.entered := by simp [← hVisits]
    obtain ⟨_, _, hEntered⟩ := List.mem_map.mp hAsked
    cases hEntered
  | ended => simp at hVisits
  | again delay =>
    simp only [List.append_cancel_left_eq, List.cons.injEq, Visit.asked.injEq] at hVisits
    exact ⟨delay, hVisits.1⟩

namespace Switchboard

variable {Checker : Type}

def consults (notices : List (Notice Checker)) : List FailoverDecision :=
  notices.filterMap fun
    | .asked _ decision => some decision
    | _ => none

/-- The server that a request makes current in a list, and the answers of the failover about it. -/
def visit (role : ServerRole) (protocol : Protocol) (b : Switchboard Checker)
    (request : Answered Checker) : List Visit :=
  let (next, notices) := b.handle request.1 request.2
  let current := if next.lists role protocol = b.lists role protocol then none
    else next.currentServer? role protocol
  let decisions := if request.2.concerns role protocol then consults notices else []
  current.toList.map .entered ++ decisions.map .asked

def visits (role : ServerRole) (protocol : Protocol) (b : Switchboard Checker) :
    List (Answered Checker) → List Visit
  | [] => []
  | request :: rest =>
    visit role protocol b request ++
      visits role protocol (b.handle request.1 request.2).1 rest

def handOut (b : Switchboard Checker) (role : ServerRole) (protocol : Protocol) (server : Server) :
    List (Notice Checker) :=
  tell (.setServer server) (b.members.filter fun m => m.role = role ∧ m.protocol = protocol)

def consequences (role : ServerRole) (protocol : Protocol) :
    FailoverDecision → List (Notice Checker)
  | .noop => []
  | .retry delay => [.retryList role protocol delay]
  | .stop => [.fatal (.exhausted role)]

/-- How a request moves a list of servers from one place to another. -/
inductive Rotates (answer : FailoverStatus → FailoverDecision) (b : Switchboard Checker)
    (role : ServerRole) (protocol : Protocol) (servers : List Server) (place : Nat) :
    Request Checker → Nat → Switchboard Checker → List (Notice Checker) → Prop
  | advanced {server current successor : Server} (hRole : server.role = role)
      (hProtocol : server.protocol = protocol) (hCurrent : servers[place]? = some current)
      (hSame : current.sameEndpoint server = true)
      (hNext : servers[place + 1]? = some successor) :
      Rotates answer b role protocol servers place (.serverFailed server) (place + 1)
        (b.putList role protocol { servers, place := place + 1 })
        (b.handOut role protocol successor)
  | exhausted {server current : Server} (hRole : server.role = role)
      (hProtocol : server.protocol = protocol) (hCurrent : servers[place]? = some current)
      (hSame : current.sameEndpoint server = true) (hLast : servers.length = place + 1) :
      Rotates answer b role protocol servers place (.serverFailed server) (place + 1)
        (b.putList role protocol { servers, place := place + 1 })
        (.asked (.exhausted role) (answer (.exhausted role)) ::
          consequences role protocol (answer (.exhausted role)))
  | ignored {server : Server} (hRole : server.role = role) (hProtocol : server.protocol = protocol)
      (hOther : ∀ current, servers[place]? = some current → current.sameEndpoint server = false) :
      Rotates answer b role protocol servers place (.serverFailed server) place b []
  | restarted {first : Server} (hExhausted : place = servers.length)
      (hFirst : servers[0]? = some first) :
      Rotates answer b role protocol servers place (.restartList role protocol) 0
        (b.putList role protocol { servers }) (b.handOut role protocol first)
  | elsewhere {r : Request Checker} {next : Switchboard Checker} {notices : List (Notice Checker)}
      (hOther : r.concerns role protocol = false)
      (hList : next.lists role protocol = b.lists role protocol) :
      Rotates answer b role protocol servers place r place next notices

variable {answer : FailoverStatus → FailoverDecision} {b next : Switchboard Checker}
  {r : Request Checker} {notices : List (Notice Checker)} {role : ServerRole} {protocol : Protocol}
  {servers : List Server} {place place' : Nat} {pending : List (ServerRole × Protocol)}

theorem exhaust_eq (answer : FailoverStatus → FailoverDecision) (role : ServerRole)
    (protocol : Protocol) :
    (exhaust answer role protocol : List (Notice Checker)) =
      .asked (.exhausted role) (answer (.exhausted role)) ::
        consequences role protocol (answer (.exhausted role)) := by
  unfold exhaust consequences
  simp only
  split <;> simp_all

theorem Reply.isShutDown_eq (h : Reply answer b r next notices) (hr : r ≠ .shutdown) :
    next.isShutDown = b.isShutDown := by
  cases h with
  | stopped => exact absurd rfl hr
  | _ => rfl

/-- A list is in its place, and its timer runs only while it is exhausted. -/
structure Rotating (role : ServerRole) (protocol : Protocol) (servers : List Server) (place : Nat)
    (pending : List (ServerRole × Protocol)) (b : Switchboard Checker) : Prop where
  running : b.isShutDown = false
  list : b.lists role protocol = some { servers, place }
  within : place ≤ servers.length
  idle : place < servers.length → (role, protocol) ∉ pending
  once : pending.count (role, protocol) ≤ 1

theorem handOut_eq (b : Switchboard Checker) {server : Server} (hRole : server.role = role)
    (hProtocol : server.protocol = protocol) :
    b.applyServer server = b.handOut role protocol server := by
  subst hRole hProtocol
  rfl

theorem lists_of_not_concerns (h : Reply answer b r next notices)
    (hNames : ¬ r.Names role protocol) (hOther : r.concerns role protocol = false) :
    next.lists role protocol = b.lists role protocol := by
  rcases h.lists_cases role protocol with hSame | ⟨l, hRelisted, _⟩
  · exact hSame
  · cases hRelisted with
    | set | updated => exact absurd ⟨rfl, rfl⟩ hNames
    | rotated | restarted => simp [Request.concerns] at hOther

theorem armed_of_not_concerns (h : Reply answer b r next notices)
    (hOther : r.concerns role protocol = false) : (role, protocol) ∉ armed notices := by
  intro hArmed
  obtain ⟨failed, l, rfl, hRelisted⟩ := h.relisted_of_armed hArmed
  cases hRelisted with
  | rotated => simp [Request.concerns] at hOther

theorem timersAfter_serverFailed (pending : List (ServerRole × Protocol))
    (notices : List (Notice Checker)) (server : Server) :
    timersAfter pending notices (.serverFailed server) = pending ++ armed notices :=
  rfl

theorem timersAfter_restartList (pending : List (ServerRole × Protocol))
    (notices : List (Notice Checker)) (role : ServerRole) (protocol : Protocol) :
    timersAfter pending notices (.restartList role protocol) =
      pending.erase (role, protocol) ++ armed notices :=
  rfl

theorem count_armed_exhaust (answer : FailoverStatus → FailoverDecision) (role : ServerRole)
    (protocol : Protocol) :
    (armed (exhaust answer role protocol : List (Notice Checker))).count (role, protocol) ≤ 1 := by
  rw [exhaust_eq]
  cases answer (.exhausted role) <;> simp [consequences, armed]

theorem count_timersAfter_of_not_concerns (h : Reply answer b r next notices)
    (hOther : r.concerns role protocol = false) :
    (timersAfter pending notices r).count (role, protocol) = pending.count (role, protocol) := by
  have hArmed := List.count_eq_zero.mpr (armed_of_not_concerns h hOther)
  unfold timersAfter
  split
  · next other p =>
    have hNe : (other, p) ≠ (role, protocol) := by
      rintro ⟨⟩
      simp [Request.concerns] at hOther
    rw [List.count_append, hArmed, List.count_erase_of_ne hNe.symm, Nat.add_zero]
  · rw [List.count_append, hArmed, Nat.add_zero]

namespace Rotating

theorem not_isCurrent {server : Server}
    (h : Rotating server.role server.protocol servers place pending b)
    (hOther : ∀ current, servers[place]? = some current → current.sameEndpoint server = false) :
    ∀ l, b.lists server.role server.protocol = some l → l.isCurrent server = false := by
  intro l hList
  cases h.list.symm.trans hList
  refine Bool.eq_false_iff.mpr fun hIs => ?_
  obtain ⟨current, hCurrent, hSame⟩ := ServerList.isCurrent_iff.mp hIs
  rw [hOther current hCurrent] at hSame
  cases hSame

theorem serverFailed (h : Rotating role protocol servers place pending b)
    (hMatched : ∀ s ∈ servers, s.role = role ∧ s.protocol = protocol)
    (answer : FailoverStatus → FailoverDecision) {server : Server}
    (hRole : server.role = role) (hProtocol : server.protocol = protocol) :
    ∃ place', Rotates answer b role protocol servers place (.serverFailed server) place'
      (serverFailed answer b server).1 (serverFailed answer b server).2 := by
  subst hRole hProtocol
  by_cases hCurrent : ∃ current, servers[place]? = some current ∧ current.sameEndpoint server = true
  · obtain ⟨current, hCurrent, hSame⟩ := hCurrent
    have hIs : ServerList.isCurrent { servers, place } server = true :=
      ServerList.isCurrent_iff.mpr ⟨current, hCurrent, hSame⟩
    refine ⟨place + 1, ?_⟩
    simp only [Switchboard.serverFailed, h.running, h.list, hIs, Bool.false_eq_true, if_false,
      if_true, ServerList.current?]
    cases hNext : servers[place + 1]? with
    | some successor =>
      obtain ⟨hRole, hProtocol⟩ := hMatched successor (List.mem_of_getElem? hNext)
      dsimp only
      rw [handOut_eq _ hRole hProtocol]
      exact .advanced rfl rfl hCurrent hSame hNext
    | none =>
      have hPlace := (List.getElem?_eq_some_iff.mp hCurrent).1
      have hEnd := List.getElem?_eq_none_iff.mp hNext
      dsimp only
      rw [exhaust_eq]
      exact .exhausted rfl rfl hCurrent hSame (by omega)
  · have hOther : ∀ current, servers[place]? = some current →
        current.sameEndpoint server = false := by
      intro current hIs
      exact Bool.eq_false_iff.mpr fun hSame => hCurrent ⟨current, hIs, hSame⟩
    refine ⟨place, ?_⟩
    rw [serverFailed_of_not_isCurrent answer (h.not_isCurrent hOther)]
    exact .ignored rfl rfl hOther

theorem restartList (h : Rotating role protocol servers place pending b)
    (hMatched : ∀ s ∈ servers, s.role = role ∧ s.protocol = protocol) (hServers : servers ≠ [])
    (answer : FailoverStatus → FailoverDecision) (hTimer : (role, protocol) ∈ pending) :
    Rotates answer b role protocol servers place (.restartList role protocol) 0
      (b.restartList role protocol).1 (b.restartList role protocol).2 := by
  have hExhausted : place = servers.length :=
    Nat.le_antisymm h.within (Nat.le_of_not_lt fun hPlace => h.idle hPlace hTimer)
  obtain ⟨first, rest, rfl⟩ := List.exists_cons_of_ne_nil hServers
  obtain ⟨hRole, hProtocol⟩ := hMatched first List.mem_cons_self
  simp only [Switchboard.restartList, h.running, h.list, Bool.false_eq_true, if_false]
  rw [handOut_eq _ hRole hProtocol]
  exact .restarted hExhausted rfl

theorem handle (h : Rotating role protocol servers place pending b)
    (hMatched : ∀ s ∈ servers, s.role = role ∧ s.protocol = protocol) (hServers : servers ≠ [])
    (answer : FailoverStatus → FailoverDecision) (hNames : ¬ r.Names role protocol)
    (hTimely : ∀ role protocol, r = .restartList role protocol → (role, protocol) ∈ pending) :
    ∃ place', Rotates answer b role protocol servers place r place' (b.handle answer r).1
      (b.handle answer r).2 := by
  cases hConcerns : r.concerns role protocol with
  | false =>
    exact ⟨place, .elsewhere hConcerns
      (lists_of_not_concerns (reply_handle answer b r) hNames hConcerns)⟩
  | true =>
    cases r with
    | serverFailed server =>
      obtain ⟨hRole, hProtocol⟩ := of_decide_eq_true hConcerns
      exact h.serverFailed hMatched answer hRole hProtocol
    | restartList other p =>
      obtain ⟨rfl, rfl⟩ := of_decide_eq_true hConcerns
      exact ⟨0, h.restartList hMatched hServers answer (hTimely _ _ rfl)⟩
    | _ => cases hConcerns

/-- The list is in its place after each request too. -/
theorem rotates (h : Rotating role protocol servers place pending b)
    (hReply : Reply answer b r next notices) (hr : r ≠ .shutdown)
    (hRotates : Rotates answer b role protocol servers place r place' next notices) :
    Rotating role protocol servers place' (timersAfter pending notices r) next := by
  have hRunning := (hReply.isShutDown_eq hr).trans h.running
  cases hRotates with
  | advanced _ _ _ _ hNext =>
    have hPlace := (List.getElem?_eq_some_iff.mp hNext).1
    rw [timersAfter_serverFailed, handOut, armed_tell, List.append_nil]
    exact ⟨hRunning, lists_putList _ _ _ _, Nat.le_of_lt hPlace, fun _ => h.idle (by omega), h.once⟩
  | exhausted _ _ _ _ hLast =>
    have hNone := List.count_eq_zero.mpr (h.idle (by omega))
    refine ⟨hRunning, lists_putList _ _ _ _, Nat.le_of_eq hLast.symm, by omega, ?_⟩
    rw [timersAfter_serverFailed, ← exhaust_eq, List.count_append, hNone, Nat.zero_add]
    exact count_armed_exhaust answer role protocol
  | ignored =>
    rw [timersAfter_serverFailed, armed, List.filterMap_nil, List.append_nil]
    exact ⟨hRunning, h.list, h.within, h.idle, h.once⟩
  | restarted hExhausted hFirst =>
    have hOnce := h.once
    have hNone : (pending.erase (role, protocol)).count (role, protocol) = 0 := by
      rw [List.count_erase_self]
      omega
    rw [timersAfter_restartList, handOut, armed_tell, List.append_nil]
    exact ⟨hRunning, lists_putList _ _ _ _, Nat.zero_le _, fun _ => List.count_eq_zero.mp hNone,
      by omega⟩
  | elsewhere hOther hList =>
    have hCount : (timersAfter pending notices r).count (role, protocol) =
        pending.count (role, protocol) := count_timersAfter_of_not_concerns hReply hOther
    refine ⟨hRunning, hList.trans h.list, h.within, fun hPlace => ?_, hCount ▸ h.once⟩
    rw [← List.count_eq_zero, hCount, List.count_eq_zero]
    exact h.idle hPlace

end Rotating

/-! ### The steps of a list -/

def steps (servers : List Server) (place place' : Nat) (decision : FailoverDecision) :
    List Visit :=
  if place' = place then []
  else match servers[place']? with
    | some server => [.entered server]
    | none => [.asked decision]

theorem consults_handOut (b : Switchboard Checker) (role : ServerRole) (protocol : Protocol)
    (server : Server) : consults (b.handOut role protocol server) = [] := by
  simp [consults, handOut, tell]

theorem consults_exhaust (answer : FailoverStatus → FailoverDecision) (role : ServerRole)
    (protocol : Protocol) :
    consults (exhaust answer role protocol : List (Notice Checker)) =
      [answer (.exhausted role)] := by
  rw [exhaust_eq]
  cases answer (.exhausted role) <;> rfl

theorem Rotating.visit_eq (h : Rotating role protocol servers place pending b)
    (hHandle : b.handle answer r = (next, notices))
    (hRotates : Rotates answer b role protocol servers place r place' next notices) :
    visit role protocol b (answer, r) =
      steps servers place place' (answer (.exhausted role)) := by
  have hStart := h.list
  simp only [visit, hHandle, hStart]
  cases hRotates with
  | @advanced _ _ successor hRole hProtocol _ _ hNext =>
    simp [lists_putList, currentServer?, ServerList.current?, hNext, consults_handOut, steps]
  | exhausted hRole hProtocol _ _ hLast =>
    rw [← exhaust_eq, consults_exhaust]
    simp [lists_putList, currentServer?, ServerList.current?, hLast, steps, Request.concerns, hRole,
      hProtocol]
  | ignored => simp [hStart, steps, consults]
  | @restarted first hExhausted hFirst =>
    have hPlace := (List.getElem?_eq_some_iff.mp hFirst).1
    have hMoved : ¬ 0 = place := by omega
    simp [lists_putList, currentServer?, ServerList.current?, hFirst, consults_handOut, steps,
      hMoved]
  | elsewhere hOther hList => simp [hList, hStart, hOther, steps]

/-- What a list at this place goes on with: the rest of the pass and what comes after it. -/
structure Resumes (servers : List Server) (place : Nat) (waits : Prop) (more : List Visit) :
    Prop where
  pass : place < servers.length →
    Passes servers ((servers.take (place + 1)).map .entered ++ more)
  retry : place = servers.length → waits → Passes servers more
  rest : place = servers.length → ¬ waits → more = []

/-- The timer of the list runs afterwards, in each case. -/
theorem Rotating.mem_timersAfter_iff (h : Rotating role protocol servers place pending b)
    (hReply : Reply answer b r next notices)
    (hRotates : Rotates answer b role protocol servers place r place' next notices) :
    (role, protocol) ∈ timersAfter pending notices r ↔
      (place' = place ∧ (role, protocol) ∈ pending) ∨
        (place' = place + 1 ∧ place' = servers.length ∧
          ∃ delay, answer (.exhausted role) = .retry delay) := by
  cases hRotates with
  | advanced _ _ _ _ hNext =>
    have hPlace := (List.getElem?_eq_some_iff.mp hNext).1
    rw [timersAfter_serverFailed, handOut, armed_tell, List.append_nil]
    simp [h.idle (by omega), Nat.ne_of_lt hPlace]
  | exhausted _ _ _ _ hLast =>
    rw [timersAfter_serverFailed, List.mem_append]
    simp only [h.idle (by omega), hLast, and_false, false_or, true_and]
    cases answer (.exhausted role) <;> simp [consequences, armed]
  | ignored =>
    rw [timersAfter_serverFailed, armed, List.filterMap_nil, List.append_nil]
    simp
  | restarted hExhausted hFirst =>
    have hPlace := (List.getElem?_eq_some_iff.mp hFirst).1
    have hOnce := h.once
    rw [timersAfter_restartList, handOut, armed_tell, List.append_nil, ← List.count_pos_iff,
      List.count_erase_self]
    omega
  | elsewhere hOther =>
    rw [← List.count_pos_iff, count_timersAfter_of_not_concerns hReply hOther, List.count_pos_iff]
    simp

theorem Resumes.mono {waits waits' : Prop} {more : List Visit}
    (h : Resumes servers place waits more) (hWaits : waits ↔ waits') :
    Resumes servers place waits' more where
  pass := h.pass
  retry hPlace hIs := h.retry hPlace (hWaits.mpr hIs)
  rest hPlace hNot := h.rest hPlace fun hIs => hNot (hWaits.mp hIs)

theorem Rotating.resumes (h : Rotating role protocol servers place pending b)
    (hReply : Reply answer b r next notices)
    (hRotates : Rotates answer b role protocol servers place r place' next notices)
    (hTimely : ∀ role protocol, r = .restartList role protocol → (role, protocol) ∈ pending)
    {more : List Visit}
    (hMore : Resumes servers place' ((role, protocol) ∈ timersAfter pending notices r) more) :
    Resumes servers place ((role, protocol) ∈ pending)
      (steps servers place place' (answer (.exhausted role)) ++ more) := by
  replace hMore := hMore.mono (h.mem_timersAfter_iff hReply hRotates)
  cases hRotates with
  | @advanced _ _ successor _ _ _ _ hNext =>
    have hPlace := (List.getElem?_eq_some_iff.mp hNext).1
    refine ⟨fun _ => ?_, by omega, by omega⟩
    have hTaken : servers.take (place + 1 + 1) = servers.take (place + 1) ++ [successor] := by
      rw [List.take_add_one, hNext]
      rfl
    have hPass := hMore.pass hPlace
    rw [hTaken, List.map_append, List.append_assoc] at hPass
    simpa [Switchboard.steps, hNext] using hPass
  | exhausted _ _ _ _ hLast =>
    refine ⟨fun _ => ?_, by omega, by omega⟩
    have hSteps : Switchboard.steps servers place (place + 1) (answer (.exhausted role)) =
        [.asked (answer (.exhausted role))] := by
      simp [Switchboard.steps, hLast]
    rw [hSteps, ← hLast, List.take_length]
    by_cases hRetry : ∃ delay, answer (.exhausted role) = .retry delay
    · have hAgain := hMore.retry hLast.symm (.inr ⟨rfl, hLast.symm, hRetry⟩)
      obtain ⟨delay, hDelay⟩ := hRetry
      rw [hDelay]
      exact .again delay hAgain
    · have hNone := hMore.rest hLast.symm (by simp [hRetry])
      rw [hNone]
      exact .ended _
  | ignored | elsewhere =>
    rw [Switchboard.steps, if_pos rfl, List.nil_append]
    exact hMore.mono (by simp)
  | @restarted first hExhausted hFirst =>
    have hPlace := (List.getElem?_eq_some_iff.mp hFirst).1
    have hPass := hMore.pass hPlace
    have hMoved : ¬ 0 = place := by omega
    refine ⟨by omega, fun _ _ => ?_, fun _ hNot => absurd (hTimely _ _ rfl) hNot⟩
    have hTaken : servers.take (0 + 1) = [first] := by
      rw [List.take_add_one, hFirst]
      rfl
    rw [hTaken] at hPass
    rw [Switchboard.steps, if_neg hMoved, hFirst]
    exact hPass

theorem Rotating.resumes_visits {later : List (Answered Checker)}
    (h : Rotating role protocol servers place pending b)
    (hMatched : ∀ s ∈ servers, s.role = role ∧ s.protocol = protocol) (hServers : servers ≠ [])
    (hLater : ∀ p ∈ later, ¬ p.2.Names role protocol ∧ p.2 ≠ .shutdown)
    (hTimely : Timely pending b later) :
    Resumes servers place ((role, protocol) ∈ pending) (visits role protocol b later) := by
  induction later generalizing place pending b with
  | nil =>
    refine ⟨fun _ => ?_, fun _ _ => .partway 0, fun _ _ => rfl⟩
    rw [visits, List.append_nil]
    exact .partway (place + 1)
  | cons request rest ih =>
    obtain ⟨answer, r⟩ := request
    obtain ⟨hFires, hTimelyRest⟩ := hTimely
    obtain ⟨hNames, hr⟩ := hLater _ List.mem_cons_self
    have hReply := reply_handle answer b r
    obtain ⟨place', hRotates⟩ := h.handle hMatched hServers answer hNames hFires
    have hRest := ih (h.rotates hReply hr hRotates)
      (fun p hp => hLater p (List.mem_cons_of_mem _ hp)) hTimelyRest
    rw [visits, h.visit_eq rfl hRotates]
    exact h.resumes hReply hRotates hFires hRest

theorem Rotating.waits_iff (h : Rotating role protocol servers place pending b)
    (hReply : Reply answer b r next notices)
    (hRotates : Rotates answer b role protocol servers place r place' next notices) {last : Visit}
    (hLast : (role, protocol) ∈ pending ↔ ∃ delay, last = .asked (.retry delay)) :
    (role, protocol) ∈ timersAfter pending notices r ↔
      ∃ delay, (steps servers place place' (answer (.exhausted role))).getLastD last =
        .asked (.retry delay) := by
  rw [h.mem_timersAfter_iff hReply hRotates]
  unfold steps
  by_cases hStays : place' = place
  · simp [hStays, hLast]
  · rw [if_neg hStays]
    cases hRotates with
    | advanced _ _ _ _ hNext =>
      have hPlace := (List.getElem?_eq_some_iff.mp hNext).1
      simp [hNext, Nat.ne_of_lt hPlace]
    | exhausted _ _ _ _ hEnd => simp [hEnd]
    | restarted hExhausted hFirst =>
      simp [hFirst]
      omega
    | _ => exact absurd rfl hStays

/-- A list is in its place throughout a run, and its timer runs exactly after a retry that has not
yet come. -/
theorem Rotating.run {later : List (Answered Checker)}
    (h : Rotating role protocol servers place pending b)
    (hMatched : ∀ s ∈ servers, s.role = role ∧ s.protocol = protocol) (hServers : servers ≠ [])
    (hLater : ∀ p ∈ later, ¬ p.2.Names role protocol ∧ p.2 ≠ .shutdown)
    (hTimely : Timely pending b later) {last : Visit}
    (hLast : (role, protocol) ∈ pending ↔ ∃ delay, last = .asked (.retry delay)) :
    (∃ place', Rotating role protocol servers place' (b.timers pending later) (b.run later).1) ∧
      ((role, protocol) ∈ b.timers pending later ↔
        ∃ delay, (visits role protocol b later).getLastD last = .asked (.retry delay)) := by
  induction later generalizing place pending b last with
  | nil => exact ⟨⟨place, h⟩, hLast⟩
  | cons request rest ih =>
    obtain ⟨answer, r⟩ := request
    obtain ⟨hFires, hTimelyRest⟩ := hTimely
    obtain ⟨hNames, hr⟩ := hLater _ List.mem_cons_self
    have hReply := reply_handle answer b r
    obtain ⟨place', hRotates⟩ := h.handle hMatched hServers answer hNames hFires
    have hRest := ih (h.rotates hReply hr hRotates)
      (fun p hp => hLater p (List.mem_cons_of_mem _ hp)) hTimelyRest
      (h.waits_iff hReply hRotates hLast)
    refine ⟨hRest.1, ?_⟩
    rw [timers, hRest.2, visits, h.visit_eq rfl hRotates]
    simp only [List.getLastD_eq_getLast?, List.getLast?_append, Option.getD_or]

theorem timely_append {before after : List (Answered Checker)}
    (h : Timely pending b (before ++ after)) :
    Timely pending b before ∧ Timely (b.timers pending before) (b.run before).1 after := by
  induction before generalizing pending b with
  | nil => exact ⟨trivial, h⟩
  | cons request rest ih =>
    obtain ⟨hFires, hRest⟩ := h
    obtain ⟨hBefore, hAfter⟩ := ih hRest
    exact ⟨⟨hFires, hBefore⟩, hAfter⟩

theorem Rotates.lists_of_ne (h : Rotates answer b role protocol servers place r place' next notices)
    (hConcerns : r.concerns role protocol = true) {other : ServerRole} {p : Protocol}
    (hOther : ¬ (other = role ∧ p = protocol)) : next.lists other p = b.lists other p := by
  cases h with
  | advanced | exhausted | restarted => exact lists_putList_of_ne _ hOther
  | ignored => rfl
  | elsewhere hNot =>
    rw [hNot] at hConcerns
    cases hConcerns

theorem rotating_setServers {first : Server} {rest : List Server} (hRunning : b.isShutDown = false)
    (hPending : (role, protocol) ∉ pending) :
    Rotating role protocol (first :: rest) 0 pending
      (b.setServers role protocol (first :: rest)).1 where
  running := hRunning
  list := lists_putList b role protocol { servers := first :: rest }
  within := Nat.zero_le _
  idle _ := hPending
  once := by simp [List.count_eq_zero.mpr hPending]

theorem eq_of_sameEndpoint
    (hDistinct : servers.Pairwise fun s other => s.sameEndpoint other = false) {i j : Nat}
    {entry other : Server} (hEntry : servers[i]? = some entry) (hOther : servers[j]? = some other)
    (hSame : entry.sameEndpoint other = true) : i = j := by
  obtain ⟨hi, rfl⟩ := List.getElem?_eq_some_iff.mp hEntry
  obtain ⟨hj, rfl⟩ := List.getElem?_eq_some_iff.mp hOther
  rcases Nat.lt_trichotomy i j with hLess | hEqual | hGreater
  · rw [List.pairwise_iff_getElem.mp hDistinct i j hi hj hLess] at hSame
    cases hSame
  · exact hEqual
  · have hBack := Server.sameEndpoint_symm hSame
    rw [List.pairwise_iff_getElem.mp hDistinct j i hj hi hGreater] at hBack
    cases hBack

/-- A report of an entry that is not the current one finds the list elsewhere. -/
theorem Rotating.serverFailed_of_ne
    (hDistinct : servers.Pairwise fun s other => s.sameEndpoint other = false)
    {server entry : Server} {i : Nat}
    (h : Rotating server.role server.protocol servers place pending b)
    (hEntry : servers[i]? = some entry) (hSame : entry.sameEndpoint server = true)
    (hOther : i ≠ place) (answer : FailoverStatus → FailoverDecision) :
    Switchboard.serverFailed answer b server = (b, []) := by
  refine serverFailed_of_not_isCurrent answer (h.not_isCurrent fun current hCurrent => ?_)
  refine Bool.eq_false_iff.mpr fun hIs => hOther ?_
  exact eq_of_sameEndpoint hDistinct hEntry hCurrent
    (Server.sameEndpoint_trans hSame (Server.sameEndpoint_symm hIs))

def Undisturbed (role : ServerRole) (protocol : Protocol) (later : List (Answered Checker)) :
    Prop :=
  ∀ p ∈ later, ¬ p.2.Names role protocol ∧ p.2 ≠ .shutdown

theorem Rotates.place_eq_succ {server current : Server}
    (h : Rotates answer b role protocol servers place (.serverFailed server) place' next notices)
    (hRole : server.role = role) (hProtocol : server.protocol = protocol)
    (hCurrent : servers[place]? = some current) (hSame : current.sameEndpoint server = true) :
    place' = place + 1 := by
  cases h with
  | advanced | exhausted => rfl
  | ignored _ _ hOther =>
    rw [hOther current hCurrent] at hSame
    cases hSame
  | elsewhere hOther => simp [Request.concerns, hRole, hProtocol] at hOther

theorem Rotating.visit_restartList {first : Server}
    (h : Rotating role protocol servers place pending b) (hFirst : servers[0]? = some first)
    (hMoved : place ≠ 0) (answer : FailoverStatus → FailoverDecision) :
    visit role protocol b (answer, .restartList role protocol) = [.entered first] := by
  obtain ⟨rest, rfl⟩ : ∃ rest, servers = first :: rest := by
    rw [← List.head?_eq_getElem?] at hFirst
    exact List.head?_eq_some_iff.mp hFirst
  simp [visit, Switchboard.handle, Switchboard.restartList, h.running, h.list, lists_putList,
    currentServer?, ServerList.current?, hMoved.symm, applyServer, tell, consults]

/-- A pass that goes on with its first server, whether that is the only one or not. -/
theorem not_passes_of_restart {first : Server} {rest : List Server}
    (hDistinct : (first :: rest).Pairwise fun s other => s.sameEndpoint other = false) :
    ¬ Passes (first :: rest)
      (.entered first :: (steps (first :: rest) 0 1 .noop ++ [.entered first])) := by
  intro hPasses
  cases rest with
  | nil =>
    have hMore : Passes [first]
        ([first].map .entered ++ .asked .noop :: .entered first :: []) := hPasses
    obtain ⟨delay, hRetry⟩ := hMore.retry_of_more
    cases hRetry
  | cons second more =>
    obtain ⟨count, hTaken⟩ := hPasses.entered_of_unasked (by simp [steps])
    have hThird : (first :: second :: more)[2]? = some first := by
      have hAt : some (Visit.entered first) =
          ((first :: second :: more).take count |>.map Visit.entered)[2]? := by
        rw [← hTaken]
        rfl
      rw [List.getElem?_map, List.getElem?_take] at hAt
      split at hAt
      · simpa using hAt.symm
      · cases hAt
    have hSame := eq_of_sameEndpoint (i := 0) hDistinct rfl hThird first.sameEndpoint_refl
    cases hSame

/-- A timer that has been running since before the list was set takes it back to its first server
in the middle of a pass. -/
theorem exists_run_off_passes {first : Server} {rest : List Server}
    (hRunning : b.isShutDown = false)
    (hMatched : ∀ s ∈ first :: rest, s.role = role ∧ s.protocol = protocol)
    (hDistinct : (first :: rest).Pairwise fun s other => s.sameEndpoint other = false)
    (hPending : (role, protocol) ∈ pending) :
    let installed := (b.setServers role protocol (first :: rest)).1
    ∃ later, Undisturbed role protocol later ∧ Timely pending installed later ∧
      ¬ Passes (first :: rest) (.entered first :: visits role protocol installed later) := by
  intro installed
  let answer : FailoverStatus → FailoverDecision := fun _ => .noop
  -- No timer has any part in the failure, so the list is where it would be without one.
  have hStart : Rotating role protocol (first :: rest) 0 [] installed :=
    rotating_setServers hRunning List.not_mem_nil
  obtain ⟨hRole, hProtocol⟩ := hMatched first List.mem_cons_self
  obtain ⟨place, hRotates⟩ := hStart.serverFailed hMatched answer hRole hProtocol
  have hPlace := hRotates.place_eq_succ hRole hProtocol rfl first.sameEndpoint_refl
  subst hPlace
  have hFailed := hStart.rotates (reply_handle answer installed (.serverFailed first)) (by simp)
    hRotates
  refine ⟨[(answer, .serverFailed first), (answer, .restartList role protocol)], ?_, ?_, ?_⟩
  · simp [Undisturbed, Request.Names]
  · refine ⟨by simp, ?_, trivial⟩
    rintro _ _ ⟨⟩
    exact List.mem_append_left _ hPending
  · rw [visits, hStart.visit_eq rfl hRotates, visits, visits, List.append_nil]
    rw [hFailed.visit_restartList rfl (by simp)]
    exact not_passes_of_restart hDistinct

/-- From when a list is set, and until it is set or updated again, its servers are gone through in
passes, each server once in each, and the failover is asked once at the end of a pass, unless and
only unless a timer of an earlier list still runs. Without one, only a report of the endpoint of
the current entry moves the list at any moment, and a timer if the answer was to retry; reports of
other entries do nothing. -/
theorem list_goes_by_passes_iff {first : Server} {rest : List Server}
    (hRunning : b.isShutDown = false)
    (hMatched : ∀ s ∈ first :: rest, s.role = role ∧ s.protocol = protocol)
    (hDistinct : (first :: rest).Pairwise fun s other => s.sameEndpoint other = false) :
    let servers := first :: rest
    let installed := b.setServers role protocol servers
    installed.2 = b.handOut role protocol first ∧
      ((∀ later, Undisturbed role protocol later → Timely pending installed.1 later →
          Passes servers (.entered first :: visits role protocol installed.1 later)) ↔
        (role, protocol) ∉ pending) ∧
      ((role, protocol) ∉ pending → ∀ before answer r,
        Undisturbed role protocol (before ++ [(answer, r)]) →
        Timely pending installed.1 (before ++ [(answer, r)]) →
        let now := (installed.1.run before).1
        let next := now.handle answer r
        ∃ place place', now.lists role protocol = some { servers, place } ∧
          place ≤ servers.length ∧
          Rotates answer now role protocol servers place r place' next.1 next.2 ∧
          (∀ i entry server, r = .serverFailed server → server.role = role →
            server.protocol = protocol → servers[i]? = some entry →
            entry.sameEndpoint server = true → i ≠ place → next = (now, [])) ∧
          (r.concerns role protocol = true → ∀ other p, ¬ (other = role ∧ p = protocol) →
            next.1.lists other p = now.lists other p) ∧
          ((role, protocol) ∈ installed.1.timers pending before ↔ ∃ delay,
            (visits role protocol installed.1 before).getLastD (.entered first) =
              .asked (.retry delay))) := by
  intro servers installed
  have hServers : servers ≠ [] := List.cons_ne_nil first rest
  have hFirst := hMatched first List.mem_cons_self
  have hStart : (role, protocol) ∉ pending →
      Rotating role protocol servers 0 pending installed.1 := rotating_setServers hRunning
  refine ⟨handOut_eq _ hFirst.1 hFirst.2, ⟨?_, ?_⟩, ?_⟩
  · intro hPasses hPending
    obtain ⟨later, hLater, hTimely, hOff⟩ :=
      exists_run_off_passes hRunning hMatched hDistinct hPending
    exact hOff (hPasses later hLater hTimely)
  · intro hPending later hLater hTimely
    exact ((hStart hPending).resumes_visits hMatched hServers hLater hTimely).pass
      (Nat.succ_pos _)
  · intro hPending before answer r hLater hTimely now next
    obtain ⟨hBefore, hFires, -⟩ := timely_append hTimely
    obtain ⟨⟨place, hNow⟩, hTimer⟩ := (hStart hPending).run hMatched hServers
      (fun p hp => hLater p (List.mem_append_left _ hp)) hBefore
      (show (role, protocol) ∈ pending ↔ ∃ delay, Visit.entered first = .asked (.retry delay) by
        simp [hPending])
    obtain ⟨hNames, -⟩ := hLater (answer, r) (List.mem_append_right _ List.mem_cons_self)
    obtain ⟨place', hRotates⟩ := hNow.handle hMatched hServers answer hNames hFires
    refine ⟨place, place', hNow.list, hNow.within, hRotates, ?_,
      fun hConcerns _ _ hOther => hRotates.lists_of_ne hConcerns hOther, hTimer⟩
    rintro i entry server rfl rfl rfl hEntry hSame hOther
    exact hNow.serverFailed_of_ne hDistinct hEntry hSame hOther answer

/-- A pass through two servers with a report too many, a retry, and part of another pass. -/
theorem second_pass_after_retry :
    let first := operationsServer 1
    let second := operationsServer 2
    let b : Switchboard Unit := { members := [operationsChannel 7] }
    let later : List (Answered Unit) := answered (.retry .zero) [.serverFailed first,
      .serverFailed first, .serverFailed second, .restartList .operations .tcp,
      .serverFailed first]
    let installed := (b.setServers .operations .tcp [first, second]).1
    b.isShutDown = false ∧ (∀ s ∈ [first, second], s.role = .operations ∧ s.protocol = .tcp) ∧
      [first, second].Pairwise (fun s other => s.sameEndpoint other = false) ∧
      Undisturbed .operations .tcp later ∧ Timely [] installed later ∧
      Passes [first, second] [.entered first, .entered second, .asked (.retry .zero),
        .entered first, .entered second] := by
  intro first second b later installed
  have hMatched : ∀ s ∈ [first, second], s.role = .operations ∧ s.protocol = .tcp := by
    simp [first, second, operationsServer, Server.operations]
  have hDistinct : [first, second].Pairwise fun s other => s.sameEndpoint other = false := by
    decide
  have hLater : Undisturbed .operations .tcp later := by
    simp [Undisturbed, later, answered, Request.Names]
  have hTimely : Timely [] installed later := by
    refine ⟨?_, ?_, ?_, ?_, ?_, trivial⟩ <;> rintro _ _ ⟨⟩
    decide
  have hVisits : visits .operations .tcp installed later = [.entered second,
      .asked (.retry .zero), .entered first, .entered second] := by
    decide
  have hNone : (ServerRole.operations, Protocol.tcp) ∉ ([] : List (ServerRole × Protocol)) :=
    List.not_mem_nil
  have hPasses := (list_goes_by_passes_iff (b := b) rfl hMatched hDistinct).2.1.mpr hNone later
    hLater hTimely
  rw [hVisits] at hPasses
  exact ⟨rfl, hMatched, hDistinct, hLater, hTimely, hPasses⟩

/-- Two servers have failed and are to be tried again when two others are set in their place. The
timer goes off after the first of these has failed too, which makes it current again although the
second has not had its turn. -/
theorem stale_timer_breaks_off_pass :
    ¬ ∀ (requests later : List (Answered Unit)) (role : ServerRole) (protocol : Protocol)
      (first : Server) (rest : List Server),
      let start : Switchboard Unit := {}
      let b := (start.run requests).1
      let pending := start.timers [] requests
      let installed := (b.setServers role protocol (first :: rest)).1
      Timely [] start requests → b.isShutDown = false →
      (∀ s ∈ first :: rest, s.role = role ∧ s.protocol = protocol) →
      (first :: rest).Pairwise (fun s other => s.sameEndpoint other = false) →
      Undisturbed role protocol later → Timely pending installed later →
      Passes (first :: rest) (.entered first :: visits role protocol installed later) := by
  intro hPasses
  let third := operationsServer 3
  let fourth := operationsServer 4
  let later : List (Answered Unit) :=
    answered .noop [.serverFailed third, .restartList .operations .tcp]
  have hPast : Timely [] ({} : Switchboard Unit) exhaustion := by
    refine ⟨?_, ?_, ?_, trivial⟩ <;> rintro _ _ ⟨⟩
  have hMatched : ∀ s ∈ [third, fourth], s.role = .operations ∧ s.protocol = .tcp := by
    simp [third, fourth, operationsServer, Server.operations]
  have hLater : Undisturbed .operations .tcp later := by
    simp [Undisturbed, later, answered, Request.Names]
  have hDistinct : [third, fourth].Pairwise fun s other => s.sameEndpoint other = false := by
    decide
  have hTimely : Timely (({} : Switchboard Unit).timers [] exhaustion)
      ((({} : Switchboard Unit).run exhaustion).1.setServers .operations .tcp [third, fourth]).1
      later := by
    refine ⟨?_, ?_, trivial⟩ <;> rintro _ _ ⟨⟩
    decide
  have hVisits : visits .operations .tcp
      ((({} : Switchboard Unit).run exhaustion).1.setServers .operations .tcp [third, fourth]).1
      later = [.entered fourth, .entered third] := by
    decide
  have hAll := hPasses exhaustion later .operations .tcp third [fourth] hPast rfl hMatched
    hDistinct hLater hTimely
  rw [hVisits] at hAll
  exact not_passes_of_restart hDistinct hAll

end Switchboard

end DeviceUplink
