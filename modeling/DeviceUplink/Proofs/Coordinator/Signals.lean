import DeviceUplink.Proofs.Coordinator.Rotation
import DeviceUplink.Proofs.Failover.History

/-!
# Signals and their history

A ledger holds a report back if the last signal of the role was for the same address, is still
recent, and nothing has reset the role since. Both what it remembers for that and how many failures
it counts are read here off the record of all that it was told and has answered.
-/

namespace DeviceUplink

namespace FailoverLedger

inductive Entry
  | signalled (now : Nat) (server : Server)
  | heldBack (now : Nat) (server : Server)
  | connected (server : Server)
  | answered (status : FailoverStatus) (decision : FailoverDecision)

def entry (book : FailoverLedger) : Call → Entry
  | .serverFailed now server =>
    if (book.serverFailed now server).2 then .signalled now server else .heldBack now server
  | .serverConnected server => .connected server
  | .asked status => .answered status (book.decide status).2

/-- What has come of the calls of a history, in order. -/
def record (book : FailoverLedger) : List Call → List Entry
  | [] => []
  | call :: rest => book.entry call :: (book.take call).record rest

namespace Entry

def isSignal (role : ServerRole) : Entry → Bool
  | signalled _ server => server.role = role
  | _ => false

/-- A server of the role has connected, or its whole list is tried again. -/
def isReset (role : ServerRole) : Entry → Bool
  | connected server => server.role = role
  | answered status (.retry _) => status = .exhausted role
  | _ => false

def isAside (role : ServerRole) (e : Entry) : Bool :=
  !e.isSignal role && !e.isReset role

theorem isAside_of_role_ne {role : ServerRole} {server : Server} (h : server.role ≠ role)
    (now : Nat) : (signalled now server).isAside role = true := by
  simp [isAside, isSignal, isReset, h]

end Entry

/-- The latest signal of a role, with nothing since that resets the role. -/
structure Stands (record : List Entry) (role : ServerRole) (instant : Nat) (server : Server) :
    Prop where
  role_eq : server.role = role
  latest : ∃ before since, record = before ++ .signalled instant server :: since ∧
    ∀ e ∈ since, e.isAside role = true

namespace Stands

variable {record : List Entry} {role : ServerRole} {instant : Nat} {server : Server} {e : Entry}

theorem signalled (record : List Entry) (instant : Nat) (server : Server) :
    Stands (record ++ [.signalled instant server]) server.role instant server where
  role_eq := rfl
  latest := ⟨record, [], rfl, by simp⟩

theorem aside (h : Stands record role instant server) (he : e.isAside role = true) :
    Stands (record ++ [e]) role instant server where
  role_eq := h.role_eq
  latest := by
    obtain ⟨before, since, rfl, hSince⟩ := h.latest
    refine ⟨before, since ++ [e], by simp, ?_⟩
    intro other hOther
    rcases List.mem_append.mp hOther with hOther | hOther
    · exact hSince other hOther
    · rwa [List.mem_singleton.mp hOther]

theorem concat_cases (h : Stands (record ++ [e]) role instant server) :
    e = .signalled instant server ∨ e.isAside role = true ∧ Stands record role instant server := by
  obtain ⟨before, since, hRecord, hSince⟩ := h.latest
  rcases List.eq_nil_or_concat since with rfl | ⟨since, last, rfl⟩
  · obtain ⟨_, hLast⟩ := List.append_inj' hRecord rfl
    exact .inl (List.cons.inj hLast).1
  · rw [List.concat_eq_append, ← List.cons_append, ← List.append_assoc] at hRecord
    obtain ⟨rfl, hLast⟩ := List.append_inj' hRecord rfl
    obtain rfl := (List.cons.inj hLast).1
    refine .inr ⟨hSince e (by simp), h.role_eq, before, since, rfl, ?_⟩
    intro other hOther
    exact hSince other (by simp [hOther])

theorem concat_iff_of_aside (he : e.isAside role = true) :
    Stands (record ++ [e]) role instant server ↔ Stands record role instant server := by
  constructor
  · intro h
    rcases h.concat_cases with rfl | ⟨_, h⟩
    · simp [Entry.isAside, Entry.isSignal, h.role_eq] at he
    · exact h
  · exact fun h => h.aside he

theorem not_of_reset (he : e.isReset role = true) :
    ¬ Stands (record ++ [e]) role instant server := by
  intro h
  rcases h.concat_cases with rfl | ⟨hAside, _⟩
  · cases he
  · simp [Entry.isAside, he] at hAside

end Stands

theorem record_concat (book : FailoverLedger) (history : List Call) (call : Call) :
    book.record (history ++ [call]) = book.record history ++ [(book.after history).entry call] := by
  induction history generalizing book with
  | nil => rfl
  | cons first rest ih =>
    simp only [List.cons_append, record, ih]
    rfl

/-- What a ledger remembers of a role, as it follows from a record. -/
def Recollects (record : List Entry) (role : ServerRole) (memory : Option (String × Nat)) : Prop :=
  ∀ address instant, memory = some (address, instant) ↔
    ∃ server, server.address = address ∧ Stands record role instant server

namespace Recollects

variable {record : List Entry} {role : ServerRole} {memory : Option (String × Nat)} {e : Entry}

theorem aside (h : Recollects record role memory) (he : e.isAside role = true) :
    Recollects (record ++ [e]) role memory := by
  intro address instant
  simp only [Stands.concat_iff_of_aside he]
  exact h address instant

theorem reset (he : e.isReset role = true) : Recollects (record ++ [e]) role none := by
  intro address instant
  constructor
  · intro hNone
    cases hNone
  · rintro ⟨server, _, hStands⟩
    exact absurd hStands (Stands.not_of_reset he)

theorem signalled (record : List Entry) (now : Nat) (server : Server) :
    Recollects (record ++ [.signalled now server]) server.role (some (server.address, now)) := by
  intro address instant
  constructor
  · rintro ⟨⟩
    exact ⟨server, rfl, .signalled record now server⟩
  · rintro ⟨other, rfl, hStands⟩
    rcases hStands.concat_cases with hSame | ⟨hAside, _⟩
    · cases hSame
      rfl
    · simp [Entry.isAside, Entry.isSignal] at hAside

end Recollects

variable (book : FailoverLedger)

theorem exhaustedRole?_eq_some_iff {status : FailoverStatus} {role : ServerRole} :
    status.exhaustedRole? = some role ↔ status = .exhausted role := by
  cases status <;> cases role <;> decide

/-- Only the retry of a whole list makes a question forget a signal. -/
theorem lastSignal_decide (status : FailoverStatus) (role : ServerRole) :
    (book.decide status).1.lastSignal role =
      if (Entry.answered status (book.decide status).2).isReset role then none
      else book.lastSignal role := by
  simp only [decide]
  split
  · rfl
  · split
    · rfl
    · split
      · next other hOther =>
        obtain rfl := exhaustedRole?_eq_some_iff.mp hOther
        by_cases hRole : role = other
        · simp [Entry.isReset, forgetSignal, hRole]
        · have hStatus : FailoverStatus.exhausted other ≠ .exhausted role := by
            intro hSame
            have hRoles := congrArg FailoverStatus.exhaustedRole? hSame
            simp only [FailoverStatus.exhaustedRole?_exhausted, Option.some.injEq] at hRoles
            exact hRole hRoles.symm
          simp [Entry.isReset, forgetSignal, hRole, hStatus, countAttempt]
      · next hNone =>
        have hStatus : status ≠ .exhausted role := by
          rintro rfl
          rw [FailoverStatus.exhaustedRole?_exhausted] at hNone
          cases hNone
        simp [Entry.isReset, hStatus, countAttempt]

theorem serverFailed_of_isRepeated {now : Nat} {server : Server}
    (h : book.isRepeated now server = true) :
    book.serverFailed now server = (book.countFailure server, false) :=
  if_pos h

theorem serverFailed_of_not_isRepeated {now : Nat} {server : Server}
    (h : ¬ book.isRepeated now server = true) :
    book.serverFailed now server = ((book.countFailure server).noteSignal now server, true) :=
  if_neg h

theorem recollects_take {record : List Entry} {role : ServerRole}
    (h : Recollects record role (book.lastSignal role)) (call : Call) :
    Recollects (record ++ [book.entry call]) role ((book.take call).lastSignal role) := by
  cases call with
  | serverFailed now server =>
    by_cases hRepeated : book.isRepeated now server = true
    · simp only [entry, take, book.serverFailed_of_isRepeated hRepeated]
      exact h.aside rfl
    · simp only [entry, take, book.serverFailed_of_not_isRepeated hRepeated, noteSignal, if_true]
      by_cases hRole : role = server.role
      · rw [if_pos hRole, hRole]
        exact .signalled record now server
      · rw [if_neg hRole]
        exact h.aside (Entry.isAside_of_role_ne (Ne.symm hRole) now)
  | serverConnected server =>
    simp only [entry, take, serverConnected, forgetSignal]
    by_cases hRole : role = server.role
    · rw [if_pos hRole]
      exact .reset (by simp [Entry.isReset, hRole])
    · rw [if_neg hRole]
      exact h.aside (by simp [Entry.isAside, Entry.isSignal, Entry.isReset, Ne.symm hRole])
  | asked status =>
    rw [take, lastSignal_decide]
    split
    · next hReset => exact .reset hReset
    · next hKept =>
      exact h.aside (by simpa [entry, Entry.isAside, Entry.isSignal] using hKept)

theorem recollects_after (policy : FailoverPolicy) (history : List Call) (role : ServerRole) :
    Recollects (record { policy } history) role ((after { policy } history).lastSignal role) := by
  induction history using List.reverseRecOn with
  | nil =>
    intro address instant
    simp only [after, record, List.foldl_nil, reduceCtorEq, false_iff]
    rintro ⟨server, _, hStands⟩
    obtain ⟨before, since, hNil, _⟩ := hStands.latest
    exact absurd hNil (by simp)
  | append_singleton history call ih =>
    rw [record_concat, after_concat]
    exact recollects_take _ ih call

/-- A failure of this server would repeat the signal that stands. -/
def Repeats (policy : FailoverPolicy) (record : List Entry) (now : Nat) (server : Server) : Prop :=
  ∃ instant other, Stands record server.role instant other ∧ other.address = server.address ∧
    now - instant < policy.resolutionWindow.nanoseconds

theorem isRepeated_iff {record : List Entry} {server : Server}
    (h : Recollects record server.role (book.lastSignal server.role)) (now : Nat) :
    book.isRepeated now server = true ↔ Repeats book.policy record now server := by
  unfold isRepeated
  cases hMemory : book.lastSignal server.role with
  | none =>
    simp only [Bool.false_eq_true, false_iff]
    rintro ⟨instant, other, hStands, _⟩
    have hSome := (h other.address instant).mpr ⟨other, rfl, hStands⟩
    rw [hMemory] at hSome
    cases hSome
  | some memory =>
    obtain ⟨address, instant⟩ := memory
    obtain ⟨other, hAddress, hStands⟩ := (h address instant).mp hMemory
    simp only [Bool.and_eq_true, beq_iff_eq, decide_eq_true_eq]
    constructor
    · rintro ⟨hSame, hRecent⟩
      exact ⟨instant, other, hStands, hAddress.trans hSame, hRecent⟩
    · rintro ⟨instant', other', hStands', hSame, hRecent⟩
      have hMemory' := (h other'.address instant').mpr ⟨other', rfl, hStands'⟩
      rw [hMemory] at hMemory'
      cases hMemory'
      exact ⟨hSame, hRecent⟩

namespace Call

def isFailure : Call → Bool
  | serverFailed _ _ => true
  | _ => false

def isFailureOf (server : Server) : Call → Bool
  | serverFailed _ other => other.address = server.address ∧ other.role = server.role
  | _ => false

def isConnectionOf (server : Server) : Call → Bool
  | serverConnected other => other.address = server.address ∧ other.role = server.role
  | _ => false

theorem isFailure_of_isFailureOf {server : Server} {call : Call}
    (h : call.isFailureOf server = true) : call.isFailure = true := by
  cases call with
  | serverFailed => rfl
  | _ => cases h

end Call

/-- The failures of an address in a role since a server last connected under them. -/
def failuresSince (server : Server) (history : List Call) : Nat :=
  (history.reverse.takeWhile fun call => !call.isConnectionOf server).countP
    (·.isFailureOf server)

theorem failuresSince_concat (server : Server) (history : List Call) (call : Call) :
    failuresSince server (history ++ [call]) =
      if call.isConnectionOf server then 0
      else failuresSince server history + if call.isFailureOf server then 1 else 0 := by
  cases hConnection : call.isConnectionOf server with
  | true => simp [failuresSince, hConnection]
  | false => simp [failuresSince, hConnection, List.countP_cons]

theorem failuresSince_le (server : Server) (history : List Call) :
    failuresSince server history ≤ history.countP Call.isFailure := by
  calc
    failuresSince server history ≤ history.reverse.countP (·.isFailureOf server) :=
      (List.takeWhile_sublist _).countP_le
    _ = history.countP (·.isFailureOf server) := List.countP_reverse
    _ ≤ history.countP Call.isFailure :=
      List.countP_mono_left fun _ _ => Call.isFailure_of_isFailureOf

theorem failureCount_take (server : Server) (call : Call) :
    (book.take call).failureCount server =
      if call.isConnectionOf server then 0
      else book.failureCount server + if call.isFailureOf server then 1 else 0 := by
  cases call with
  | serverFailed now other =>
    have hCounted : (book.serverFailed now other).1.failures =
        (book.countFailure other).failures := by
      unfold serverFailed
      split <;> rfl
    simp only [take, failureCount, hCounted, countFailure, Call.isConnectionOf, Call.isFailureOf]
    by_cases hSame : other.address = server.address ∧ other.role = server.role
    · simp [hSame]
    · have hOther : ¬ (server.address = other.address ∧ server.role = other.role) := by
        simpa [eq_comm] using hSame
      simp [hSame, hOther]
  | serverConnected other =>
    simp only [take, failureCount, serverConnected, forgetSignal, Call.isConnectionOf,
      Call.isFailureOf]
    by_cases hSame : other.address = server.address ∧ other.role = server.role
    · simp [hSame]
    · have hOther : ¬ (server.address = other.address ∧ server.role = other.role) := by
        simpa [eq_comm] using hSame
      simp [hSame, hOther]
  | asked status =>
    rcases book.book_of_decide status with h | ⟨role, h⟩
    · simp only [take, h]
      rfl
    · simp only [take, h]
      rfl

theorem failureCount_after (policy : FailoverPolicy) (history : List Call) (server : Server) :
    (after { policy } history).failureCount server = failuresSince server history := by
  induction history using List.reverseRecOn with
  | nil => rfl
  | append_singleton history call ih =>
    rw [after_concat, failureCount_take, failuresSince_concat, ih]

/-- Which reports of a history are signalled, and what is counted. A report is held back if it
repeats the signal that stands, whose age a report held back does not change; otherwise the queue of
signals gains the server once. No more failures are counted than there were, so fewer than `2 ^ 32`
of them fit a word. The clock may show anything: an instant ahead of it is of age zero. -/
theorem signals_of_history {Checker : Type} (policy : FailoverPolicy) (history : List Call)
    (now : Nat) (server : Server) :
    let book := after { policy } history
    ((book.serverFailed now server).2 = false ↔
        Repeats policy (record { policy } history) now server) ∧
      (∀ (board : Switchboard Checker) (signals : List Server),
        let c : Coordinator Checker := { board, adviser := .ledger book, signals }
        (c.serverFailed now server).signals =
          signals ++ if (book.serverFailed now server).2 then [server] else []) ∧
      (∀ other, book.failureCount other = failuresSince other history) ∧
      ∀ other, book.failureCount other ≤ history.countP Call.isFailure := by
  intro book
  have hPolicy : book.policy = policy := policy_after _ history
  have hIff := book.isRepeated_iff (recollects_after policy history server.role) now
  rw [hPolicy] at hIff
  refine ⟨?_, ?_, failureCount_after policy history, ?_⟩
  · by_cases hRepeated : book.isRepeated now server = true
    · simp [book.serverFailed_of_isRepeated hRepeated, hIff.mp hRepeated]
    · simp [book.serverFailed_of_not_isRepeated hRepeated, mt hIff.mpr hRepeated]
  · intro board signals c
    rw [Coordinator.signals_serverFailed (c := c) rfl]
    by_cases hRepeated : book.isRepeated now server = true
    · simp [c, book.serverFailed_of_isRepeated hRepeated, hRepeated]
    · simp [c, book.serverFailed_of_not_isRepeated hRepeated, hRepeated]
  · intro other
    rw [failureCount_after]
    exact failuresSince_le other history

end FailoverLedger

end DeviceUplink
