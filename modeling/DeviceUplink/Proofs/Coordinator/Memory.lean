import DeviceUplink.Coordinator

/-!
# What a ledger remembers

The ledger of a coordinator remembers a signal only if it was told of the failure, and only as long
as no server of that role has connected since.
-/

namespace DeviceUplink

namespace FailoverLedger

structure Forgets (book next : FailoverLedger) : Prop where
  policy : next.policy = book.policy
  lastSignal : ∀ role, next.lastSignal role = book.lastSignal role ∨ next.lastSignal role = none

namespace Forgets

variable {book next last : FailoverLedger}

theorem refl (book : FailoverLedger) : Forgets book book where
  policy := rfl
  lastSignal _ := .inl rfl

theorem trans (h : Forgets book next) (h' : Forgets next last) : Forgets book last where
  policy := h'.policy.trans h.policy
  lastSignal := by
    intro role
    rcases h'.lastSignal role with hSame | hNone
    · rw [hSame]
      exact h.lastSignal role
    · exact .inr hNone

theorem forgetSignal (book : FailoverLedger) (role : ServerRole) :
    Forgets book (book.forgetSignal role) where
  policy := rfl
  lastSignal := by
    intro other
    by_cases hRole : other = role
    · exact .inr (by simp [FailoverLedger.forgetSignal, hRole])
    · exact .inl (by simp [FailoverLedger.forgetSignal, hRole])

theorem decide (book : FailoverLedger) (status : FailoverStatus) :
    Forgets book (book.decide status).1 := by
  have hCounted : Forgets book (book.countAttempt status) := ⟨rfl, fun _ => .inl rfl⟩
  simp only [FailoverLedger.decide]
  split
  · exact hCounted
  · split
    · exact hCounted
    · split
      · next role _ => exact hCounted.trans (forgetSignal _ role)
      · exact hCounted

end Forgets

end FailoverLedger

namespace Coordinator

variable {Checker : Type}

theorem forgets_noteAsked (book : FailoverLedger) (notices : List (Notice Checker)) :
    ∃ next, notices.foldl noteAsked (.ledger book) = .ledger next ∧ book.Forgets next := by
  induction notices generalizing book with
  | nil => exact ⟨book, rfl, .refl book⟩
  | cons notice rest ih =>
    cases notice with
    | asked status decision =>
      obtain ⟨next, hNext, hForgets⟩ := ih (book.decide status).1
      exact ⟨next, hNext, .trans (.decide book status) hForgets⟩
    | _ => exact ih book

/-- The ledger of a coordinator after these events. -/
structure Recalls (policy : FailoverPolicy) (past : List (Event Checker))
    (book : FailoverLedger) : Prop where
  policy_eq : book.policy = policy
  told : ∀ role address instant, book.lastSignal role = some (address, instant) →
    ∃ before server after, past = before ++ .serverFailed instant server :: after ∧
      server.role = role ∧ server.address = address ∧
      ∀ other, .serverConnected other ∈ after → other.role ≠ role

namespace Recalls

variable {policy : FailoverPolicy} {past : List (Event Checker)} {book next : FailoverLedger}

theorem start (policy : FailoverPolicy) :
    Recalls policy ([] : List (Event Checker)) { policy } where
  policy_eq := rfl
  told _ _ _ h := by cases h

/-- An event after which no more is remembered than before. -/
theorem forget (h : Recalls policy past book) (hForgets : book.Forgets next) (event : Event Checker)
    (hEvent : ∀ server, event = .serverConnected server → next.lastSignal server.role = none) :
    Recalls policy (past ++ [event]) next where
  policy_eq := hForgets.policy.trans h.policy_eq
  told := by
    intro role address instant hLast
    have hBefore : book.lastSignal role = some (address, instant) := by
      rcases hForgets.lastSignal role with hSame | hNone
      · rwa [hSame] at hLast
      · rw [hNone] at hLast
        cases hLast
    obtain ⟨before, server, after, rfl, hRole, hAddress, hAfter⟩ :=
      h.told role address instant hBefore
    refine ⟨before, server, after ++ [event], by simp, hRole, hAddress, ?_⟩
    intro other hOther hSame
    rcases List.mem_append.mp hOther with hOther | hOther
    · exact hAfter other hOther hSame
    · have hNone := hEvent other (List.mem_singleton.mp hOther).symm
      rw [hSame, hLast] at hNone
      cases hNone

theorem serverFailed (h : Recalls policy past book) (now : Nat) (server : Server) :
    Recalls policy (past ++ [.serverFailed now server]) (book.serverFailed now server).1 := by
  have hCounted : book.Forgets (book.countFailure server) := ⟨rfl, fun _ => .inl rfl⟩
  have hForget := h.forget hCounted (.serverFailed now server) (by simp)
  unfold FailoverLedger.serverFailed
  split
  · exact hForget
  · refine ⟨h.policy_eq, ?_⟩
    intro role address instant hLast
    by_cases hRole : role = server.role
    · simp only [FailoverLedger.noteSignal, hRole, if_true, Option.some.injEq,
        Prod.mk.injEq] at hLast
      obtain ⟨rfl, rfl⟩ := hLast
      exact ⟨past, server, [], rfl, hRole.symm, rfl, by simp⟩
    · simp only [FailoverLedger.noteSignal, hRole, if_false] at hLast
      exact hForget.told role address instant hLast

theorem serverConnected (h : Recalls policy past book) (server : Server) :
    Recalls policy (past ++ [.serverConnected server]) (book.serverConnected server) := by
  have hForgets := FailoverLedger.Forgets.forgetSignal book server.role
  have hConnected : book.Forgets (book.serverConnected server) :=
    ⟨hForgets.policy, hForgets.lastSignal⟩
  refine h.forget hConnected _ ?_
  intro other hOther
  cases hOther
  simp [FailoverLedger.serverConnected, FailoverLedger.forgetSignal]

theorem request (h : Recalls policy past book) {c : Coordinator Checker}
    (hc : c.adviser = .ledger book) (r : Request Checker) {event : Event Checker}
    (hEvent : ∀ server, event ≠ .serverConnected server) :
    ∃ next, (c.request r).1.adviser = .ledger next ∧ Recalls policy (past ++ [event]) next := by
  simp only [Coordinator.request, hc]
  obtain ⟨next, hNext, hForgets⟩ :=
    forgets_noteAsked book (c.board.handle (FailoverAdviser.ledger book).decision r).2
  refine ⟨next, hNext, h.forget hForgets event ?_⟩
  intro server hServer
  exact absurd hServer (hEvent server)

theorem handle (h : Recalls policy past book) {c : Coordinator Checker}
    (hc : c.adviser = .ledger book) (event : Event Checker) :
    ∃ next, (c.handle event).1.adviser = .ledger next ∧
      Recalls policy (past ++ [event]) next := by
  cases event with
  | request r => exact h.request hc r (by simp)
  | serverFailed now server =>
    refine ⟨_, ?_, h.serverFailed now server⟩
    simp only [Coordinator.handle, Coordinator.serverFailed, hc, FailoverAdviser.serverFailed]
    split <;> rfl
  | serverConnected server =>
    refine ⟨_, ?_, h.serverConnected server⟩
    simp only [Coordinator.handle, Coordinator.serverConnected, hc, FailoverAdviser.serverConnected]
  | asked status =>
    refine ⟨_, ?_, h.forget (.decide book status) _ (by simp)⟩
    simp only [Coordinator.handle, Coordinator.asked, hc, FailoverAdviser.asked]
  | takeSignal =>
    simp only [Coordinator.handle, takeSignal]
    split
    · exact ⟨book, hc, h.forget (.refl book) _ (by simp)⟩
    · next rest _ =>
      have hEvent : ∀ server, (.takeSignal : Event Checker) ≠ .serverConnected server := by simp
      exact h.request (c := { c with signals := rest }) hc _ hEvent

theorem run (h : Recalls policy past book) {c : Coordinator Checker}
    (hc : c.adviser = .ledger book) (events : List (Event Checker)) :
    ∃ last, (c.run events).1.adviser = .ledger last ∧ Recalls policy (past ++ events) last := by
  induction events generalizing past book c with
  | nil => exact ⟨book, hc, by rwa [List.append_nil]⟩
  | cons event rest ih =>
    obtain ⟨next, hNext, hRecalls⟩ := h.handle hc event
    obtain ⟨last, hLast, hRest⟩ := ih hRecalls hNext
    rw [List.append_assoc] at hRest
    exact ⟨last, hLast, hRest⟩

end Recalls

end Coordinator

end DeviceUplink
