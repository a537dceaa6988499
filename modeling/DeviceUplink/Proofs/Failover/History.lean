import Mathlib.Data.List.Induction
import DeviceUplink.Failover.Ledger

/-!
# Answers and their history

Whoever asks a ledger gets an answer that depends on the policy and on one number of the history:
how often the same has been asked since a server last connected. Failures, instants, and what is
asked about other statuses have no part in it.
-/

namespace DeviceUplink

namespace FailoverLedger

inductive Call
  | serverFailed (now : Nat) (server : Server)
  | serverConnected (server : Server)
  | asked (status : FailoverStatus)
deriving DecidableEq

def Call.isConnection : Call → Bool
  | serverConnected _ => true
  | _ => false

def take (book : FailoverLedger) : Call → FailoverLedger
  | .serverFailed now server => (book.serverFailed now server).1
  | .serverConnected server => book.serverConnected server
  | .asked status => (book.decide status).1

def after (book : FailoverLedger) (history : List Call) : FailoverLedger :=
  history.foldl take book

/-- How often a status has been asked about since a server last connected, the latest call being
the last. -/
def questions (status : FailoverStatus) (history : List Call) : Nat :=
  (history.reverse.takeWhile fun call => !call.isConnection).count (.asked status)

theorem questions_connected (status : FailoverStatus) (history : List Call) (server : Server) :
    questions status (history ++ [.serverConnected server]) = 0 := by
  simp [questions, Call.isConnection]

theorem questions_failed (status : FailoverStatus) (history : List Call) (now : Nat)
    (server : Server) :
    questions status (history ++ [.serverFailed now server]) = questions status history := by
  simp [questions, Call.isConnection]

theorem questions_asked (status : FailoverStatus) (history : List Call) (asked : FailoverStatus) :
    questions status (history ++ [.asked asked]) =
      questions status history + if asked = status then 1 else 0 := by
  simp [questions, Call.isConnection, List.count_cons]

/-- Until a server connects the number only grows. -/
theorem questions_le_append (status : FailoverStatus) (history : List Call) {more : List Call}
    (hMore : ∀ server, .serverConnected server ∉ more) :
    questions status history ≤ questions status (history ++ more) := by
  have hKept : ∀ call ∈ more.reverse, (!call.isConnection) = true := by
    intro call hCall
    cases call with
    | serverConnected server => exact absurd (List.mem_reverse.mp hCall) (hMore server)
    | serverFailed now server => rfl
    | asked status => rfl
  rw [questions, questions, List.reverse_append, List.takeWhile_append_of_pos hKept,
    List.count_append]
  exact Nat.le_add_left _ _

variable (book : FailoverLedger)

theorem attempts_serverFailed (now : Nat) (server : Server) :
    (book.serverFailed now server).1.attempts = book.attempts := by
  unfold serverFailed
  split <;> rfl

theorem policy_serverFailed (now : Nat) (server : Server) :
    (book.serverFailed now server).1.policy = book.policy := by
  unfold serverFailed
  split <;> rfl

/-- Whatever the answer, the question is counted and no more than a signal is forgotten. -/
theorem book_of_decide (status : FailoverStatus) :
    (book.decide status).1 = book.countAttempt status ∨
      ∃ role, (book.decide status).1 = (book.countAttempt status).forgetSignal role := by
  simp only [decide]
  split
  · exact .inl rfl
  · split
    · exact .inl rfl
    · split
      · next role _ => exact .inr ⟨role, rfl⟩
      · exact .inl rfl

theorem attempts_decide (status : FailoverStatus) :
    (book.decide status).1.attempts = (book.countAttempt status).attempts := by
  rcases book.book_of_decide status with h | ⟨role, h⟩
  · rw [h]
  · rw [h]
    rfl

theorem policy_decide (status : FailoverStatus) :
    (book.decide status).1.policy = book.policy := by
  rcases book.book_of_decide status with h | ⟨role, h⟩
  · rw [h]
    rfl
  · rw [h]
    rfl

theorem policy_take (call : Call) : (book.take call).policy = book.policy := by
  cases call with
  | serverFailed now server => exact book.policy_serverFailed now server
  | serverConnected server => rfl
  | asked status => exact book.policy_decide status

theorem after_concat (history : List Call) (call : Call) :
    book.after (history ++ [call]) = (book.after history).take call := by
  simp only [after, List.foldl_append, List.foldl_cons, List.foldl_nil]

theorem policy_after (history : List Call) : (book.after history).policy = book.policy := by
  induction history using List.reverseRecOn with
  | nil => rfl
  | append_singleton history call ih => rw [after_concat, policy_take, ih]

/-- A fresh ledger counts the questions of its history. -/
theorem attempts_after (policy : FailoverPolicy) (history : List Call) (status : FailoverStatus) :
    (after { policy } history).attempts status = questions status history := by
  induction history using List.reverseRecOn with
  | nil => rfl
  | append_singleton history call ih =>
    rw [after_concat]
    cases call with
    | serverFailed now server =>
      rw [questions_failed, ← ih]
      exact congrFun (attempts_serverFailed _ now server) status
    | serverConnected server =>
      rw [questions_connected]
      rfl
    | asked asked =>
      rw [questions_asked, ← ih]
      have hCounted := congrFun (attempts_decide (after { policy } history) asked) status
      simp only [countAttempt] at hCounted
      rw [take, hCounted]
      by_cases hSame : status = asked
      · simp [hSame]
      · simp [hSame, Ne.symm hSame]

theorem isExhausted_iff (policy : FailoverPolicy) (attempt : Nat) :
    isExhausted policy attempt = true ↔
      ∃ most, policy.maxConsecutiveFailures = some most ∧ most.toNat < attempt := by
  unfold isExhausted
  cases policy.maxConsecutiveFailures <;> simp

theorem attempts_countAttempt (status : FailoverStatus) :
    (book.countAttempt status).attempts status = book.attempts status + 1 := by
  simp [countAttempt]

theorem decide_of_exhausted {status : FailoverStatus}
    (h : isExhausted book.policy (book.attempts status + 1) = true) :
    (book.decide status).2 = .stop := by
  rw [← attempts_countAttempt] at h
  simp only [decide, h, if_true]

theorem decide_of_not_exhausted {status : FailoverStatus}
    (h : isExhausted book.policy (book.attempts status + 1) = false) :
    (book.decide status).2 =
      if status = .noConnectivity ∧ book.policy.retryOnNoConnectivity = false then .noop
      else .retry (book.policy.delayFor (book.attempts status + 1)) := by
  rw [← attempts_countAttempt] at h ⊢
  simp only [decide, h, Bool.false_eq_true, if_false]
  split
  · rfl
  · cases status.exhaustedRole? <;> rfl

theorem decide_eq_stop_iff (status : FailoverStatus) :
    (book.decide status).2 = .stop ↔
      isExhausted book.policy (book.attempts status + 1) = true := by
  constructor
  · intro hStop
    cases h : isExhausted book.policy (book.attempts status + 1) with
    | true => rfl
    | false =>
      rw [book.decide_of_not_exhausted h] at hStop
      split at hStop <;> cases hStop
  · exact book.decide_of_exhausted

/-- What a ledger answers in the course of a history. The questions that count are those about the
same status since a server last connected, the present one included; once there have been too many
of them, only a connection ends that. -/
theorem answer_of_history (policy : FailoverPolicy) (history : List Call)
    (status : FailoverStatus) :
    let answer := fun past => ((after { policy } past).decide status).2
    let number := questions status history + 1
    (answer history = .stop ↔
      ∃ most, policy.maxConsecutiveFailures = some most ∧ most.toNat < number) ∧
    (answer history ≠ .stop →
      answer history =
        if status = .noConnectivity ∧ policy.retryOnNoConnectivity = false then .noop
        else .retry (policy.delayFor number)) ∧
    (∀ other, questions status other = questions status history →
      answer other = answer history) ∧
    (answer history = .stop → ∀ more, (∀ server, .serverConnected server ∉ more) →
      answer (history ++ .asked status :: more) = .stop) := by
  intro answer number
  have hStop : ∀ past, answer past = .stop ↔ ∃ most, policy.maxConsecutiveFailures = some most ∧
      most.toNat < questions status past + 1 := by
    intro past
    rw [← isExhausted_iff, ← attempts_after policy past]
    have hIff := (after { policy } past).decide_eq_stop_iff status
    rwa [policy_after] at hIff
  have hGoesOn : ∀ past, answer past ≠ .stop → answer past =
      if status = .noConnectivity ∧ policy.retryOnNoConnectivity = false then .noop
      else .retry (policy.delayFor (questions status past + 1)) := by
    intro past hPast
    have hLeft := mt ((after { policy } past).decide_eq_stop_iff status).mpr hPast
    have hAnswer := (after { policy } past).decide_of_not_exhausted (Bool.not_eq_true _ ▸ hLeft)
    rwa [policy_after, attempts_after] at hAnswer
  refine ⟨hStop history, hGoesOn history, ?_, ?_⟩
  · intro other hSame
    by_cases hHistory : answer history = .stop
    · rw [hHistory, hStop, hSame]
      exact (hStop history).mp hHistory
    · have hOther : answer other ≠ .stop := by
        rw [Ne, hStop, hSame]
        exact mt (hStop history).mpr hHistory
      rw [hGoesOn other hOther, hGoesOn history hHistory, hSame]
  · intro hHistory more hMore
    obtain ⟨most, hMost, hOver⟩ := (hStop history).mp hHistory
    have hFewer : questions status history ≤ questions status (history ++ .asked status :: more) :=
      questions_le_append status history (by simpa)
    exact (hStop _).mpr ⟨most, hMost, by omega⟩

end FailoverLedger

end DeviceUplink
