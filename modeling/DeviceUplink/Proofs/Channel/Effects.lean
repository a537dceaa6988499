import Mathlib.Data.List.TakeWhile
import DeviceUplink.Channel.Phase

/-!
# Effects of a run

What the inputs of one connection come to, taken in one after the other from CONNECT on. The run
has three parts: what comes before anything confirms the session, what comes while the session is
open, and the first input that ends the connection. Nothing behind that one counts.
-/

namespace DeviceUplink.Phase

namespace Input

def isTerminal : Input → Bool
  | connAck code => code ≠ .accepted
  | disconnect _ | connectionLost => true
  | _ => false

/-- What opens a session: a response, with what it brings, or an acknowledgment. -/
def opening? : Input → Option (Option Bytes)
  | response payload => some (some payload)
  | syncAck _ => some none
  | _ => none

def payload? : Input → Option Bytes
  | response payload => some payload
  | _ => none

def ending : Input → List Effect
  | disconnect .graceful => [.close]
  | connAck .refuseBadCredentials => [.cleanIdentity, .serverFailed]
  | _ => [.serverFailed]

def whileWaiting : Input → List Effect
  | pingResp => [.recordPong]
  | _ => []

/-- What an input asks for in an open session. One transport is synced alone, several with all. -/
def whileOpen : Input → List Effect
  | response payload => [.deliver payload]
  | pingResp => [.recordPong]
  | syncAck transports => if transports.size = 1 then [.sync transports] else [.syncAll]
  | _ => []

end Input

def Effect.payload? : Effect → Option Bytes
  | deliver payload => some payload
  | _ => none

def openingEffects (payload? : Option Bytes) : List Effect :=
  payload?.toList.map .deliver ++ [.notifyConnected, .syncAll]

variable {phase : Phase} {input : Input} {inputs : List Input}

/-! ### One input -/

theorem step_of_unconnected (h : phase.isConnected = false) (input : Input) :
    phase.step input = (phase, []) := by
  simp [step, h]

theorem step_of_isTerminal (h : phase.isConnected = true) (hInput : input.isTerminal = true) :
    phase.step input = (closed, input.ending) := by
  cases input with
  | connAck code => cases code with
    | accepted => cases hInput
    | _ => simp [step, h, Input.ending]
  | disconnect reason => cases reason <;> simp [step, h, Input.ending]
  | connectionLost => simp [step, h, Input.ending]
  | response | pingResp | syncAck => cases hInput

theorem step_connecting (hInput : input.isTerminal = false) (hOpening : input.opening? = none) :
    connecting.step input = (connecting, input.whileWaiting) := by
  cases input with
  | connAck code => cases code with
    | accepted => rfl
    | _ => cases hInput
  | pingResp => rfl
  | response | syncAck => cases hOpening
  | disconnect | connectionLost => cases hInput

theorem step_opening {payload? : Option Bytes} (h : input.opening? = some payload?) :
    connecting.step input = (opened, openingEffects payload?) := by
  cases input with
  | response | syncAck =>
    cases h
    rfl
  | _ => cases h

theorem step_opened (hInput : input.isTerminal = false) :
    opened.step input = (opened, input.whileOpen) := by
  cases input with
  | connAck code => cases code with
    | accepted => rfl
    | _ => cases hInput
  | response | pingResp => rfl
  | syncAck transports =>
    simp only [step, isConnected, Input.whileOpen, if_true, reduceCtorEq, if_false]
    split <;> rfl
  | disconnect | connectionLost => cases hInput

theorem isConnected_step (h : phase.isConnected = true) (hInput : input.isTerminal = false) :
    (phase.step input).1.isConnected = true := by
  cases phase with
  | connecting =>
    cases hOpening : input.opening? with
    | none => rw [step_connecting hInput hOpening]; rfl
    | some payload? => rw [step_opening hOpening]; rfl
  | opened => rw [step_opened hInput]; rfl
  | closed | paused | shutdown => cases h

/-! ### Runs -/

theorem run_cons (phase : Phase) (input : Input) (inputs : List Input) :
    phase.run (input :: inputs) =
      (((phase.step input).1.run inputs).1,
        (phase.step input).2 ++ ((phase.step input).1.run inputs).2) := rfl

theorem run_append (phase : Phase) (inputs more : List Input) :
    phase.run (inputs ++ more) =
      (((phase.run inputs).1.run more).1,
        (phase.run inputs).2 ++ ((phase.run inputs).1.run more).2) := by
  induction inputs generalizing phase with
  | nil => rfl
  | cons input inputs ih => simp only [List.cons_append, run_cons, ih, List.append_assoc]

theorem run_of_unconnected (h : phase.isConnected = false) (inputs : List Input) :
    phase.run inputs = (phase, []) := by
  induction inputs with
  | nil => rfl
  | cons input inputs ih => simp only [run_cons, step_of_unconnected h, ih, List.append_nil]

theorem run_of_isTerminal (h : phase.isConnected = true) (hInput : input.isTerminal = true)
    (after : List Input) : phase.run (input :: after) = (closed, input.ending) := by
  have hAfter : closed.run after = (closed, []) := run_of_unconnected rfl after
  simp only [run_cons, step_of_isTerminal h hInput, hAfter, List.append_nil]

theorem run_connecting (hInputs : ∀ input ∈ inputs, input.isTerminal = false)
    (hOpening : ∀ input ∈ inputs, input.opening? = none) :
    connecting.run inputs = (connecting, inputs.flatMap Input.whileWaiting) := by
  induction inputs with
  | nil => rfl
  | cons input inputs ih =>
    obtain ⟨hInput, hInputs⟩ := List.forall_mem_cons.mp hInputs
    obtain ⟨hNone, hOpening⟩ := List.forall_mem_cons.mp hOpening
    simp only [run_cons, step_connecting hInput hNone, ih hInputs hOpening, List.flatMap_cons]

theorem run_opened (hInputs : ∀ input ∈ inputs, input.isTerminal = false) :
    opened.run inputs = (opened, inputs.flatMap Input.whileOpen) := by
  induction inputs with
  | nil => rfl
  | cons input inputs ih =>
    obtain ⟨hInput, hInputs⟩ := List.forall_mem_cons.mp hInputs
    simp only [run_cons, step_opened hInput, ih hInputs, List.flatMap_cons]

def live (inputs : List Input) : List Input :=
  inputs.takeWhile fun input => !input.isTerminal

def lastEffects (inputs : List Input) : List Effect :=
  (inputs.find? Input.isTerminal).elim [] Input.ending

theorem isTerminal_of_mem_live (h : input ∈ live inputs) : input.isTerminal = false := by
  simpa using List.mem_takeWhile_imp h

/-- A run ends with its connection. -/
theorem effects_eq (h : phase.isConnected = true) (inputs : List Input) :
    (phase.run inputs).2 = (phase.run (live inputs)).2 ++ lastEffects inputs := by
  induction inputs generalizing phase with
  | nil => rfl
  | cons input inputs ih =>
    cases hInput : input.isTerminal with
    | true =>
      rw [run_of_isTerminal h hInput]
      simp [live, lastEffects, hInput, run]
    | false =>
      have hRest := ih (isConnected_step h hInput)
      simp only [live, lastEffects] at hRest ⊢
      simp [hInput, run_cons, hRest]

theorem run_append_of_isTerminal (h : phase.isConnected = true)
    (hEnds : ∃ input ∈ inputs, input.isTerminal = true) (more : List Input) :
    phase.run (inputs ++ more) = (closed, (phase.run inputs).2) := by
  obtain ⟨input, hMem, hInput⟩ := hEnds
  induction inputs generalizing phase with
  | nil => cases hMem
  | cons first inputs ih =>
    cases hFirst : first.isTerminal with
    | true => rw [List.cons_append, run_of_isTerminal h hFirst, run_of_isTerminal h hFirst]
    | false =>
      have hRest : input ∈ inputs := by
        rcases List.mem_cons.mp hMem with rfl | hRest
        · rw [hFirst] at hInput
          cases hInput
        · exact hRest
      simp only [List.cons_append, run_cons, ih (isConnected_step h hFirst) hRest]

/-! ### Deliveries and the news of a connection -/

theorem filterMap_payload?_step (h : phase.isConnected = true) (hInput : input.isTerminal = false) :
    (phase.step input).2.filterMap Effect.payload? = input.payload?.toList := by
  cases phase with
  | connecting =>
    cases input with
    | connAck code => cases code with
      | accepted => rfl
      | _ => cases hInput
    | disconnect | connectionLost => cases hInput
    | _ => rfl
  | opened =>
    rw [step_opened hInput]
    cases input with
    | syncAck transports =>
      simp only [Input.whileOpen]
      split <;> rfl
    | _ => rfl
  | closed | paused | shutdown => cases h

theorem filterMap_payload?_run (h : phase.isConnected = true)
    (hInputs : ∀ input ∈ inputs, input.isTerminal = false) :
    (phase.run inputs).2.filterMap Effect.payload? = inputs.filterMap Input.payload? := by
  induction inputs generalizing phase with
  | nil => rfl
  | cons input inputs ih =>
    obtain ⟨hInput, hInputs⟩ := List.forall_mem_cons.mp hInputs
    have hRest := ih (isConnected_step h hInput) hInputs
    simp only [run_cons, List.filterMap_append, filterMap_payload?_step h hInput, hRest]
    cases hPayload : input.payload? <;> simp [hPayload]

theorem filterMap_payload?_lastEffects (inputs : List Input) :
    (lastEffects inputs).filterMap Effect.payload? = [] := by
  unfold lastEffects
  cases inputs.find? Input.isTerminal with
  | none => rfl
  | some input =>
    simp only [Option.elim_some, Input.ending]
    split <;> rfl

theorem notifyConnected_notMem_lastEffects (inputs : List Input) :
    .notifyConnected ∉ lastEffects inputs := by
  unfold lastEffects
  cases inputs.find? Input.isTerminal with
  | none => exact List.not_mem_nil
  | some input =>
    simp only [Option.elim_some, Input.ending]
    split <;> simp

theorem notifyConnected_notMem_flatMap_whileWaiting (inputs : List Input) :
    .notifyConnected ∉ inputs.flatMap Input.whileWaiting := by
  intro hMem
  obtain ⟨input, _, hEffect⟩ := List.mem_flatMap.mp hMem
  cases input <;> simp [Input.whileWaiting] at hEffect

theorem notifyConnected_notMem_flatMap_whileOpen (inputs : List Input) :
    .notifyConnected ∉ inputs.flatMap Input.whileOpen := by
  intro hMem
  obtain ⟨input, _, hEffect⟩ := List.mem_flatMap.mp hMem
  cases input with
  | syncAck transports =>
    simp only [Input.whileOpen] at hEffect
    split at hEffect <;> simp at hEffect
  | _ => simp [Input.whileOpen] at hEffect

theorem count_openingEffects (payload? : Option Bytes) :
    (openingEffects payload?).count .notifyConnected = 1 := by
  cases payload? <;> rfl

/-- Everything that a run from CONNECT on asks for. The payloads of the responses are delivered once
each and in order, and the first response or acknowledgment makes the connection known, once, and
syncs everything. Besides, each answered ping is recorded and each further acknowledgment syncs. The
input that ends the connection closes it or fails the server, after the identity is wiped if the
credentials are refused; from then on nothing has an effect, nor has anything without a
connection. -/
theorem effects_of_run (inputs : List Input) :
    let effects := (connecting.run inputs).2
    effects.filterMap Effect.payload? = (live inputs).filterMap Input.payload? ∧
      (∀ waiting first rest payload?, live inputs = waiting ++ first :: rest →
        (∀ input ∈ waiting, input.opening? = none) → first.opening? = some payload? →
        effects = waiting.flatMap Input.whileWaiting ++ openingEffects payload? ++
            rest.flatMap Input.whileOpen ++ lastEffects inputs ∧
          effects.count .notifyConnected = 1) ∧
      ((∀ input ∈ live inputs, input.opening? = none) →
        effects = (live inputs).flatMap Input.whileWaiting ++ lastEffects inputs ∧
          .notifyConnected ∉ effects) ∧
      ((∃ input ∈ inputs, input.isTerminal = true) →
        ∀ more, connecting.run (inputs ++ more) = (closed, effects)) ∧
      ∀ phase ∈ [closed, paused, shutdown], phase.run inputs = (phase, []) := by
  intro effects
  have hEffects : effects = (connecting.run (live inputs)).2 ++ lastEffects inputs :=
    effects_eq rfl inputs
  have hLive : ∀ input ∈ live inputs, input.isTerminal = false :=
    fun _ => isTerminal_of_mem_live
  refine ⟨?_, ?_, ?_, ?_, ?_⟩
  · rw [hEffects, List.filterMap_append, filterMap_payload?_run rfl hLive,
      filterMap_payload?_lastEffects, List.append_nil]
  · intro waiting first rest payload? hParts hWaiting hFirst
    rw [hParts] at hLive
    obtain ⟨hBefore, hAfter⟩ := List.forall_mem_append.mp hLive
    have hRest := (List.forall_mem_cons.mp hAfter).2
    have hRun : (connecting.run (live inputs)).2 = waiting.flatMap Input.whileWaiting ++
        openingEffects payload? ++ rest.flatMap Input.whileOpen := by
      simp only [hParts, run_append, run_connecting hBefore hWaiting, run_cons,
        step_opening hFirst, run_opened hRest, List.append_assoc]
    rw [hEffects, hRun]
    refine ⟨rfl, ?_⟩
    simp only [List.count_append, count_openingEffects,
      List.count_eq_zero.mpr (notifyConnected_notMem_flatMap_whileWaiting waiting),
      List.count_eq_zero.mpr (notifyConnected_notMem_flatMap_whileOpen rest),
      List.count_eq_zero.mpr (notifyConnected_notMem_lastEffects inputs)]
  · intro hNone
    rw [hEffects, run_connecting hLive hNone]
    refine ⟨rfl, ?_⟩
    rw [List.mem_append, not_or]
    exact ⟨notifyConnected_notMem_flatMap_whileWaiting _, notifyConnected_notMem_lastEffects _⟩
  · exact fun hEnds more => run_append_of_isTerminal rfl hEnds more
  · intro phase hPhase
    simp only [List.mem_cons, List.not_mem_nil, or_false] at hPhase
    rcases hPhase with rfl | rfl | rfl <;> exact run_of_unconnected rfl inputs

/-- Deliveries, the news of a connection with its sync and what the end asks for are not all: an
answered ping and a further acknowledgment have effects as well. -/
theorem open_session_has_further_effects :
    let inputs : List Input :=
      [.syncAck (.ofList [.profile]), .pingResp, .syncAck (.ofList [.profile])]
    let effects := (connecting.run inputs).2
    effects = [.notifyConnected, .syncAll, .recordPong, .sync (.ofList [.profile])] ∧
      ¬ ∀ effect ∈ effects,
        (∃ payload ∈ (live inputs).filterMap Input.payload?, effect = .deliver payload) ∨
          effect ∈ openingEffects none ∨ effect ∈ lastEffects inputs := by
  decide

end DeviceUplink.Phase
