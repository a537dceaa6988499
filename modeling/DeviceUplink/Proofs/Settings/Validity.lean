import DeviceUplink.Arguments.Basic
import DeviceUplink.Proofs.Duration.RoundTrip

/-!
# Valid settings

Settings are valid when every duration in them can be read and every server has its key. A delay
from the command line goes through its written form and comes out as it was.
-/

namespace DeviceUplink

theorem ServerEntry.exists_servers_iff {role : ServerRole} {entries : List ServerEntry} :
    (∃ servers, ServerEntry.servers role entries = .ok servers) ↔
      ∀ e ∈ entries, ∃ server, e.server role = .ok server := by
  induction entries with
  | nil => simp [ServerEntry.servers]
  | cons e rest ih =>
    rw [List.forall_mem_cons, ← ih, ServerEntry.servers]
    cases e.server role with
    | error error => simp
    | ok first => cases ServerEntry.servers role rest <;> simp

namespace Settings

variable {s : Settings} {d : Duration} {field : DurationField} {text : String}

theorem duration_eq_ok_iff : duration field text = .ok d ↔ Duration.parse text = .ok d := by
  unfold duration
  split <;> simp_all

/-- All settings but the first delay can be put to use. -/
structure IsValidBesideDelay (s : Settings) : Prop where
  connectTimeout : ∃ d, Duration.parse s.connectTimeout = .ok d
  maxRetryDelay : ∃ d, Duration.parse s.failover.maxRetryDelay = .ok d
  resolutionTimeout : ∃ d, Duration.parse s.failover.resolutionTimeout = .ok d
  operations : ∀ e ∈ s.operationsServers, ∃ server, e.server .operations = .ok server
  bootstrap : ∀ e ∈ s.bootstrapServers, ∃ server, e.server .bootstrap = .ok server

theorem exists_channel_iff :
    (∃ c, s.channel = .ok c) ↔ ∃ d, Duration.parse s.connectTimeout = .ok d := by
  have hRead : (∃ d, Duration.parse s.connectTimeout = .ok d) ↔
      ∃ d, duration .connectTimeout s.connectTimeout = .ok d :=
    exists_congr fun _ => duration_eq_ok_iff.symm
  rw [hRead, channel]
  cases duration .connectTimeout s.connectTimeout <;> simp

theorem failoverPolicy_eq_ok {most window : Duration}
    (hDelay : Duration.parse s.failover.retryDelay = .ok d)
    (hMost : Duration.parse s.failover.maxRetryDelay = .ok most)
    (hWindow : Duration.parse s.failover.resolutionTimeout = .ok window) :
    s.failoverPolicy = .ok {
      retryDelay := d
      backoffMultiplier := s.failover.backoffMultiplier
      maxRetryDelay := most
      maxConsecutiveFailures := s.failover.maxConsecutiveFailures
      resolutionWindow := window } := by
  rw [failoverPolicy, duration_eq_ok_iff.mpr hDelay, duration_eq_ok_iff.mpr hMost,
    duration_eq_ok_iff.mpr hWindow]

theorem exists_failoverPolicy_iff :
    (∃ policy, s.failoverPolicy = .ok policy) ↔
      (∃ d, Duration.parse s.failover.retryDelay = .ok d) ∧
        (∃ d, Duration.parse s.failover.maxRetryDelay = .ok d) ∧
        ∃ d, Duration.parse s.failover.resolutionTimeout = .ok d := by
  constructor
  · rintro ⟨policy, h⟩
    unfold failoverPolicy at h
    split at h
    · cases h
    · cases h
    · cases h
    · next hDelay hMost hWindow =>
      exact ⟨⟨_, duration_eq_ok_iff.mp hDelay⟩, ⟨_, duration_eq_ok_iff.mp hMost⟩,
        ⟨_, duration_eq_ok_iff.mp hWindow⟩⟩
  · rintro ⟨⟨_, hDelay⟩, ⟨_, hMost⟩, _, hWindow⟩
    exact ⟨_, failoverPolicy_eq_ok hDelay hMost hWindow⟩

theorem exists_plan_iff :
    (∃ plan, s.plan = .ok plan) ↔ (∃ c, s.channel = .ok c) ∧
      (∃ policy, s.failoverPolicy = .ok policy) ∧
      (∃ servers, s.servers .operations = .ok servers) ∧
      ∃ servers, s.servers .bootstrap = .ok servers := by
  rw [plan]
  cases s.channel <;> cases s.failoverPolicy <;> cases s.servers .operations <;>
    cases s.servers .bootstrap <;> simp

theorem validate_eq_ok_iff : s.validate = .ok () ↔ ∃ plan, s.plan = .ok plan := by
  rw [validate]
  cases s.plan <;> simp [Except.map]

/-- Valid settings are those of which every part can be put to use. -/
theorem validate_eq_ok_iff_parts :
    s.validate = .ok () ↔
      (∃ d, Duration.parse s.failover.retryDelay = .ok d) ∧ s.IsValidBesideDelay := by
  rw [validate_eq_ok_iff, exists_plan_iff, exists_channel_iff, exists_failoverPolicy_iff]
  simp only [servers, ServerEntry.exists_servers_iff]
  constructor
  · rintro ⟨hTimeout, ⟨hDelay, hMost, hWindow⟩, hOperations, hBootstrap⟩
    exact ⟨hDelay, hTimeout, hMost, hWindow, hOperations, hBootstrap⟩
  · rintro ⟨hDelay, hTimeout, hMost, hWindow, hOperations, hBootstrap⟩
    exact ⟨hTimeout, ⟨hDelay, hMost, hWindow⟩, hOperations, hBootstrap⟩

end Settings

namespace Arguments

variable {a : Arguments} {s given : Settings}

theorem withServers_withKeepAlive (h : a.withServers s = .ok given) :
    a.withServers (a.withKeepAlive s) = .ok (a.withKeepAlive given) := by
  unfold withServers at h ⊢
  split at h
  · cases h
    rfl
  · next hEntries =>
    split at h
    · next parsed hParsed =>
      cases h
      unfold withKeepAlive
      cases a.keepAlive <;> rfl
    · cases h

theorem applyTo_of_withServers (h : a.withServers s = .ok given) :
    let final := a.withRetryDelay (a.withProbe (a.withKeepAlive given))
    a.applyTo s = (final, final.validate) := by
  rw [applyTo, withServers_withKeepAlive h]

theorem isValidBesideDelay_given (h : s.IsValidBesideDelay) :
    (a.withRetryDelay (a.withProbe (a.withKeepAlive s))).IsValidBesideDelay := by
  obtain ⟨hTimeout, hMost, hWindow, hOperations, hBootstrap⟩ := h
  unfold withRetryDelay withProbe withKeepAlive
  cases a.retryDelay <;> cases a.connectivityProbe <;> cases a.keepAlive <;>
    exact ⟨hTimeout, hMost, hWindow, hOperations, hBootstrap⟩

theorem retryDelay_given {d : Duration} (h : a.retryDelay = some d) (s : Settings) :
    (a.withRetryDelay s).failover.retryDelay = d.format := by
  rw [withRetryDelay, h]

/-- The delay that is given on the command line is the one that is used: it is read back from its
written form, and whatever the settings and the other arguments, if all else in them is valid, they
are valid with the written form in place, and the policy waits exactly as long. -/
theorem retry_delay_given_is_used (a : Arguments) (s given : Settings) (seconds : UInt64)
    (subseconds : Nat) (hSubseconds : subseconds < 1000000000)
    (hDelay : a.retryDelay = some (.ofParts seconds.toNat subseconds))
    (hServers : a.withServers s = .ok given) (hRest : given.IsValidBesideDelay) :
    let delay := Duration.ofParts seconds.toNat subseconds
    Duration.parse delay.format = .ok delay ∧ ∃ final policy, a.applyTo s = (final, .ok ()) ∧
      final.failover.retryDelay = delay.format ∧ final.failoverPolicy = .ok policy ∧
      policy.retryDelay = delay := by
  intro delay
  let final := a.withRetryDelay (a.withProbe (a.withKeepAlive given))
  have hHeld : delay.nanoseconds ≤ Duration.longest.nanoseconds := by
    have hWord : seconds.toNat ≤ 18446744073709551615 := Nat.le_of_lt_succ seconds.toNat_lt
    simp only [delay, Duration.ofParts, Duration.longest, Duration.nanosecondsPerSecond]
    omega
  have hRead : Duration.parse delay.format = .ok delay := Duration.parse_format hHeld
  have hWritten : final.failover.retryDelay = delay.format := retryDelay_given hDelay _
  have hParse : Duration.parse final.failover.retryDelay = .ok delay := by rw [hWritten, hRead]
  have hFinal : final.IsValidBesideDelay := isValidBesideDelay_given hRest
  have hValid : final.validate = .ok () :=
    Settings.validate_eq_ok_iff_parts.mpr ⟨⟨_, hParse⟩, hFinal⟩
  obtain ⟨most, hMost⟩ := hFinal.maxRetryDelay
  obtain ⟨window, hWindow⟩ := hFinal.resolutionTimeout
  refine ⟨hRead, final, _, ?_, hWritten, Settings.failoverPolicy_eq_ok hParse hMost hWindow, rfl⟩
  rw [applyTo_of_withServers hServers, hValid]

/-- The longest delay, over settings whose own delay cannot be read. -/
theorem longest_retry_delay_is_used :
    let a : Arguments := { retryDelay := some .longest }
    let s : Settings := { failover := { retryDelay := "soon" } }
    s.validate ≠ .ok () ∧ ∃ final policy, a.applyTo s = (final, .ok ()) ∧
      final.failoverPolicy = .ok policy ∧ policy.retryDelay = .longest := by
  intro a s
  have hTen : Duration.parse "10s" = .ok (.ofSeconds 10) := rfl
  have hFive : Duration.parse "5m" = .ok (.ofSeconds 300) := rfl
  have hRest : s.IsValidBesideDelay :=
    ⟨⟨_, hTen⟩, ⟨_, hFive⟩, ⟨_, hTen⟩, List.forall_mem_nil _, List.forall_mem_nil _⟩
  have hDelay : a.retryDelay =
      some (.ofParts (18446744073709551615 : UInt64).toNat 999999999) := by decide
  obtain ⟨_, final, policy, hApplied, _, hPolicy, hUsed⟩ :=
    retry_delay_given_is_used a s s 18446744073709551615 999999999 (by decide) hDelay rfl hRest
  refine ⟨?_, final, policy, hApplied, hPolicy, hUsed⟩
  intro hValid
  have hSoon : Duration.parse "soon" = .error (.numberExpected 0) := rfl
  obtain ⟨⟨d, hDelay⟩, _⟩ := Settings.validate_eq_ok_iff_parts.mp hValid
  cases hSoon.symm.trans hDelay

end Arguments

end DeviceUplink
