import DeviceUplink.Proofs.Settings.Validity

/-!
# Settings as values of variables

Every variable of the environment stands for one value of the settings; three more values can only
be said in a file. Replacement puts the values of the variables that are set in place, one after the
other, and settings are valid when every value in them is.
-/

namespace DeviceUplink

def Variable.Value : Variable → Type
  | keepAlive => UInt16
  | connectTimeout | retryDelay => String
  | connectivityProbe => Option String
  | maxConsecutiveFailures => Option UInt32
  | operationsServers | bootstrapServers => List ServerEntry

def Variable.read : (v : Variable) → String → Except SettingsError v.Value
  | keepAlive, text =>
    match Numeral.parse Numeral.max16 text.toList with
    | .ok n => .ok n.toUInt16
    | .error cause => .error (.badVariable .keepAlive text cause)
  | connectTimeout, text | retryDelay, text => .ok text
  | connectivityProbe, text => .ok (if text = "" then none else some text)
  | maxConsecutiveFailures, text =>
    match Numeral.parse Numeral.max32 text.toList with
    | .ok n => .ok (some n.toUInt32)
    | .error cause => .error (.badVariable .maxConsecutiveFailures text cause)
  | operationsServers, text | bootstrapServers, text => ServerEntry.parseList text

def Variable.Accepts : (v : Variable) → v.Value → Prop
  | connectTimeout, text | retryDelay, text => ∃ d, Duration.parse text = .ok d
  | operationsServers, entries => ∃ servers, ServerEntry.servers .operations entries = .ok servers
  | bootstrapServers, entries => ∃ servers, ServerEntry.servers .bootstrap entries = .ok servers
  | keepAlive, _ | connectivityProbe, _ | maxConsecutiveFailures, _ => True

namespace Settings

variable {s t : Settings} {v w : Variable} {text : String} {environment : Environment}
  {names : List Variable}

def value (s : Settings) : (v : Variable) → v.Value
  | .keepAlive => s.keepAlive
  | .connectTimeout => s.connectTimeout
  | .connectivityProbe => s.connectivityProbe
  | .retryDelay => s.failover.retryDelay
  | .maxConsecutiveFailures => s.failover.maxConsecutiveFailures
  | .operationsServers => s.operationsServers
  | .bootstrapServers => s.bootstrapServers

def put (s : Settings) : (v : Variable) → v.Value → Settings
  | .keepAlive, x => { s with keepAlive := x }
  | .connectTimeout, x => { s with connectTimeout := x }
  | .connectivityProbe, x => { s with connectivityProbe := x }
  | .retryDelay, x => { s with failover := { s.failover with retryDelay := x } }
  | .maxConsecutiveFailures, x =>
    { s with failover := { s.failover with maxConsecutiveFailures := x } }
  | .operationsServers, x => { s with operationsServers := x }
  | .bootstrapServers, x => { s with bootstrapServers := x }

def fixed (s : Settings) : UInt32 × String × String :=
  (s.failover.backoffMultiplier, s.failover.maxRetryDelay, s.failover.resolutionTimeout)

def AcceptsFixed : UInt32 × String × String → Prop
  | (_, most, window) => (∃ d, Duration.parse most = .ok d) ∧ ∃ d, Duration.parse window = .ok d

theorem validate_eq_ok_iff_values :
    s.validate = .ok () ↔ (∀ v : Variable, v.Accepts (s.value v)) ∧ AcceptsFixed s.fixed := by
  rw [validate_eq_ok_iff_parts]
  constructor
  · rintro ⟨hDelay, hTimeout, hMost, hWindow, hOperations, hBootstrap⟩
    refine ⟨fun v => ?_, hMost, hWindow⟩
    cases v with
    | connectTimeout => exact hTimeout
    | retryDelay => exact hDelay
    | operationsServers => exact ServerEntry.exists_servers_iff.mpr hOperations
    | bootstrapServers => exact ServerEntry.exists_servers_iff.mpr hBootstrap
    | keepAlive | connectivityProbe | maxConsecutiveFailures => trivial
  · rintro ⟨hValues, hMost, hWindow⟩
    exact ⟨hValues .retryDelay, hValues .connectTimeout, hMost, hWindow,
      ServerEntry.exists_servers_iff.mp (hValues .operationsServers),
      ServerEntry.exists_servers_iff.mp (hValues .bootstrapServers)⟩

theorem value_put_self (s : Settings) (v : Variable) (x : v.Value) : (s.put v x).value v = x := by
  cases v <;> rfl

theorem value_put_of_ne (h : w ≠ v) (s : Settings) (x : v.Value) :
    (s.put v x).value w = s.value w := by
  cases v <;> cases w <;> first | rfl | exact absurd rfl h

theorem fixed_put (s : Settings) (v : Variable) (x : v.Value) : (s.put v x).fixed = s.fixed := by
  cases v <;> rfl

theorem replace_eq (s : Settings) (v : Variable) (text : String) :
    s.replace v text = (v.read text).map (s.put v) := by
  cases v with
  | connectTimeout | connectivityProbe | retryDelay => rfl
  | keepAlive | maxConsecutiveFailures | operationsServers | bootstrapServers =>
    simp only [replace, Variable.read]
    split <;> simp_all [Except.map, put]

/-- The settings are the same but for the variables that are left open. -/
structure Agree (isOpen : Variable → Prop) (s t : Settings) : Prop where
  fixed : s.fixed = t.fixed
  value : ∀ v, ¬ isOpen v → s.value v = t.value v

namespace Agree

variable {isOpen wider : Variable → Prop}

theorem mono (h : Agree isOpen s t) (hOpen : ∀ v, isOpen v → wider v) : Agree wider s t :=
  ⟨h.fixed, fun v hClosed => h.value v fun hOpened => hClosed (hOpen v hOpened)⟩

/-- Settings in which nothing is left open are the same. -/
theorem eq (h : Agree (fun _ => False) s t) : s = t := by
  obtain ⟨_, _, _, ⟨_, _, _, _, _⟩, _, _⟩ := s
  obtain ⟨_, _, _, ⟨_, _, _, _, _⟩, _, _⟩ := t
  have hFixed := h.fixed
  have hValue (v : Variable) := h.value v not_false
  obtain rfl := hValue .keepAlive
  obtain rfl := hValue .connectTimeout
  obtain rfl := hValue .connectivityProbe
  obtain rfl := hValue .retryDelay
  obtain rfl := hValue .maxConsecutiveFailures
  obtain rfl := hValue .operationsServers
  obtain rfl := hValue .bootstrapServers
  simp only [Settings.fixed, Prod.mk.injEq] at hFixed
  obtain ⟨rfl, rfl, rfl⟩ := hFixed
  rfl

/-- A variable that is given one value in both is open no longer. -/
theorem put (h : Agree isOpen s t) (v : Variable) (x : v.Value) :
    Agree (fun w => isOpen w ∧ w ≠ v) (s.put v x) (t.put v x) where
  fixed := by rw [fixed_put, fixed_put, h.fixed]
  value w hClosed := by
    by_cases hSame : w = v
    · subst hSame
      rw [value_put_self, value_put_self]
    · rw [value_put_of_ne hSame, value_put_of_ne hSame]
      exact h.value w fun hOpened => hClosed ⟨hOpened, hSame⟩

end Agree

/-- Which variable cannot be read does not depend on the settings. -/
theorem replaceFrom_snd (environment : Environment) (s t : Settings) (names : List Variable) :
    (s.replaceFrom environment names).2 = (t.replaceFrom environment names).2 := by
  induction names generalizing s t with
  | nil => rfl
  | cons v names ih =>
    rw [replaceFrom, replaceFrom]
    cases environment v with
    | none => exact ih s t
    | some text =>
      simp only [replace_eq]
      cases v.read text with
      | error e => rfl
      | ok x => exact ih (s.put v x) (t.put v x)

/-- A run over the variables that ends well leaves each of them out or puts its value in place. -/
theorem replaceFrom_cons_ok (h : s.replaceFrom environment (v :: names) = (t, .ok ())) :
    (environment v = none ∧ s.replaceFrom environment names = (t, .ok ())) ∨
      ∃ text x, environment v = some text ∧ v.read text = .ok x ∧
        (s.put v x).replaceFrom environment names = (t, .ok ()) := by
  rw [replaceFrom] at h
  cases hSet : environment v with
  | none =>
    rw [hSet] at h
    exact .inl ⟨rfl, h⟩
  | some text =>
    simp only [hSet, replace_eq] at h
    cases hRead : v.read text with
    | error e => simp [hRead, Except.map] at h
    | ok x =>
      rw [hRead] at h
      exact .inr ⟨text, x, rfl, hRead, h⟩

theorem fixed_replaceFrom (h : s.replaceFrom environment names = (t, .ok ())) :
    t.fixed = s.fixed := by
  induction names generalizing s with
  | nil =>
    cases h
    rfl
  | cons v names ih =>
    rcases replaceFrom_cons_ok h with ⟨_, hRest⟩ | ⟨text, x, _, _, hRest⟩
    · exact ih hRest
    · rw [ih hRest, fixed_put]

theorem value_replaceFrom_of_unset (h : s.replaceFrom environment names = (t, .ok ()))
    (hUnset : w ∉ names ∨ environment w = none) : t.value w = s.value w := by
  induction names generalizing s with
  | nil =>
    cases h
    rfl
  | cons v names ih =>
    have hLater : w ∉ names ∨ environment w = none :=
      hUnset.imp_left fun hAway hMem => hAway (List.mem_cons_of_mem v hMem)
    rcases replaceFrom_cons_ok h with ⟨_, hRest⟩ | ⟨text, x, hSet, _, hRest⟩
    · exact ih hRest hLater
    · -- `v` is set, so it is not the variable that is left alone
      have hOther : w ≠ v := by
        rintro rfl
        rcases hUnset with hAway | hNone
        · exact hAway (List.mem_cons_self ..)
        · rw [hSet] at hNone
          cases hNone
      rw [ih hRest hLater, value_put_of_ne hOther]

theorem read_of_replaceFrom (h : s.replaceFrom environment names = (t, .ok ())) (hMem : w ∈ names)
    (hSet : environment w = some text) : w.read text = .ok (t.value w) := by
  induction names generalizing s with
  | nil => cases hMem
  | cons v names ih =>
    -- if `w` comes again later, that is the value which stays
    by_cases hLater : w ∈ names
    · rcases replaceFrom_cons_ok h with ⟨_, hRest⟩ | ⟨_, _, _, _, hRest⟩
      · exact ih hRest hLater
      · exact ih hRest hLater
    · obtain rfl : w = v := (List.mem_cons.mp hMem).resolve_right hLater
      rcases replaceFrom_cons_ok h with ⟨hNone, _⟩ | ⟨other, x, hOther, hRead, hRest⟩
      · rw [hSet] at hNone
        cases hNone
      · obtain rfl := Option.some.inj (hSet.symm.trans hOther)
        rw [value_replaceFrom_of_unset hRest (.inl hLater), value_put_self, hRead]

theorem exists_replaceFrom_of_read
    (h : ∀ v ∈ names, ∀ text, environment v = some text → ∃ x, v.read text = .ok x)
    (s : Settings) : ∃ t, s.replaceFrom environment names = (t, .ok ()) := by
  induction names generalizing s with
  | nil => exact ⟨s, rfl⟩
  | cons v names ih =>
    have hLater := fun w hMem => h w (List.mem_cons_of_mem v hMem)
    rw [replaceFrom]
    cases hSet : environment v with
    | none => exact ih hLater s
    | some text =>
      obtain ⟨x, hRead⟩ := h v (List.mem_cons_self ..) text hSet
      simp only [replace_eq, hRead]
      exact ih hLater (s.put v x)

theorem mem_all (v : Variable) : v ∈ Variable.all := by
  cases v <;> decide

theorem underEnvironment_eq_ok_iff :
    s.underEnvironment environment = .ok t ↔
      s.override environment = (t, .ok ()) ∧ t.validate = .ok () := by
  rw [underEnvironment]
  rcases s.override environment with ⟨final, _ | _⟩
  · simp
  · simp only [Prod.mk.injEq, and_true]
    constructor
    · intro h
      cases hValid : final.validate with
      | error e => simp [hValid, Except.map] at h
      | ok _ =>
        rw [hValid] at h
        cases h
        exact ⟨rfl, hValid⟩
    · rintro ⟨rfl, hValid⟩
      rw [hValid]
      rfl

def replaceWith (s : Settings) (v : Variable) : Option v.Value → Settings
  | some x => s.put v x
  | none => s

theorem Agree.replaceWith {isOpen : Variable → Prop} (h : Agree isOpen s t) (v : Variable)
    (x? : Option v.Value) (hGiven : isOpen v → x? ≠ none) :
    Agree (fun w => isOpen w ∧ w ≠ v) (s.replaceWith v x?) (t.replaceWith v x?) := by
  cases x? with
  | some x => exact h.put v x
  | none =>
    refine ⟨h.fixed, fun w hClosed => h.value w fun hOpened => ?_⟩
    refine hClosed ⟨hOpened, ?_⟩
    rintro rfl
    exact hGiven hOpened rfl

end Settings

end DeviceUplink
