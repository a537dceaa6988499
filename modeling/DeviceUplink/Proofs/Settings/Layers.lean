import DeviceUplink.Proofs.Settings.Values

/-!
# Layers of settings

Settings come from a file, the environment and the command line, each of which counts more than the
ones before it. A value that is replaced later does not matter, with one reserve: what file and
environment come to has to be good by itself before the arguments are looked at.
-/

namespace DeviceUplink

structure Sources where
  text : String
  file : Settings
  isRead : Settings.ofDocument? text = some file
  environment : Environment

namespace Sources

variable {x y : Sources} {replaced : Variable → Prop} {s t : Settings}

def load (x : Sources) : Except SettingsError Settings :=
  Settings.load (some x.text) x.environment

def outcome (x : Sources) (a : Arguments) : Option Settings :=
  (a.settings (some x.text) x.environment).toOption

/-- The sources differ in values that are replaced later at most: in those that the arguments
replace, and in values of the file that the environment replaces. -/
structure Agree (replaced : Variable → Prop) (x y : Sources) : Prop where
  environment : ∀ v, ¬ replaced v → x.environment v = y.environment v
  file : ∀ v, ¬ replaced v → x.environment v = none → x.file.value v = y.file.value v
  fixed : x.file.fixed = y.file.fixed

/-- What file and environment come to for the variable can be read and put to use by itself. -/
def IsUsable (x : Sources) (v : Variable) : Prop :=
  match x.environment v with
  | some text => ∃ value, v.read text = .ok value ∧ v.Accepts value
  | none => v.Accepts (x.file.value v)

theorem load_eq (x : Sources) : x.load = x.file.underEnvironment x.environment := by
  rw [load, Settings.load, Option.bind_some, x.isRead, Option.getD_some]

theorem isUsable_iff_of_override (h : x.file.override x.environment = (s, .ok ())) (v : Variable) :
    x.IsUsable v ↔ v.Accepts (s.value v) := by
  rw [IsUsable]
  cases hSet : x.environment v with
  | none =>
    simp only
    rw [Settings.value_replaceFrom_of_unset h (.inr hSet)]
  | some text =>
    simp only
    rw [Settings.read_of_replaceFrom h (Settings.mem_all v) hSet]
    simp

theorem exists_load_iff :
    (∃ s, x.load = .ok s) ↔ (∀ v, x.IsUsable v) ∧ Settings.AcceptsFixed x.file.fixed := by
  simp only [load_eq, Settings.underEnvironment_eq_ok_iff, Settings.validate_eq_ok_iff_values]
  constructor
  · rintro ⟨s, hOverride, hValues, hFixed⟩
    exact ⟨fun v => (isUsable_iff_of_override hOverride v).mpr (hValues v),
      Settings.fixed_replaceFrom hOverride ▸ hFixed⟩
  · rintro ⟨hUsable, hFixed⟩
    obtain ⟨s, hOverride⟩ : ∃ s, x.file.override x.environment = (s, .ok ()) := by
      refine Settings.exists_replaceFrom_of_read (fun v _ text hSet => ?_) x.file
      have hRead := hUsable v
      simp only [IsUsable, hSet] at hRead
      obtain ⟨value, hValue, _⟩ := hRead
      exact ⟨value, hValue⟩
    exact ⟨s, hOverride, fun v => (isUsable_iff_of_override hOverride v).mp (hUsable v),
      Settings.fixed_replaceFrom hOverride ▸ hFixed⟩

theorem Agree.isUsable_iff (h : x.Agree replaced y) {v : Variable} (hKept : ¬ replaced v) :
    x.IsUsable v ↔ y.IsUsable v := by
  have hSame := h.environment v hKept
  rw [IsUsable, IsUsable, ← hSame]
  cases hSet : x.environment v with
  | none => rw [h.file v hKept hSet]
  | some text => exact Iff.rfl

theorem Agree.exists_load_iff (h : x.Agree replaced y)
    (hUsable : (∀ v, replaced v → x.IsUsable v) ↔ ∀ v, replaced v → y.IsUsable v) :
    (∃ s, x.load = .ok s) ↔ ∃ t, y.load = .ok t := by
  have hAll (z : Sources) : (∀ v, z.IsUsable v) ↔
      (∀ v, replaced v → z.IsUsable v) ∧ ∀ v, ¬ replaced v → z.IsUsable v := by
    constructor
    · exact fun hEvery => ⟨fun v _ => hEvery v, fun v _ => hEvery v⟩
    · rintro ⟨hReplaced, hKept⟩ v
      by_cases hv : replaced v
      · exact hReplaced v hv
      · exact hKept v hv
  have hKept : (∀ v, ¬ replaced v → x.IsUsable v) ↔ ∀ v, ¬ replaced v → y.IsUsable v :=
    forall₂_congr fun _ hv => h.isUsable_iff hv
  rw [Sources.exists_load_iff, Sources.exists_load_iff, hAll, hAll, hUsable, hKept, h.fixed]

/-- What both come to, if they come to anything, differs in values that are replaced later. -/
theorem Agree.of_override (h : x.Agree replaced y)
    (hx : x.file.override x.environment = (s, .ok ()))
    (hy : y.file.override y.environment = (t, .ok ())) : Settings.Agree replaced s t where
  fixed := by
    rw [Settings.fixed_replaceFrom hx, Settings.fixed_replaceFrom hy, h.fixed]
  value v hKept := by
    have hSame := h.environment v hKept
    cases hSet : x.environment v with
    | none =>
      rw [Settings.value_replaceFrom_of_unset hx (.inr hSet),
        Settings.value_replaceFrom_of_unset hy (.inr (hSame.symm.trans hSet)),
        h.file v hKept hSet]
    | some text =>
      have hFirst := Settings.read_of_replaceFrom hx (Settings.mem_all v) hSet
      have hSecond := Settings.read_of_replaceFrom hy (Settings.mem_all v) (hSame.symm.trans hSet)
      exact Except.ok.inj (hFirst.symm.trans hSecond)

theorem Agree.load_eq (h : x.Agree (fun _ => False) y) : x.load = y.load := by
  have hEnvironment : x.environment = y.environment :=
    funext fun v => h.environment v not_false
  have hRead : (x.file.override x.environment).2 = (y.file.override y.environment).2 := by
    rw [hEnvironment]
    exact Settings.replaceFrom_snd ..
  rw [Sources.load_eq, Sources.load_eq, Settings.underEnvironment, Settings.underEnvironment]
  cases hx : x.file.override x.environment with
  | mk s first =>
    cases hy : y.file.override y.environment with
    | mk t second =>
      obtain rfl : first = second := by rw [hx, hy] at hRead; exact hRead
      cases first with
      | error e => rfl
      | ok _ => rw [(h.of_override hx hy).eq]

end Sources

namespace Arguments

variable {a : Arguments} {s t : Settings}

def replaces (a : Arguments) : Variable → Prop
  | .keepAlive => a.keepAlive ≠ none
  | .operationsServers => a.servers ≠ []
  | .connectivityProbe => a.connectivityProbe ≠ none
  | .retryDelay => a.retryDelay ≠ none
  | .connectTimeout | .maxConsecutiveFailures | .bootstrapServers => False

def entries? (a : Arguments) : Except SettingsError (Option (List ServerEntry)) :=
  match a.servers with
  | [] => .ok none
  | entries => (ServerEntry.parseAll (entries.map String.toList)).map some

theorem withKeepAlive_eq (s : Settings) :
    a.withKeepAlive s = s.replaceWith .keepAlive a.keepAlive := by
  rw [withKeepAlive]
  cases a.keepAlive <;> rfl

theorem withServers_eq (s : Settings) :
    a.withServers s = a.entries?.map (s.replaceWith .operationsServers) := by
  rw [withServers, entries?]
  cases a.servers with
  | nil => rfl
  | cons entry rest =>
    dsimp only
    cases ServerEntry.parseAll ((entry :: rest).map String.toList) <;> rfl

theorem withProbe_eq (s : Settings) :
    a.withProbe s = s.replaceWith .connectivityProbe (a.connectivityProbe.map some) := by
  rw [withProbe]
  cases a.connectivityProbe <;> rfl

theorem withRetryDelay_eq (s : Settings) :
    a.withRetryDelay s = s.replaceWith .retryDelay (a.retryDelay.map Duration.format) := by
  rw [withRetryDelay]
  cases a.retryDelay <;> rfl

theorem entries?_ne_none {entries : Option (List ServerEntry)} (h : a.entries? = .ok entries)
    (hSome : a.servers ≠ []) : entries ≠ none := by
  rw [entries?] at h
  split at h
  · next hNone => exact absurd hNone hSome
  · generalize ServerEntry.parseAll _ = parsed at h
    cases parsed with
    | error e => cases h
    | ok parsed =>
      cases h
      exact Option.some_ne_none parsed

/-- Everything that the arguments replace is the same after them. -/
theorem withAll_eq {entries : Option (List ServerEntry)} (h : a.entries? = .ok entries)
    (hAgree : Settings.Agree a.replaces s t) :
    a.withRetryDelay (a.withProbe ((a.withKeepAlive s).replaceWith .operationsServers entries)) =
      a.withRetryDelay
        (a.withProbe ((a.withKeepAlive t).replaceWith .operationsServers entries)) := by
  simp only [withKeepAlive_eq, withProbe_eq, withRetryDelay_eq]
  -- each replacement closes its variable, and after the fourth none is open
  have hKeepAlive := hAgree.replaceWith .keepAlive a.keepAlive id
  have hServers := hKeepAlive.replaceWith .operationsServers entries
    fun hOpen => entries?_ne_none h hOpen.1
  have hProbe := hServers.replaceWith .connectivityProbe (a.connectivityProbe.map some)
    fun hOpen => mt Option.map_eq_none_iff.mp hOpen.1.1
  have hDelay := hProbe.replaceWith .retryDelay (a.retryDelay.map Duration.format)
    fun hOpen => mt Option.map_eq_none_iff.mp hOpen.1.1.1
  refine (hDelay.mono ?_).eq
  rintro v ⟨⟨⟨⟨hOpen, hFirst⟩, hSecond⟩, hThird⟩, hFourth⟩
  cases v <;> simp_all [replaces]

def applied? (a : Arguments) (s : Settings) : Option Settings :=
  match a.applyTo s with
  | (_, .error _) => none
  | (final, .ok _) => some final

theorem applied?_eq_of_agree (h : Settings.Agree a.replaces s t) :
    a.applied? s = a.applied? t := by
  rw [applied?, applied?, applyTo, applyTo, withServers_eq, withServers_eq]
  cases hEntries : a.entries? with
  | error e => rfl
  | ok entries =>
    simp only [Except.map]
    rw [withAll_eq hEntries h]

theorem validate_of_applied? {final : Settings} (h : a.applied? s = some final) :
    final.validate = .ok () := by
  rw [applied?, applyTo, withServers_eq] at h
  cases hEntries : a.entries? with
  | error e =>
    rw [hEntries] at h
    cases h
  | ok entries =>
    simp only [hEntries, Except.map] at h
    split at h
    · cases h
    · next hApplied =>
      obtain rfl := Option.some.inj h
      obtain ⟨hFinal, hValid⟩ := Prod.mk.inj hApplied
      rw [← hFinal, hValid]

end Arguments

namespace Sources

variable {x y : Sources} {a : Arguments} {s : Settings}

/-- The arguments are applied to what has been loaded. -/
theorem outcome_eq (x : Sources) (a : Arguments) :
    x.outcome a = x.load.toOption.bind a.applied? := by
  rw [outcome, Arguments.settings, load]
  cases Settings.load (some x.text) x.environment with
  | error e => rfl
  | ok s =>
    simp only [Except.toOption, Option.bind_some, Arguments.applied?]
    generalize a.applyTo s = applied
    rcases applied with ⟨final, _ | _⟩ <;> rfl

theorem load_of_outcome {final : Settings} (h : x.outcome a = some final) :
    ∃ s, x.load = .ok s ∧ a.applied? s = some final := by
  rw [outcome_eq] at h
  obtain ⟨s, hLoaded, hApplied⟩ := Option.bind_eq_some_iff.mp h
  cases hx : x.load with
  | error e =>
    rw [hx] at hLoaded
    cases hLoaded
  | ok loaded =>
    rw [hx] at hLoaded
    cases hLoaded
    exact ⟨s, rfl, hApplied⟩

theorem override_of_load (h : x.load = .ok s) :
    x.file.override x.environment = (s, .ok ()) :=
  (Settings.underEnvironment_eq_ok_iff.mp (load_eq x ▸ h)).1

/-- A value that a later layer replaces matters in one way only. File and environment have to be
good by themselves, so a value in them that cannot be used prevents the start even if the arguments
replace it. Apart from that, sources that differ in values which the environment or the arguments
replace lead to the same outcome; where the environment does, whatever the values are. -/
theorem only_unusable_replaced_values_matter (a : Arguments) {x y : Sources}
    (h : x.Agree a.replaces y) :
    (((∀ v, a.replaces v → x.IsUsable v) ↔ ∀ v, a.replaces v → y.IsUsable v) →
        x.outcome a = y.outcome a) ∧
      (∀ v, ¬ x.IsUsable v → x.outcome a = none) ∧
      (x.Agree (fun _ => False) y → x.load = y.load ∧ x.outcome a = y.outcome a) ∧
      ∀ final, x.outcome a = some final → ∃ plan, final.plan = .ok plan := by
  refine ⟨?_, ?_, ?_, ?_⟩
  · intro hUsable
    have hBoth := h.exists_load_iff hUsable
    rw [outcome_eq, outcome_eq]
    cases hx : x.load with
    | error e =>
      cases hy : y.load with
      | error e' => rfl
      | ok t => simp [hx, hy] at hBoth
    | ok s =>
      cases hy : y.load with
      | error e => simp [hx, hy] at hBoth
      | ok t =>
        have hAgree := h.of_override (override_of_load hx) (override_of_load hy)
        exact Arguments.applied?_eq_of_agree hAgree
  · intro v hUnusable
    refine Option.eq_none_iff_forall_ne_some.mpr fun final hOutcome => hUnusable ?_
    obtain ⟨s, hLoaded, _⟩ := load_of_outcome hOutcome
    exact (exists_load_iff.mp ⟨s, hLoaded⟩).1 v
  · intro hFile
    have hLoad := hFile.load_eq
    exact ⟨hLoad, by rw [outcome_eq, outcome_eq, hLoad]⟩
  · intro final hOutcome
    obtain ⟨s, _, hApplied⟩ := load_of_outcome hOutcome
    exact Settings.validate_eq_ok_iff.mp (Arguments.validate_of_applied? hApplied)

def bare (v : Variable) (text : String) : Sources where
  text := "uplink: {}"
  file := {}
  isRead := by decide +kernel
  environment w := if w = v then some text else none

def misspelt (v : Variable) (text : String) : Sources where
  text := "uplink: {keep_alive: 30, failover: {retry_delay: soon}}"
  file := { keepAlive := 30, failover := { retryDelay := "soon" } }
  isRead := by decide +kernel
  environment w := if w = v then some text else none

/-- The delay of the file is replaced by the environment and its keep-alive by the arguments. -/
theorem misspelt_delay_is_forgotten :
    let a : Arguments := { keepAlive := some 45 }
    (misspelt .retryDelay "1m").Agree a.replaces (bare .retryDelay "1m") ∧
      (misspelt .retryDelay "1m").outcome a = (bare .retryDelay "1m").outcome a ∧
      (bare .retryDelay "1m").outcome a =
        some { keepAlive := 45, failover := { retryDelay := "1m" } } := by
  intro a
  have hAgree : (misspelt .retryDelay "1m").Agree a.replaces (bare .retryDelay "1m") :=
    { environment := fun _ _ => rfl
      file := by
        intro v hKept hUnset
        cases v with
        | keepAlive => exact absurd (Option.some_ne_none 45) hKept
        | retryDelay => cases hUnset
        | connectTimeout | connectivityProbe | maxConsecutiveFailures | operationsServers
        | bootstrapServers => rfl
      fixed := rfl }
  refine ⟨hAgree, ?_, by decide +kernel⟩
  obtain ⟨hSame, _⟩ := only_unusable_replaced_values_matter a hAgree
  -- the arguments replace the keep-alive alone, and every keep-alive of a file can be used
  have hUsable (x : Sources) (hUnset : x.environment .keepAlive = none) (v : Variable)
      (hReplaced : a.replaces v) : x.IsUsable v := by
    cases v with
    | keepAlive =>
      simp only [IsUsable, hUnset, Variable.Accepts]
    | operationsServers | connectivityProbe | retryDelay => exact absurd rfl hReplaced
    | connectTimeout | maxConsecutiveFailures | bootstrapServers => cases hReplaced
  exact hSame ⟨fun _ => hUsable _ rfl, fun _ => hUsable _ rfl⟩

/-- Only the arguments replace the delay, and the environment is refused before they do. -/
theorem misspelt_delay_prevents_start :
    let a : Arguments := { retryDelay := some (.ofSeconds 5) }
    (bare .retryDelay "soon").Agree a.replaces (bare .retryDelay "1m") ∧
      (bare .retryDelay "soon").outcome a = none ∧ (bare .retryDelay "1m").outcome a = some {} := by
  intro a
  refine ⟨⟨?_, fun _ _ _ => rfl, rfl⟩, by decide +kernel, by decide +kernel⟩
  intro v hKept
  cases v with
  | retryDelay => exact absurd (Option.some_ne_none _) hKept
  | keepAlive | connectTimeout | connectivityProbe | maxConsecutiveFailures | operationsServers
  | bootstrapServers => rfl

end Sources

end DeviceUplink
