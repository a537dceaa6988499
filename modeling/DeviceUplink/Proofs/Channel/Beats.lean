import DeviceUplink.KeepAlive

/-!
# Pings and their answers

The beats of a run are its pings that got out and the answers that came in, each on a connection at
an instant. An answer measures a round trip if the last beat of its connection before it is a ping;
what any other connection has sent or received does not matter.
-/

namespace DeviceUplink

inductive Beat
  | ping (connection instant : Nat)
  | pong (connection instant : Nat)
deriving DecidableEq

namespace Beat

def connection : Beat → Nat
  | ping connection _ | pong connection _ => connection

def isPing : Beat → Bool
  | ping _ _ => true
  | pong _ _ => false

def sent? : Beat → Option Nat
  | ping _ instant => some instant
  | pong _ _ => none

end Beat

def lastBeat? (history : List Beat) (connection : Nat) : Option Beat :=
  (history.filter fun beat => beat.connection = connection).getLast?

def awaited (history : List Beat) (connection : Nat) : Option Nat :=
  (lastBeat? history connection).bind Beat.sent?

theorem lastBeat?_append (history more : List Beat) (connection : Nat) :
    lastBeat? (history ++ more) connection =
      (lastBeat? more connection).or (lastBeat? history connection) := by
  rw [lastBeat?, List.filter_append, List.getLast?_append]
  rfl

theorem lastBeat?_singleton {beat : Beat} {connection : Nat} (h : beat.connection = connection) :
    lastBeat? [beat] connection = some beat := by
  simp [lastBeat?, h]

theorem lastBeat?_eq_none_iff {history : List Beat} {connection : Nat} :
    lastBeat? history connection = none ↔ ∀ beat ∈ history, beat.connection ≠ connection := by
  simp [lastBeat?]

theorem lastBeat?_eq_some_iff {history : List Beat} {connection : Nat} {beat : Beat} :
    lastBeat? history connection = some beat ↔
      beat.connection = connection ∧ ∃ earlier later, history = earlier ++ beat :: later ∧
        ∀ other ∈ later, other.connection ≠ connection := by
  constructor
  · intro h
    obtain ⟨front, hFront⟩ := List.getLast?_eq_some_iff.mp h
    obtain ⟨first, rest, rfl, _, hRest⟩ := List.filter_eq_append_iff.mp hFront
    obtain ⟨between, later, rfl, _, hSame, hLater⟩ := List.filter_eq_cons_iff.mp hRest
    refine ⟨of_decide_eq_true hSame, first ++ between, later, ?_, by simpa using hLater⟩
    rw [List.append_assoc]
  · rintro ⟨rfl, earlier, later, rfl, hLater⟩
    rw [List.append_cons, lastBeat?_append, lastBeat?_append, lastBeat?_eq_none_iff.mpr hLater,
      lastBeat?_singleton rfl]
    rfl

theorem awaited_concat (history : List Beat) (beat : Beat) :
    awaited (history ++ [beat]) beat.connection = beat.sent? := by
  rw [awaited, lastBeat?_append, lastBeat?_singleton rfl]
  rfl

theorem awaited_of_forall_ne {history : List Beat} {connection : Nat}
    (h : ∀ beat ∈ history, beat.connection ≠ connection) : awaited history connection = none := by
  rw [awaited, lastBeat?_eq_none_iff.mpr h]
  rfl

theorem awaited_eq_some_iff {history : List Beat} {connection sent : Nat} :
    awaited history connection = some sent ↔
      ∃ earlier later, history = earlier ++ .ping connection sent :: later ∧
        ∀ beat ∈ later, beat.connection ≠ connection := by
  constructor
  · intro h
    obtain ⟨beat, hLast, hSent⟩ := Option.bind_eq_some_iff.mp h
    obtain ⟨rfl, hHistory⟩ := lastBeat?_eq_some_iff.mp hLast
    cases beat with
    | ping connection instant =>
      obtain rfl : instant = sent := Option.some.inj hSent
      exact hHistory
    | pong => cases hSent
  · intro hHistory
    have hLast : lastBeat? history connection = some (.ping connection sent) :=
      lastBeat?_eq_some_iff.mpr ⟨rfl, hHistory⟩
    rw [awaited, hLast]
    rfl

theorem isSome_awaited_iff {history : List Beat} {connection : Nat} :
    (awaited history connection).isSome = true ↔
      ∃ earlier sent later, history = earlier ++ .ping connection sent :: later ∧
        ∀ instant, .pong connection instant ∉ later := by
  constructor
  · intro h
    obtain ⟨sent, hSent⟩ := Option.isSome_iff_exists.mp h
    obtain ⟨earlier, later, hHistory, hLater⟩ := awaited_eq_some_iff.mp hSent
    exact ⟨earlier, sent, later, hHistory, fun instant hPong => hLater _ hPong rfl⟩
  · rintro ⟨earlier, sent, later, rfl, hLater⟩
    have hPing : lastBeat? [.ping connection sent] connection = some (.ping connection sent) :=
      lastBeat?_singleton rfl
    rw [awaited, List.append_cons, lastBeat?_append, lastBeat?_append, hPing]
    cases hLast : lastBeat? later connection with
    | none => rfl
    | some beat =>
      obtain ⟨hSame, before, after, rfl, _⟩ := lastBeat?_eq_some_iff.mp hLast
      cases beat with
      | ping => rfl
      | pong other instant =>
        obtain rfl : other = connection := hSame
        have hPong : Beat.pong other instant ∈ before ++ .pong other instant :: after := by simp
        exact absurd hPong (hLater instant)

def Beat.measure? (history : List Beat) : Beat → Option Duration
  | .ping _ _ => none
  | .pong connection instant => (awaited history connection).map fun sent => ⟨instant - sent⟩

/-- All round trips that are measured, the oldest first, when this has been before. -/
def roundTrips (past : List Beat) : List Beat → List Duration
  | [] => []
  | beat :: rest => (beat.measure? past).toList ++ roundTrips (past ++ [beat]) rest

theorem Beat.measure?_pong_eq_some_iff {history : List Beat} {connection instant : Nat}
    {roundTrip : Duration} :
    Beat.measure? history (.pong connection instant) = some roundTrip ↔
      ∃ earlier sent later, history = earlier ++ .ping connection sent :: later ∧
        (∀ beat ∈ later, beat.connection ≠ connection) ∧ roundTrip = ⟨instant - sent⟩ := by
  simp only [Beat.measure?, Option.map_eq_some_iff, awaited_eq_some_iff]
  constructor
  · rintro ⟨sent, ⟨earlier, later, hHistory, hLater⟩, rfl⟩
    exact ⟨earlier, sent, later, hHistory, hLater, rfl⟩
  · rintro ⟨earlier, sent, later, hHistory, hLater, rfl⟩
    exact ⟨sent, ⟨earlier, later, hHistory, hLater⟩, rfl⟩

theorem Beat.isSome_measure?_pong_iff {history : List Beat} {connection instant : Nat} :
    (Beat.measure? history (.pong connection instant)).isSome = true ↔
      ∃ earlier sent later, history = earlier ++ .ping connection sent :: later ∧
        ∀ instant, .pong connection instant ∉ later := by
  rw [Beat.measure?, Option.isSome_map, isSome_awaited_iff]

theorem roundTrips_append (past first rest : List Beat) :
    roundTrips past (first ++ rest) =
      roundTrips past first ++ roundTrips (past ++ first) rest := by
  induction first generalizing past with
  | nil => simp [roundTrips]
  | cons beat more ih => simp [roundTrips, ih]

theorem roundTrips_concat (history : List Beat) (beat : Beat) :
    roundTrips [] (history ++ [beat]) =
      roundTrips [] history ++ (beat.measure? history).toList := by
  simp [roundTrips_append, roundTrips]

theorem roundTrips_of_isPing {beats : List Beat} (h : ∀ beat ∈ beats, beat.isPing = true)
    (past : List Beat) : roundTrips past beats = [] := by
  induction beats generalizing past with
  | nil => rfl
  | cons beat rest ih =>
    have hFirst : beat.measure? past = none := by
      cases beat with
      | ping => rfl
      | pong => cases h _ (List.mem_cons_self ..)
    rw [roundTrips, hFirst, ih fun other hOther => h other (List.mem_cons_of_mem _ hOther)]
    rfl

end DeviceUplink
