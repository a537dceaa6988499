import DeviceUplink.Channel.Turn

/-!
# The order of frames

What a channel may write, and when. `Line` is where it stands with its present connection, and
`Line.Step` lets one occurrence pass or not. Everything about the order of the frames of a
connection follows from a `Conversation`, which is a log that passes as a whole.
-/

namespace DeviceUplink

namespace Occurrence

def isSpoken : Occurrence → Bool
  | sent _ _ | serverConnected _ => true
  | _ => false

def isMishap : Occurrence → Bool
  | sendFailed _ _ | syncDropped _ => true
  | _ => false

end Occurrence

inductive Line
  /-- There is no connection. All that there were have no higher number than this. -/
  | idle (last : Nat)
  | greeted (connection : Nat)
  /-- The session is open and the failover knows; the first request comes next. -/
  | announced (connection : Nat)
  /-- The first request is compiled and comes next. -/
  | asked (connection : Nat)
  | opened (connection : Nat)

namespace Line

def last : Line → Nat
  | idle last => last
  | greeted connection | announced connection | asked connection | opened connection => connection

def connection : Line → Option Nat
  | idle _ => none
  | greeted connection | announced connection | asked connection | opened connection =>
    some connection

def isFree : Line → Bool
  | idle _ | greeted _ | opened _ => true
  | announced _ | asked _ => false

def isOpened : Line → Bool
  | opened _ => true
  | _ => false

/-- One occurrence. The first request is one `made` for all that is `supported`. -/
inductive Step (supported : DirectionMap) (made : SyncBody → Prop) : Line → Occurrence → Line → Prop
  | aside {line : Line} {o : Occurrence} (hLine : line.isFree = true) (h : o.isSpoken = false) :
      Step supported made line o line
  | connect {last connection : Nat} (body : Connect) (h : last < connection) :
      Step supported made (idle last) (.sent connection (.connect body)) (greeted connection)
  | early (connection : Nat) :
      Step supported made (greeted connection) (.sent connection .pingReq) (greeted connection)
  | announce (connection : Nat) (server : Server) :
      Step supported made (greeted connection) (.serverConnected server) (announced connection)
  | ask (connection : Nat) :
      Step supported made (announced connection) (.compiled supported) (asked connection)
  | first (connection : Nat) {body : SyncBody} (h : made body) :
      Step supported made (asked connection) (.sent connection (.syncRequest body))
        (opened connection)
  | ping (connection : Nat) :
      Step supported made (opened connection) (.sent connection .pingReq) (opened connection)
  | sync (connection : Nat) (body : SyncBody) :
      Step supported made (opened connection) (.sent connection (.syncRequest body))
        (opened connection)
  | unopened (connection : Nat) :
      Step supported made (greeted connection) (.sent connection Turn.farewell) (idle connection)
  | farewell (connection : Nat) :
      Step supported made (opened connection) (.sent connection Turn.farewell) (idle connection)

end Line

inductive Conversation (supported : DirectionMap) (made : SyncBody → Prop) :
    Line → List Occurrence → Line → Prop
  | nil (line : Line) : Conversation supported made line [] line
  | cons {line next last : Line} {o : Occurrence} {log : List Occurrence}
      (h : line.Step supported made o next) (hRest : Conversation supported made next log last) :
      Conversation supported made line (o :: log) last

def written (connection : Nat) (log : List Occurrence) : List Frame :=
  log.filterMap fun
    | .sent other frame => if other = connection then some frame else none
    | _ => none

inductive Ending : List Frame → Prop
  | open : Ending []
  | closed : Ending [Turn.farewell]

def Frame.isTalk : Frame → Bool
  | .pingReq | .syncRequest _ => true
  | _ => false

/-- The frames of one connection, from its CONNECT on. -/
inductive Exchange (made : SyncBody → Prop) : List Frame → Prop
  | unused : Exchange made []
  | unopened (connect : Connect) {pings ending : List Frame} (hPings : ∀ f ∈ pings, f = .pingReq)
      (hEnding : Ending ending) : Exchange made (.connect connect :: (pings ++ ending))
  | opened (connect : Connect) {pings talk ending : List Frame} {body : SyncBody}
      (hPings : ∀ f ∈ pings, f = .pingReq) (hBody : made body)
      (hTalk : ∀ f ∈ talk, f.isTalk = true) (hEnding : Ending ending) :
      Exchange made (.connect connect :: (pings ++ .syncRequest body :: (talk ++ ending)))

namespace Conversation

variable {supported : DirectionMap} {made : SyncBody → Prop} {a b d : Line}
  {log more : List Occurrence} {connection : Nat}

theorem append (h : Conversation supported made a log b)
    (h' : Conversation supported made b more d) :
    Conversation supported made a (log ++ more) d := by
  induction h with
  | nil => exact h'
  | cons hStep _ ih => exact .cons hStep (ih h')

theorem split (h : Conversation supported made a (log ++ more) d) :
    ∃ b, Conversation supported made a log b ∧ Conversation supported made b more d := by
  induction log generalizing a with
  | nil => exact ⟨a, .nil a, h⟩
  | cons o rest ih =>
    cases h with
    | cons hStep hRest =>
      obtain ⟨b, hFirst, hMore⟩ := ih hRest
      exact ⟨b, .cons hStep hFirst, hMore⟩

theorem single {o : Occurrence} (h : a.Step supported made o b) :
    Conversation supported made a [o] b :=
  .cons h (.nil b)

theorem asides (hLine : a.isFree = true) (h : ∀ o ∈ log, o.isSpoken = false) :
    Conversation supported made a log a := by
  induction log with
  | nil => exact .nil a
  | cons o rest ih =>
    have hRest := ih fun other hOther => h other (List.mem_cons_of_mem o hOther)
    exact .cons (.aside hLine (h o (List.mem_cons_self ..))) hRest

theorem mono {other : SyncBody → Prop} (hMade : ∀ body, made body → other body)
    (h : Conversation supported made a log b) : Conversation supported other a log b := by
  induction h with
  | nil line => exact .nil line
  | cons hStep _ ih =>
    refine .cons ?_ ih
    cases hStep with
    | aside hLine hAside => exact .aside hLine hAside
    | connect body hLast => exact .connect body hLast
    | early => exact .early _
    | announce _ server => exact .announce _ server
    | ask => exact .ask _
    | first _ hBody => exact .first _ (hMade _ hBody)
    | ping => exact .ping _
    | sync _ body => exact .sync _ body
    | unopened => exact .unopened _
    | farewell => exact .farewell _

theorem written_cons_of_ne {o : Occurrence} (h : ∀ frame, o ≠ .sent connection frame) :
    written connection (o :: log) = written connection log := by
  cases o with
  | sent other frame =>
    have hNe : other ≠ connection := by
      rintro rfl
      exact h frame rfl
    simp [written, hNe]
  | _ => rfl

theorem written_cons_sent (frame : Frame) :
    written connection (.sent connection frame :: log) = frame :: written connection log := by
  simp [written]

theorem ne_sent_of_aside {o : Occurrence} (h : o.isSpoken = false) (frame : Frame) :
    o ≠ .sent connection frame := by
  rintro rfl
  cases h

theorem past_of_step {o : Occurrence} (h : a.Step supported made o b) (hLast : connection ≤ a.last)
    (hPast : a.connection ≠ some connection) :
    connection ≤ b.last ∧ b.connection ≠ some connection ∧ ∀ frame, o ≠ .sent connection frame := by
  cases h with
  | aside _ hAside => exact ⟨hLast, hPast, ne_sent_of_aside hAside⟩
  | connect body hNext =>
    simp only [Line.last] at hLast
    refine ⟨by simp only [Line.last]; omega, ?_, ?_⟩
    · simp only [Line.connection, ne_eq, Option.some.injEq]
      omega
    · intro frame hFrame
      cases hFrame
      omega
  | _ =>
    simp only [Line.last, Line.connection, ne_eq, Option.some.injEq] at hLast hPast ⊢
    refine ⟨hLast, ?_, ?_⟩
    · first | exact hPast | simp
    · intro frame hFrame
      cases hFrame
      try exact hPast rfl

theorem written_of_past (h : Conversation supported made a log b) (hLast : connection ≤ a.last)
    (hPast : a.connection ≠ some connection) : written connection log = [] := by
  induction h with
  | nil => rfl
  | cons hStep _ ih =>
    obtain ⟨hLast, hPast, hNot⟩ := past_of_step hStep hLast hPast
    rw [written_cons_of_ne hNot]
    exact ih hLast hPast

theorem written_of_idle (h : Conversation supported made (.idle connection) log b) :
    written connection log = [] :=
  h.written_of_past (Nat.le_refl _) (by simp [Line.connection])

theorem written_of_opened (h : Conversation supported made (.opened connection) log b) :
    ∃ talk ending, written connection log = talk ++ ending ∧
      (∀ f ∈ talk, f.isTalk = true) ∧ Ending ending := by
  induction log with
  | nil => exact ⟨[], [], rfl, by simp, .open⟩
  | cons o rest ih =>
    cases h with
    | cons hStep hRest =>
      cases hStep with
      | aside _ hAside =>
        rw [written_cons_of_ne (ne_sent_of_aside hAside)]
        exact ih hRest
      | ping =>
        obtain ⟨talk, ending, hWritten, hTalk, hEnding⟩ := ih hRest
        rw [written_cons_sent, hWritten]
        exact ⟨.pingReq :: talk, ending, rfl, List.forall_mem_cons.mpr ⟨rfl, hTalk⟩, hEnding⟩
      | sync _ body =>
        obtain ⟨talk, ending, hWritten, hTalk, hEnding⟩ := ih hRest
        rw [written_cons_sent, hWritten]
        exact ⟨.syncRequest body :: talk, ending, rfl, List.forall_mem_cons.mpr ⟨rfl, hTalk⟩,
          hEnding⟩
      | farewell =>
        rw [written_cons_sent, hRest.written_of_idle]
        exact ⟨[], [Turn.farewell], rfl, by simp, .closed⟩

theorem written_of_asked (h : Conversation supported made (.asked connection) log b) :
    written connection log = [] ∨ ∃ body talk ending, made body ∧
      written connection log = .syncRequest body :: (talk ++ ending) ∧
      (∀ f ∈ talk, f.isTalk = true) ∧ Ending ending := by
  cases h with
  | nil => exact .inl rfl
  | cons hStep hRest =>
    cases hStep with
    | aside hLine => cases hLine
    | first _ hBody =>
      obtain ⟨talk, ending, hWritten, hTalk, hEnding⟩ := hRest.written_of_opened
      rw [written_cons_sent, hWritten]
      exact .inr ⟨_, talk, ending, hBody, rfl, hTalk, hEnding⟩

theorem written_of_announced (h : Conversation supported made (.announced connection) log b) :
    written connection log = [] ∨ ∃ body talk ending, made body ∧
      written connection log = .syncRequest body :: (talk ++ ending) ∧
      (∀ f ∈ talk, f.isTalk = true) ∧ Ending ending := by
  cases h with
  | nil => exact .inl rfl
  | cons hStep hRest =>
    cases hStep with
    | aside hLine => cases hLine
    | ask =>
      rw [written_cons_of_ne (by simp)]
      exact hRest.written_of_asked

theorem written_of_greeted (h : Conversation supported made (.greeted connection) log b) :
    ∃ pings rest, written connection log = pings ++ rest ∧ (∀ f ∈ pings, f = .pingReq) ∧
      (Ending rest ∨ ∃ body talk ending, made body ∧ rest = .syncRequest body :: (talk ++ ending) ∧
        (∀ f ∈ talk, f.isTalk = true) ∧ Ending ending) := by
  induction log with
  | nil => exact ⟨[], [], rfl, by simp, .inl .open⟩
  | cons o more ih =>
    cases h with
    | cons hStep hRest =>
      cases hStep with
      | aside _ hAside =>
        rw [written_cons_of_ne (ne_sent_of_aside hAside)]
        exact ih hRest
      | early =>
        obtain ⟨pings, rest, hWritten, hPings, hAfter⟩ := ih hRest
        rw [written_cons_sent, hWritten]
        exact ⟨.pingReq :: pings, rest, rfl, List.forall_mem_cons.mpr ⟨rfl, hPings⟩, hAfter⟩
      | announce =>
        rw [written_cons_of_ne (by simp)]
        rcases hRest.written_of_announced with hNone | hOpened
        · exact ⟨[], [], hNone, by simp, .inl .open⟩
        · obtain ⟨body, talk, ending, hBody, hWritten, hTalk, hEnding⟩ := hOpened
          exact ⟨[], _, hWritten, by simp, .inr ⟨body, talk, ending, hBody, rfl, hTalk, hEnding⟩⟩
      | unopened =>
        rw [written_cons_sent, hRest.written_of_idle]
        exact ⟨[], [Turn.farewell], rfl, by simp, .inl .closed⟩

theorem exchange_of_greeted (h : Conversation supported made (.greeted connection) log b)
    (connect : Connect) : Exchange made (.connect connect :: written connection log) := by
  obtain ⟨pings, rest, hWritten, hPings, hAfter⟩ := h.written_of_greeted
  rw [hWritten]
  rcases hAfter with hEnding | ⟨body, talk, ending, hBody, rfl, hTalk, hEnding⟩
  · exact .unopened connect hPings hEnding
  · exact .opened connect hPings hBody hTalk hEnding

theorem exchange (h : Conversation supported made a log b) (hLast : a.last < connection) :
    Exchange made (written connection log) := by
  induction h with
  | nil => exact .unused
  | cons hStep hRest ih =>
    cases hStep with
    | aside _ hAside =>
      rw [written_cons_of_ne (ne_sent_of_aside hAside)]
      exact ih hLast
    | @connect _ other body =>
      by_cases hSame : other = connection
      · subst hSame
        rw [written_cons_sent]
        exact hRest.exchange_of_greeted body
      · rw [written_cons_of_ne (by rintro frame hFrame; cases hFrame; exact hSame rfl)]
        by_cases hBefore : other < connection
        · exact ih hBefore
        · rw [hRest.written_of_past (by simp only [Line.last]; omega) (by simpa [Line.connection])]
          exact .unused
    | announce | ask =>
      rw [written_cons_of_ne (by simp)]
      exact ih hLast
    | _ =>
      rw [written_cons_of_ne (by rintro frame hFrame; cases hFrame; exact Nat.lt_irrefl _ hLast)]
      exact ih hLast

theorem live_of_step {o : Occurrence} (h : a.Step supported made o b)
    (hLive : a.connection = some connection ∨ ∃ frame, o = .sent connection frame) :
    b.connection = some connection ∨ o = .sent connection Turn.farewell := by
  cases h with
  | aside _ hAside =>
    rcases hLive with hLive | ⟨frame, rfl⟩
    · exact .inl hLive
    · cases hAside
  | _ => simp_all [Line.connection]

/-- The connections that are over have had their farewell. -/
theorem farewell_of_live (h : Conversation supported made a log b)
    (hLive : a.connection = some connection ∨ ∃ frame, .sent connection frame ∈ log) :
    b.connection = some connection ∨ .sent connection Turn.farewell ∈ log := by
  induction h with
  | nil =>
    rcases hLive with hLive | ⟨_, hNil⟩
    · exact .inl hLive
    · cases hNil
  | @cons line next last o rest hStep _ ih =>
    have hCases : (line.connection = some connection ∨ ∃ frame, o = .sent connection frame) ∨
        ∃ frame, .sent connection frame ∈ rest := by
      rcases hLive with hLive | ⟨frame, hSent⟩
      · exact .inl (.inl hLive)
      · rcases List.mem_cons.mp hSent with hSent | hSent
        · exact .inl (.inr ⟨frame, hSent.symm⟩)
        · exact .inr ⟨frame, hSent⟩
    have hLater : next.connection = some connection ∨ (∃ frame, .sent connection frame ∈ rest) →
        last.connection = some connection ∨ .sent connection Turn.farewell ∈ o :: rest :=
      fun h => (ih h).imp_right (List.mem_cons_of_mem o)
    rcases hCases with hCases | hCases
    · rcases live_of_step hStep hCases with hNext | rfl
      · exact hLater (.inl hNext)
      · exact .inr (List.mem_cons_self ..)
    · exact hLater (.inr hCases)

/-- A new session starts on a channel that has left the one before. -/
theorem split_at_connect {body : Connect}
    (h : Conversation supported made a (log ++ .sent connection (.connect body) :: more) b) :
    ∃ last, last < connection ∧ Conversation supported made a log (.idle last) := by
  obtain ⟨line, hBefore, hRest⟩ := h.split
  cases hRest with
  | cons hStep _ =>
    cases hStep with
    | aside _ hAside => cases hAside
    | @connect last _ _ hNext => exact ⟨last, hNext, hBefore⟩

/-- The first request comes right behind the call of the failover. -/
theorem first_of_serverConnected {server : Server} (h : Conversation supported made a log b)
    (hFree : b.isFree = true) (hConnected : .serverConnected server ∈ log) :
    ∃ before connection body after, made body ∧
      log = before ++ [.serverConnected server, .compiled supported,
        .sent connection (.syncRequest body)] ++ after ∧
      Conversation supported made a before (.greeted connection) := by
  obtain ⟨before, after, rfl⟩ := List.append_of_mem hConnected
  obtain ⟨line, hBefore, hRest⟩ := h.split
  cases hRest with
  | cons hAnnounce hRest =>
    cases hAnnounce with
    | aside _ hAside => cases hAside
    | announce connection =>
      cases hRest with
      | nil => cases hFree
      | cons hAsk hRest =>
        cases hAsk with
        | aside hLine => cases hLine
        | ask =>
          cases hRest with
          | nil => cases hFree
          | @cons _ _ _ _ after hFirst =>
            cases hFirst with
            | aside hLine => cases hLine
            | @first _ body hBody =>
              refine ⟨before, connection, body, after, hBody, ?_, hBefore⟩
              simp only [List.append_assoc, List.cons_append, List.nil_append]

end Conversation

end DeviceUplink
