import Mathlib.Data.List.Induction
import Mathlib.Data.List.Nodup
import DeviceUplink.Proofs.Switchboard.Replies

/-!
# What channels know of the switchboard

A registered channel has been told last what is true of the switchboard: the server that is current
for it, whether there is a pause, and how the network is checked. Nothing is told that is not true
at the time, and whatever becomes true is told to the channels that it concerns or to those that
join. These are `Reply.holds` and `Reply.informs`; what was told last follows for each topic alike.
-/

namespace DeviceUplink

variable {Checker : Type}

namespace Order

def server? : Order Checker → Option Server
  | setServer server => some server
  | _ => none

def checker? : Order Checker → Option Checker
  | setChecker checker => some checker
  | _ => none

def pauses? : Order Checker → Option Bool
  | pause => some true
  | resume => some false
  | _ => none

end Order

namespace Request

def checker? : Request Checker → Option Checker
  | setChecker checker => some checker
  | _ => none

def pauses? : Request Checker → Option Bool
  | pause => some true
  | resume => some false
  | _ => none

end Request

namespace Switchboard

variable {α : Type} {answer : FailoverStatus → FailoverDecision} {b next : Switchboard Checker}
  {r : Request Checker} {told notices : List (Notice Checker)} {m : Member}

/-- What a channel has been told last, of the orders that count. -/
def lastTold (pick : Order Checker → Option α) (serial : Nat) (told : List (Notice Checker)) :
    Option α :=
  (told.filterMap fun
    | .order s order => if s = serial then pick order else none
    | _ => none).getLast?

theorem lastTold_append (pick : Order Checker → Option α) (serial : Nat)
    (told notices : List (Notice Checker)) :
    lastTold pick serial (told ++ notices) =
      (lastTold pick serial notices).or (lastTold pick serial told) := by
  simp only [lastTold, List.filterMap_append, List.getLast?_append]

theorem order_of_lastTold {pick : Order Checker → Option α} {serial : Nat} {a : α}
    (h : lastTold pick serial told = some a) :
    ∃ order, .order serial order ∈ told ∧ pick order = some a := by
  obtain ⟨notice, hNotice, hPick⟩ := List.mem_filterMap.mp (List.mem_of_getLast? h)
  cases notice with
  | order s order =>
    simp only at hPick
    split at hPick
    · next hSerial =>
      subst hSerial
      exact ⟨order, hNotice, hPick⟩
    · cases hPick
  | _ => cases hPick

theorem pick_of_lastTold_none {pick : Order Checker → Option α} {serial : Nat}
    (h : lastTold pick serial told = none) {order : Order Checker}
    (hOrder : .order serial order ∈ told) : pick order = none := by
  have hNone := List.filterMap_eq_nil_iff.mp (List.getLast?_eq_none_iff.mp h) _ hOrder
  simpa using hNone

/-- Orders that tell one thing about the switchboard. -/
structure Topic (Checker α : Type) where
  pick : Order Checker → Option α
  order : α → Order Checker
  pick_eq : ∀ {o a}, pick o = some a ↔ o = order a
  isState : ∀ a, (order a).isState = true
  unique : ∀ (b : Switchboard Checker) (m : Member) {a a'}, b.Holds m (order a) →
    b.Holds m (order a') → a = a'

namespace Topic

def server : Topic Checker Server where
  pick := Order.server?
  order := .setServer
  pick_eq := by
    intro o a
    cases o <;> simp [Order.server?]
  isState _ := rfl
  unique := by
    intro b m a a' h h'
    exact Option.some.inj (Eq.trans (Eq.symm h) h')

def checker : Topic Checker Checker where
  pick := Order.checker?
  order := .setChecker
  pick_eq := by
    intro o a
    cases o <;> simp [Order.checker?]
  isState _ := rfl
  unique := by
    intro b m a a' h h'
    exact Option.some.inj (Eq.trans (Eq.symm h) h')

def pauses : Topic Checker Bool where
  pick := Order.pauses?
  order
    | true => .pause
    | false => .resume
  pick_eq := by
    intro o a
    cases o <;> cases a <;> simp [Order.pauses?]
  isState a := by cases a <;> rfl
  unique := by
    intro b m a a' h h'
    have hIs : ∀ {a}, b.Holds m (match a with | true => .pause | false => .resume) →
        b.isPaused = a := by
      intro a h
      cases a <;> exact h
    exact (hIs h).symm.trans (hIs h')

/-- The channels have been told last what is true. One that has come to no pause may have been told
nothing about pauses. -/
def Known (topic : Topic Checker α) (told : List (Notice Checker)) (b : Switchboard Checker) :
    Prop :=
  ∀ m ∈ b.members, ∀ a, b.Holds m (topic.order a) →
    lastTold topic.pick m.serial told = some a ∨
      topic.order a = .resume ∧ lastTold topic.pick m.serial told = none

theorem Known.reply {topic : Topic Checker α} (h : topic.Known told b)
    (hReply : Reply answer b r next notices) (hNext : next.Matched)
    (hSole : ∀ m ∈ next.members, ∀ other ∈ next.members, m.serial = other.serial → m = other)
    (hFresh : ∀ m, r = .addChannel m → ∀ order, .order m.serial order ∉ told) :
    topic.Known (told ++ notices) next := by
  intro m hm a hHolds
  rw [lastTold_append]
  cases hNow : lastTold topic.pick m.serial notices with
  | some last =>
    obtain ⟨order, hOrder, hPick⟩ := order_of_lastTold hNow
    obtain rfl := topic.pick_eq.mp hPick
    obtain ⟨other, hOther, hSerial, hTrue⟩ := hReply.holds hNext (topic.isState last) hOrder
    obtain rfl := hSole other hOther m hm hSerial
    exact .inl (congrArg some (topic.unique next other hTrue hHolds))
  | none =>
    rcases hReply.informs hNext hm (topic.isState a) hHolds with
      hTold | ⟨hOld, hTrue⟩ | ⟨hNew, hIs⟩
    · have hPick := pick_of_lastTold_none hNow hTold
      rw [topic.pick_eq.mpr rfl] at hPick
      cases hPick
    · exact h m hOld a hTrue
    · refine .inr ⟨hIs, ?_⟩
      cases hBefore : lastTold topic.pick m.serial told with
      | none => rfl
      | some last =>
        obtain ⟨order, hOrder, _⟩ := order_of_lastTold hBefore
        exact absurd hOrder (hFresh m hNew order)

end Topic

structure Agrees (past : List (Answered Checker)) (told : List (Notice Checker))
    (b : Switchboard Checker) : Prop where
  matched : b.Matched
  members : b.members ⊆ added past
  addressed : ∀ serial order, .order serial order ∈ told → ∃ m ∈ added past, m.serial = serial
  known : ∀ {α : Type} (topic : Topic Checker α), topic.Known told b

theorem Agrees.reply {past : List (Answered Checker)} (h : Agrees past told b)
    (hReply : Reply answer b r next notices) (hMatched : r.IsMatched)
    (hOnce : ((added (past ++ [(answer, r)])).map Member.serial).Nodup) :
    Agrees (past ++ [(answer, r)]) (told ++ notices) next := by
  have hNext := hReply.matched h.matched hMatched
  have hNew : ∀ {m : Member}, r = .addChannel m → m ∈ added (past ++ [(answer, r)]) := by
    rintro m rfl
    rw [added_append]
    exact List.mem_append_right _ (mem_added_cons.mpr (.inl rfl))
  have hPast : added past ⊆ added (past ++ [(answer, r)]) := by
    rw [added_append]
    exact List.subset_append_left _ _
  have hMembers : next.members ⊆ added (past ++ [(answer, r)]) := by
    intro m hm
    rcases hReply.mem_members hm with hOld | hAdded
    · exact hPast (h.members hOld)
    · exact hNew hAdded
  have hFresh : ∀ m, r = .addChannel m → ∀ order, .order m.serial order ∉ told := by
    rintro m rfl order hOrder
    obtain ⟨other, hOther, hSerial⟩ := h.addressed _ _ hOrder
    rw [added_append, List.map_append] at hOnce
    exact (List.nodup_append.mp hOnce).2.2 _ (List.mem_map.mpr ⟨other, hOther, hSerial⟩)
      _ (List.mem_singleton_self m.serial) rfl
  refine ⟨hNext, hMembers, ?_, ?_⟩
  · intro serial order hOrder
    rcases List.mem_append.mp hOrder with hOrder | hOrder
    · obtain ⟨m, hm, hSerial⟩ := h.addressed serial order hOrder
      exact ⟨m, hPast hm, hSerial⟩
    · rcases hReply.addressed hOrder with ⟨m, hm, hSerial⟩ | ⟨m, hAdded, hSerial⟩
      · exact ⟨m, hPast (h.members hm), hSerial⟩
      · exact ⟨m, hNew hAdded, hSerial⟩
  · intro α topic
    refine (h.known topic).reply hReply hNext ?_ hFresh
    intro m hm other hOther hSerial
    exact List.inj_on_of_nodup_map hOnce (hMembers hm) (hMembers hOther) hSerial

theorem run_concat (b : Switchboard Checker) (past : List (Answered Checker))
    (answer : FailoverStatus → FailoverDecision) (r : Request Checker) :
    b.run (past ++ [(answer, r)]) =
      (((b.run past).1.handle answer r).1,
        (b.run past).2 ++ ((b.run past).1.handle answer r).2) := by
  rw [run_append]
  simp only [run, List.append_nil]

theorem agrees_run {requests : List (Answered Checker)}
    (hMatched : ∀ p ∈ requests, p.2.IsMatched)
    (hOnce : ((added requests).map Member.serial).Nodup) :
    Agrees requests (({} : Switchboard Checker).run requests).2
      (({} : Switchboard Checker).run requests).1 := by
  induction requests using List.reverseRecOn with
  | nil =>
    refine ⟨matched_new, List.Subset.refl _, fun _ _ hOrder => absurd hOrder List.not_mem_nil, ?_⟩
    intro α topic m hm
    cases hm
  | append_singleton past request ih =>
    obtain ⟨answer, r⟩ := request
    have hPast := ih (fun p hp => hMatched p (List.mem_append_left _ hp)) (by
      rw [added_append, List.map_append] at hOnce
      exact (List.nodup_append.mp hOnce).1)
    rw [run_concat]
    exact hPast.reply (reply_handle answer _ r)
      (hMatched (answer, r) (List.mem_append_right _ (List.mem_singleton_self _))) hOnce

theorem Reply.settings (h : Reply answer b r next notices) :
    next.checker = r.checker?.or b.checker ∧ next.isPaused = r.pauses?.getD b.isPaused := by
  cases h with
  | ignored h =>
    cases h with
    | paused h | resumed h => exact ⟨rfl, h⟩
    | _ => exact ⟨rfl, rfl⟩
  | routed hRequest => cases r <;> first | exact ⟨rfl, rfl⟩ | cases hRequest
  | served h | emptied h => cases h <;> exact ⟨rfl, rfl⟩
  | _ => exact ⟨rfl, rfl⟩

theorem getLast?_filterMap_concat {β γ : Type} (f : β → Option γ) (l : List β) (x : β) :
    ((l ++ [x]).filterMap f).getLast? = (f x).or (l.filterMap f).getLast? := by
  rw [List.filterMap_append, List.getLast?_append]
  cases hx : f x <;> simp [hx]

/-- The switchboard has the checker that was installed last, and pauses if that was asked last. -/
theorem settings_run (requests : List (Answered Checker)) :
    let b := (({} : Switchboard Checker).run requests).1
    b.checker = (requests.filterMap fun p => p.2.checker?).getLast? ∧
      b.isPaused = ((requests.filterMap fun p => p.2.pauses?).getLast?).getD false := by
  induction requests using List.reverseRecOn with
  | nil => exact ⟨rfl, rfl⟩
  | append_singleton past request ih =>
    obtain ⟨answer, r⟩ := request
    obtain ⟨hChecker, hPaused⟩ := ih
    obtain ⟨hNextChecker, hNextPaused⟩ :=
      (reply_handle answer (({} : Switchboard Checker).run past).1 r).settings
    simp only [run_concat, getLast?_filterMap_concat]
    constructor
    · rw [hNextChecker, hChecker]
    · rw [hNextPaused, hPaused]
      cases r.pauses? <;> rfl

def Bounded (b : Switchboard Checker) : Prop :=
  ∀ role protocol l, b.lists role protocol = some l → l.place ≤ l.servers.length

theorem Relisted.place_le {role : ServerRole} {protocol : Protocol} {l : ServerList}
    (h : Relisted b r role protocol l) : l.place ≤ l.servers.length := by
  cases h with
  | set => exact Nat.zero_le _
  | updated server =>
    have hCurrent := ServerList.current?_select
      ((b.lists server.role server.protocol).getD { servers := [] }) server
    exact Nat.le_of_lt (List.getElem?_eq_some_iff.mp hCurrent).1
  | rotated _ _ hCurrent =>
    obtain ⟨_, hIs, _⟩ := ServerList.isCurrent_iff.mp hCurrent
    exact (List.getElem?_eq_some_iff.mp hIs).1
  | restarted => exact Nat.zero_le _

theorem Reply.bounded (h : Reply answer b r next notices) (hb : b.Bounded) : next.Bounded := by
  intro role protocol l hList
  rcases h.lists_cases role protocol with hSame | ⟨_, hRelisted, hIs⟩
  · rw [hSame] at hList
    exact hb role protocol l hList
  · cases hIs.symm.trans hList
    exact hRelisted.place_le

theorem bounded_run (hb : b.Bounded) (requests : List (Answered Checker)) :
    (b.run requests).1.Bounded :=
  run_keeps (P := Bounded) hb fun _ h => (reply_handle _ _ _).bounded h

end Switchboard

namespace ServerList

/-- An entry keeps its place and its endpoint, or it is new at the end. -/
theorem entry_of_select {l : ServerList} {server s : Server} {i : Nat}
    (h : (l.select server).servers[i]? = some s) :
    (∃ old, l.servers[i]? = some old ∧ old.sameEndpoint s = true) ∨
      i = l.servers.length ∧ s = server ∧ ∀ old ∈ l.servers, old.sameEndpoint server = false := by
  unfold select endpointPlace? at h
  split at h
  · next place hPlace =>
    obtain ⟨hBound, hSame, _⟩ := List.findIdx?_eq_some_iff_getElem.mp hPlace
    rw [List.getElem?_set] at h
    split at h
    · next hIs =>
      subst hIs
      cases h
      exact .inl ⟨_, List.getElem?_eq_getElem hBound, hSame⟩
    · exact .inl ⟨s, h, s.sameEndpoint_refl⟩
  · next hNone =>
    rcases Nat.lt_or_ge i l.servers.length with hOld | hNew
    · rw [List.getElem?_append_left hOld] at h
      exact .inl ⟨s, h, s.sameEndpoint_refl⟩
    · rw [List.getElem?_append_right hNew, List.getElem?_singleton] at h
      split at h
      · next hEnd =>
        cases h
        refine .inr ⟨by omega, rfl, fun old hMem => ?_⟩
        simpa using List.findIdx?_eq_none_iff.mp hNone old hMem
      · cases h

/-- Two entries that have one endpoint had it before. -/
theorem sameEndpoint_of_select {l : ServerList} {server s t : Server} {i j : Nat} (hij : i < j)
    (hs : (l.select server).servers[i]? = some s) (ht : (l.select server).servers[j]? = some t)
    (hSame : s.sameEndpoint t = true) :
    ∃ s' t', l.servers[i]? = some s' ∧ l.servers[j]? = some t' ∧ s'.sameEndpoint t' = true := by
  rcases entry_of_select hs with ⟨s', hs', hSame'⟩ | ⟨hEnd, _⟩
  · rcases entry_of_select ht with ⟨t', ht', hSame''⟩ | ⟨_, rfl, hNew⟩
    · exact ⟨s', t', hs', ht', Server.sameEndpoint_trans hSame'
        (Server.sameEndpoint_trans hSame (Server.sameEndpoint_symm hSame''))⟩
    · have hOld := hNew s' (List.mem_of_getElem? hs')
      rw [Server.sameEndpoint_trans hSame' hSame] at hOld
      cases hOld
  · have hBound := (List.getElem?_eq_some_iff.mp ht).1
    rcases entry_of_select ht with ⟨_, ht', _⟩ | ⟨hEnd', _⟩
    · have hOld := (List.getElem?_eq_some_iff.mp ht').1
      omega
    · omega

end ServerList

namespace Switchboard

/-- After every run in which descriptors are put in the lists that they are for and each channel is
added once, every registered channel has been told last the server that is current for it, a pause
if and only if there is one, and the checker that was installed last. The place of a list is at most
its length, and an update gives no two entries one endpoint that had different ones. -/
theorem channels_agree {requests : List (Answered Checker)}
    (hMatched : ∀ p ∈ requests, p.2.IsMatched)
    (hOnce : ((added requests).map Member.serial).Nodup) :
    let b := (({} : Switchboard Checker).run requests).1
    let told := (({} : Switchboard Checker).run requests).2
    (∀ m ∈ b.members,
      (∀ server, b.currentServer? m.role m.protocol = some server →
        lastTold Order.server? m.serial told = some server) ∧
      (lastTold Order.pauses? m.serial told = some true ↔ b.isPaused = true) ∧
      ∀ checker, (requests.filterMap fun p => p.2.checker?).getLast? = some checker →
        lastTold Order.checker? m.serial told = some checker) ∧
    (b.isPaused = true ↔ (requests.filterMap fun p => p.2.pauses?).getLast? = some true) ∧
    (∀ role protocol l, b.lists role protocol = some l → l.place ≤ l.servers.length) ∧
    ∀ answer server l,
      (b.handle answer (.updateServer server)).1.lists server.role server.protocol = some l →
      ∀ (i j : Nat) (s t : Server), i < j → l.servers[i]? = some s → l.servers[j]? = some t →
        s.sameEndpoint t = true →
        ∃ old s' t', b.lists server.role server.protocol = some old ∧
          old.servers[i]? = some s' ∧ old.servers[j]? = some t' ∧ s'.sameEndpoint t' = true := by
  intro b told
  have hAgrees : Agrees requests told b := agrees_run hMatched hOnce
  obtain ⟨hChecker, hPaused⟩ := settings_run requests
  refine ⟨?_, ?_, ?_, ?_⟩
  · intro m hm
    refine ⟨?_, ?_, ?_⟩
    · intro server hCurrent
      rcases hAgrees.known .server m hm server hCurrent with hTold | ⟨hIs, _⟩
      · exact hTold
      · cases hIs
    · constructor
      · intro hTold
        cases hNow : b.isPaused with
        | true => rfl
        | false =>
          rcases hAgrees.known .pauses m hm false hNow with hResumed | ⟨_, hNone⟩
          · exact absurd (hTold.symm.trans hResumed) (by simp)
          · exact absurd (hTold.symm.trans hNone) (by simp)
      · intro hNow
        rcases hAgrees.known .pauses m hm true hNow with hTold | ⟨hIs, _⟩
        · exact hTold
        · cases hIs
    · intro checker hInstalled
      rcases hAgrees.known .checker m hm checker (hChecker.trans hInstalled) with hTold | ⟨hIs, _⟩
      · exact hTold
      · cases hIs
  · rw [hPaused]
    cases (requests.filterMap fun p => p.2.pauses?).getLast? <;> simp
  · exact bounded_run (fun _ _ _ hList => by cases hList) requests
  · intro answer server l hList i j s t hij hs ht hSame
    have hSelected : l = ((b.lists server.role server.protocol).getD { servers := [] }).select
        server := by
      exact Option.some.inj (hList.symm.trans (lists_putList b _ _ _))
    rw [hSelected] at hs ht
    obtain ⟨s', t', hs', ht', hSame'⟩ := ServerList.sameEndpoint_of_select hij hs ht hSame
    cases hOld : b.lists server.role server.protocol with
    | none =>
      rw [hOld] at hs'
      cases hs'
    | some old =>
      rw [hOld] at hs' ht'
      exact ⟨old, s', t', rfl, hs', ht', hSame'⟩

/-- A channel joins late, under a pause, and the list moves on behind it. -/
theorem late_channel_agrees :
    let requests : List (Answered Unit) := answered .noop
      [.setServers .operations .tcp [operationsServer 1, operationsServer 2], .pause,
        .setChecker (), .addChannel (operationsChannel 1), .serverFailed (operationsServer 1)]
    let told := (({} : Switchboard Unit).run requests).2
    (∀ p ∈ requests, p.2.IsMatched) ∧ ((added requests).map Member.serial).Nodup ∧
      lastTold Order.server? 1 told = some (operationsServer 2) ∧
      lastTold Order.pauses? 1 told = some true ∧ lastTold Order.checker? 1 told = some () := by
  intro requests told
  have hMatched : ∀ p ∈ requests, p.2.IsMatched := by
    simp [requests, answered, Request.IsMatched, operationsServer, Server.operations]
  have hOnce : ((added requests).map Member.serial).Nodup := List.nodup_singleton 1
  obtain ⟨hMembers, _⟩ := channels_agree hMatched hOnce
  obtain ⟨hServer, hPause, hChecker⟩ := hMembers (operationsChannel 1) (List.mem_singleton_self _)
  exact ⟨hMatched, hOnce, hServer _ rfl, hPause.mpr rfl, hChecker () rfl⟩

end Switchboard

end DeviceUplink
