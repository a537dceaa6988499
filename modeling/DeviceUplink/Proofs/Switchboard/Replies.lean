import DeviceUplink.Switchboard.Handling

/-!
# What a switchboard does

`Reply` goes through all that a switchboard can do about a request: it joins a channel or lets one
go, passes an order on, or puts a list in its place and hands out the server that is current then.
What holds of runs is proved from these cases, whatever the failover answers meanwhile.
-/

namespace DeviceUplink

def Order.isSync {Checker : Type} : Order Checker → Bool
  | sync _ | syncAll | syncAck _ => true
  | _ => false

def Order.isState {Checker : Type} : Order Checker → Bool
  | setServer _ | setChecker _ | pause | resume => true
  | _ => false

theorem Order.isSync_of_isState {Checker : Type} {order : Order Checker}
    (h : order.isState = true) : order.isSync = false := by
  cases order <;> first | rfl | cases h

def Request.isSync {Checker : Type} : Request Checker → Bool
  | sync _ | syncAck _ | syncAll | syncRole _ => true
  | _ => false

/-- The descriptors of a list are for its role and protocol. -/
def Request.IsMatched {Checker : Type} : Request Checker → Prop
  | setServers role protocol servers => ∀ s ∈ servers, s.role = role ∧ s.protocol = protocol
  | _ => True

namespace ServerList

theorem current?_select (l : ServerList) (server : Server) :
    (l.select server).current? = some server := by
  unfold select
  split
  · next i hPlace =>
    obtain ⟨hBound, _⟩ := List.findIdx?_eq_some_iff_getElem.mp hPlace
    simp [current?, hBound]
  · simp [current?]

theorem mem_select {l : ServerList} {server other : Server}
    (h : other ∈ (l.select server).servers) : other = server ∨ other ∈ l.servers := by
  unfold select at h
  split at h
  · exact (List.mem_or_eq_of_mem_set h).symm
  · simpa [or_comm] using h

theorem mem_of_current? {l : ServerList} {server : Server} (h : l.current? = some server) :
    server ∈ l.servers :=
  List.mem_of_getElem? h

theorem isCurrent_iff {l : ServerList} {server : Server} :
    l.isCurrent server = true ↔ ∃ s, l.current? = some s ∧ s.sameEndpoint server = true := by
  unfold isCurrent
  cases l.current? <;> simp

end ServerList

namespace Switchboard

variable {Checker : Type}

/-- A request with what the failover answers meanwhile. -/
abbrev Answered (Checker : Type) : Type :=
  (FailoverStatus → FailoverDecision) × Request Checker

def run (b : Switchboard Checker) : List (Answered Checker) →
    Switchboard Checker × List (Notice Checker)
  | [] => (b, [])
  | (answer, r) :: rest =>
    let (next, notices) := b.handle answer r
    let (last, more) := next.run rest
    (last, notices ++ more)

def answered (decision : FailoverDecision) (requests : List (Request Checker)) :
    List (Answered Checker) :=
  requests.map fun r => (fun _ => decision, r)

def added (requests : List (Answered Checker)) : List Member :=
  requests.filterMap fun
    | (_, .addChannel m) => some m
    | _ => none

theorem run_append (b : Switchboard Checker) (first rest : List (Answered Checker)) :
    b.run (first ++ rest) =
      (((b.run first).1.run rest).1, (b.run first).2 ++ ((b.run first).1.run rest).2) := by
  induction first generalizing b with
  | nil => rfl
  | cons request more ih =>
    simp only [List.cons_append, run, ih, List.append_assoc]

theorem added_append (first rest : List (Answered Checker)) :
    added (first ++ rest) = added first ++ added rest :=
  List.filterMap_append

theorem mem_added_cons {answer : FailoverStatus → FailoverDecision} {r : Request Checker}
    {rest : List (Answered Checker)} {m : Member} :
    m ∈ added ((answer, r) :: rest) ↔ r = .addChannel m ∨ m ∈ added rest := by
  cases r <;> simp [added, eq_comm]

theorem mem_added_of_mem {answer : FailoverStatus → FailoverDecision}
    {requests : List (Answered Checker)} {m : Member} (h : (answer, .addChannel m) ∈ requests) :
    m ∈ added requests :=
  List.mem_filterMap.mpr ⟨_, h, rfl⟩

theorem lists_putList (b : Switchboard Checker) (role : ServerRole) (protocol : Protocol)
    (l : ServerList) : (b.putList role protocol l).lists role protocol = some l := by
  simp [putList]

theorem lists_putList_of_ne {b : Switchboard Checker} {role r : ServerRole}
    {protocol p : Protocol} (l : ServerList) (h : ¬ (r = role ∧ p = protocol)) :
    (b.putList role protocol l).lists r p = b.lists r p := by
  simp [putList, h]

theorem mem_tell {order other : Order Checker} {serial : Nat} {members : List Member} :
    .order serial other ∈ tell order members ↔
      other = order ∧ ∃ m ∈ members, m.serial = serial := by
  constructor
  · intro h
    obtain ⟨m, hm, hIs⟩ := List.mem_map.mp h
    cases hIs
    exact ⟨rfl, m, hm, rfl⟩
  · rintro ⟨rfl, m, hm, rfl⟩
    exact List.mem_map.mpr ⟨m, hm, rfl⟩

theorem mem_enroll {members : List Member} {member m : Member} (h : m ∈ enroll members member) :
    m = member ∨ m ∈ members := by
  unfold enroll at h
  split at h
  · exact (List.mem_or_eq_of_mem_set h).symm
  · simpa [or_comm] using h

theorem self_mem_enroll (members : List Member) (member : Member) :
    member ∈ enroll members member := by
  unfold enroll
  split
  · next i hPlace =>
    obtain ⟨hBound, _⟩ := List.findIdx?_eq_some_iff_getElem.mp hPlace
    exact List.mem_set hBound member
  · simp

inductive Ignored (b : Switchboard Checker) : Request Checker → Prop
  | added {member : Member} (h : b.isShutDown = true) : Ignored b (.addChannel member)
  | removed {id : String} (h : b.member? id = none) : Ignored b (.removeChannel id)
  | paused (h : b.isPaused = true) : Ignored b .pause
  | resumed (h : b.isPaused = false) : Ignored b .resume
  | stopped (h : b.isShutDown = true) : Ignored b .shutdown
  | failed {server : Server} (h : b.isShutDown = true ∨
      ∀ l, b.lists server.role server.protocol = some l → l.isCurrent server = false) :
      Ignored b (.serverFailed server)
  | restarted {role : ServerRole} {protocol : Protocol}
      (h : b.isShutDown = true ∨ b.lists role protocol = none) :
      Ignored b (.restartList role protocol)

/-- The request puts this list in the place of the one of its role and protocol. -/
inductive Relisted (b : Switchboard Checker) :
    Request Checker → ServerRole → Protocol → ServerList → Prop
  | set (role : ServerRole) (protocol : Protocol) (servers : List Server) :
      Relisted b (.setServers role protocol servers) role protocol { servers }
  | updated (server : Server) :
      Relisted b (.updateServer server) server.role server.protocol
        (((b.lists server.role server.protocol).getD { servers := [] }).select server)
  | rotated {server : Server} {l : ServerList} (hRunning : b.isShutDown = false)
      (hList : b.lists server.role server.protocol = some l)
      (hCurrent : l.isCurrent server = true) :
      Relisted b (.serverFailed server) server.role server.protocol { l with place := l.place + 1 }
  | restarted {role : ServerRole} {protocol : Protocol} {l : ServerList}
      (hRunning : b.isShutDown = false) (hList : b.lists role protocol = some l) :
      Relisted b (.restartList role protocol) role protocol { l with place := 0 }

inductive Reply (answer : FailoverStatus → FailoverDecision) (b : Switchboard Checker) :
    Request Checker → Switchboard Checker → List (Notice Checker) → Prop
  | ignored {r : Request Checker} (h : Ignored b r) : Reply answer b r b []
  | added (member : Member) (h : b.isShutDown = false) :
      Reply answer b (.addChannel member) { b with members := enroll b.members member }
        (b.welcome member)
  | removed {id : String} {member : Member} (h : b.member? id = some member) :
      Reply answer b (.removeChannel id) { b with members := b.members.eraseP fun m => m.id == id }
        (tell .shutdown [member])
  | routed {r : Request Checker} {order : Order Checker} {members : List Member}
      (hRequest : r.isSync = true) (hOrder : order.isSync = true)
      (hMembers : members ⊆ b.members) : Reply answer b r b (tell order members)
  | paused (h : b.isPaused = false) :
      Reply answer b .pause { b with isPaused := true } (tell .pause b.members)
  | resumed (h : b.isPaused = true) :
      Reply answer b .resume { b with isPaused := false } (tell .resume b.members)
  | stopped (h : b.isShutDown = false) :
      Reply answer b .shutdown { b with isShutDown := true } (tell .shutdown b.members)
  | checked (checker : Checker) :
      Reply answer b (.setChecker checker) { b with checker := some checker }
        (tell (.setChecker checker) b.members)
  | served {r : Request Checker} {role : ServerRole} {protocol : Protocol} {l : ServerList}
      {server : Server} (h : Relisted b r role protocol l) (hCurrent : l.current? = some server) :
      Reply answer b r (b.putList role protocol l) (b.applyServer server)
  | exhausted {server : Server} {role : ServerRole} {protocol : Protocol} {l : ServerList}
      (h : Relisted b (.serverFailed server) role protocol l) (hCurrent : l.current? = none) :
      Reply answer b (.serverFailed server) (b.putList role protocol l)
        (exhaust answer role protocol)
  | emptied {r : Request Checker} {role : ServerRole} {protocol : Protocol} {l : ServerList}
      (h : Relisted b r role protocol l) (hEmpty : l.servers = []) :
      Reply answer b r (b.putList role protocol l) []

theorem carrier?_subset (b : Switchboard Checker) (transport : Transport) :
    (b.carrier? transport).toList ⊆ b.members := by
  intro m hm
  exact List.mem_of_find?_eq_some (Option.mem_toList.mp hm)

theorem reply_serverFailed (answer : FailoverStatus → FailoverDecision) (b : Switchboard Checker)
    (server : Server) :
    Reply answer b (.serverFailed server) (serverFailed answer b server).1
      (serverFailed answer b server).2 := by
  unfold serverFailed
  split
  · next hDown => exact .ignored (.failed (.inl hDown))
  · next hRunning =>
    split
    · next hNone => exact .ignored (.failed (.inr (by simp [hNone])))
    · next l hList =>
      split
      · next hCurrent =>
        have hRotated := Relisted.rotated (by simpa using hRunning) hList hCurrent
        simp only
        split
        · next successor hNext => exact .served hRotated hNext
        · next hNext => exact .exhausted hRotated hNext
      · next hOther =>
        refine .ignored (.failed (.inr ?_))
        intro other hOtherList
        cases hList.symm.trans hOtherList
        simpa using hOther

theorem reply_restartList (answer : FailoverStatus → FailoverDecision) (b : Switchboard Checker)
    (role : ServerRole) (protocol : Protocol) :
    Reply answer b (.restartList role protocol) (b.restartList role protocol).1
      (b.restartList role protocol).2 := by
  unfold restartList
  split
  · next hDown => exact .ignored (.restarted (.inl hDown))
  · next hRunning =>
    split
    · next hNone => exact .ignored (.restarted (.inr hNone))
    · next l hList =>
      have hRestarted := Relisted.restarted (by simpa using hRunning) hList
      simp only
      split
      · next hServers => exact .emptied hRestarted hServers
      · next first rest hServers =>
        refine .served hRestarted ?_
        simp only [ServerList.current?, hServers, List.getElem?_cons_zero]

theorem reply_handle (answer : FailoverStatus → FailoverDecision) (b : Switchboard Checker)
    (r : Request Checker) : Reply answer b r (b.handle answer r).1 (b.handle answer r).2 := by
  cases r with
  | addChannel member =>
    simp only [handle, addChannel]
    split
    · next h => exact .ignored (.added h)
    · next h => exact .added member (by simpa using h)
  | removeChannel id =>
    simp only [handle, removeChannel]
    split
    · next h => exact .ignored (.removed h)
    · next h => exact .removed h
  | sync transport => exact .routed rfl rfl (b.carrier?_subset transport)
  | syncAck transport => exact .routed rfl rfl (b.carrier?_subset transport)
  | syncAll => exact .routed rfl rfl (List.Subset.refl _)
  | syncRole => exact .routed rfl rfl (List.filter_sublist.subset)
  | pause =>
    simp only [handle, pause]
    split
    · next h => exact .ignored (.paused h)
    · next h => exact .paused (by simpa using h)
  | resume =>
    simp only [handle, resume]
    split
    · next h => exact .resumed h
    · next h => exact .ignored (.resumed (by simpa using h))
  | shutdown =>
    simp only [handle, shutdown]
    split
    · next h => exact .ignored (.stopped h)
    · next h => exact .stopped (by simpa using h)
  | setChecker checker => exact .checked checker
  | setServers role protocol servers =>
    cases servers with
    | nil => exact .emptied (.set role protocol []) rfl
    | cons first rest => exact .served (.set role protocol (first :: rest)) rfl
  | updateServer server => exact .served (.updated server) (ServerList.current?_select _ server)
  | serverFailed server => exact reply_serverFailed answer b server
  | restartList role protocol => exact reply_restartList answer b role protocol

/-- What an order says of the switchboard is true of it, for this channel. -/
def Holds (b : Switchboard Checker) (m : Member) : Order Checker → Prop
  | .setServer server => b.currentServer? m.role m.protocol = some server
  | .setChecker checker => b.checker = some checker
  | .pause => b.isPaused = true
  | .resume => b.isPaused = false
  | _ => True

def Matched (b : Switchboard Checker) : Prop :=
  ∀ role protocol l, b.lists role protocol = some l →
    ∀ s ∈ l.servers, s.role = role ∧ s.protocol = protocol

variable {answer : FailoverStatus → FailoverDecision} {b next : Switchboard Checker}
  {r : Request Checker} {role : ServerRole} {protocol : Protocol} {l : ServerList}
  {notices : List (Notice Checker)}

theorem Relisted.matched (h : Relisted b r role protocol l) (hb : b.Matched) (hr : r.IsMatched) :
    ∀ s ∈ l.servers, s.role = role ∧ s.protocol = protocol := by
  cases h with
  | set => exact hr
  | updated server =>
    intro s hs
    rcases ServerList.mem_select hs with rfl | hOld
    · exact ⟨rfl, rfl⟩
    · cases hList : b.lists server.role server.protocol with
      | none => simp [hList] at hOld
      | some old =>
        rw [hList] at hOld
        exact hb _ _ _ hList s hOld
  | @rotated _ old _ hList => exact hb _ _ old hList
  | @restarted _ _ old _ hList => exact hb _ _ old hList

theorem Matched.putList (hb : b.Matched)
    (hl : ∀ s ∈ l.servers, s.role = role ∧ s.protocol = protocol) :
    (b.putList role protocol l).Matched := by
  intro r p other hOther
  by_cases hKey : r = role ∧ p = protocol
  · obtain ⟨rfl, rfl⟩ := hKey
    rw [lists_putList] at hOther
    cases hOther
    exact hl
  · rw [lists_putList_of_ne l hKey] at hOther
    exact hb r p other hOther

theorem holds_putList {m : Member} {order : Order Checker}
    (h : (b.putList role protocol l).Holds m order) :
    b.Holds m order ∨ ∃ server, order = .setServer server ∧ m.role = role ∧
      m.protocol = protocol ∧ l.current? = some server := by
  cases order with
  | setServer server =>
    by_cases hKey : m.role = role ∧ m.protocol = protocol
    · obtain ⟨rfl, rfl⟩ := hKey
      rw [Holds, currentServer?, lists_putList] at h
      exact .inr ⟨server, rfl, rfl, rfl, h⟩
    · rw [Holds, currentServer?, lists_putList_of_ne l hKey] at h
      exact .inl h
  | _ => exact .inl h

theorem mem_welcome {member : Member} {serial : Nat} {order : Order Checker} :
    .order serial order ∈ b.welcome member ↔ serial = member.serial ∧
      ((∃ checker, b.checker = some checker ∧ order = .setChecker checker) ∨
        (b.isPaused = true ∧ order = .pause) ∨
        ∃ server, b.currentServer? member.role member.protocol = some server ∧
          order = .setServer server) := by
  simp only [welcome, List.mem_append, List.mem_map, Option.mem_toList]
  constructor
  · rintro ((⟨checker, hChecker, hIs⟩ | hPause) | ⟨server, hServer, hIs⟩)
    · cases hIs
      exact ⟨rfl, .inl ⟨checker, hChecker, rfl⟩⟩
    · split at hPause
      · next hPaused =>
        cases List.mem_singleton.mp hPause
        exact ⟨rfl, .inr (.inl ⟨hPaused, rfl⟩)⟩
      · cases hPause
    · cases hIs
      exact ⟨rfl, .inr (.inr ⟨server, hServer, rfl⟩)⟩
  · rintro ⟨rfl, ⟨checker, hChecker, rfl⟩ | ⟨hPaused, rfl⟩ | ⟨server, hServer, rfl⟩⟩
    · exact .inl (.inl ⟨checker, hChecker, rfl⟩)
    · exact .inl (.inr (by simp [hPaused]))
    · exact .inr ⟨server, hServer, rfl⟩

theorem order_notMem_exhaust (answer : FailoverStatus → FailoverDecision) (role : ServerRole)
    (protocol : Protocol) (serial : Nat) (order : Order Checker) :
    .order serial order ∉ exhaust answer role protocol := by
  unfold exhaust
  simp only
  split <;> simp

namespace Reply

theorem matched (h : Reply answer b r next notices) (hb : b.Matched) (hr : r.IsMatched) :
    next.Matched := by
  cases h with
  | served h | exhausted h | emptied h => exact hb.putList (h.matched hb hr)
  | _ => exact hb

theorem isShutDown (h : Reply answer b r next notices) (hDown : b.isShutDown = true) :
    next.isShutDown = true := by
  cases h <;> first | exact hDown | rfl

/-- A list is left as it is, or it is the one that the request is about. -/
theorem lists_cases (h : Reply answer b r next notices) (role : ServerRole) (protocol : Protocol) :
    next.lists role protocol = b.lists role protocol ∨
      ∃ l, Relisted b r role protocol l ∧ next.lists role protocol = some l := by
  cases h with
  | @served _ changed other l _ h | @exhausted _ changed other l h | @emptied _ changed other l h =>
    by_cases hKey : role = changed ∧ protocol = other
    · obtain ⟨rfl, rfl⟩ := hKey
      exact .inr ⟨l, h, lists_putList b role protocol l⟩
    · exact .inl (lists_putList_of_ne l hKey)
  | _ => exact .inl rfl

theorem mem_members (h : Reply answer b r next notices) {m : Member} (hm : m ∈ next.members) :
    m ∈ b.members ∨ r = .addChannel m := by
  cases h with
  | added member =>
    rcases mem_enroll hm with rfl | hOld
    · exact .inr rfl
    · exact .inl hOld
  | removed => exact .inl (List.mem_of_mem_eraseP hm)
  | _ => exact .inl hm

/-- What is told to a channel is told to one that is there or joins. -/
theorem addressed (h : Reply answer b r next notices) {serial : Nat} {order : Order Checker}
    (hOrder : .order serial order ∈ notices) :
    (∃ m ∈ b.members, m.serial = serial) ∨ ∃ m, r = .addChannel m ∧ m.serial = serial := by
  cases h with
  | ignored | emptied => cases hOrder
  | added member => exact .inr ⟨member, rfl, (mem_welcome.mp hOrder).1.symm⟩
  | @removed _ member hMember =>
    obtain ⟨_, m, hm, hSerial⟩ := mem_tell.mp hOrder
    rw [List.mem_singleton.mp hm] at hSerial
    exact .inl ⟨member, List.mem_of_find?_eq_some hMember, hSerial⟩
  | routed _ _ hMembers =>
    obtain ⟨_, m, hm, hSerial⟩ := mem_tell.mp hOrder
    exact .inl ⟨m, hMembers hm, hSerial⟩
  | paused | resumed | stopped | checked =>
    obtain ⟨_, m, hm, hSerial⟩ := mem_tell.mp hOrder
    exact .inl ⟨m, hm, hSerial⟩
  | served =>
    obtain ⟨_, m, hm, hSerial⟩ := mem_tell.mp hOrder
    exact .inl ⟨m, (List.mem_filter.mp hm).1, hSerial⟩
  | exhausted => exact absurd hOrder (order_notMem_exhaust answer _ _ _ _)

/-- What is told to a channel about the state of the switchboard is true then. -/
theorem holds (h : Reply answer b r next notices) (hNext : next.Matched) {serial : Nat}
    {order : Order Checker} (hState : order.isState = true)
    (hOrder : .order serial order ∈ notices) :
    ∃ m ∈ next.members, m.serial = serial ∧ next.Holds m order := by
  cases h with
  | ignored | emptied => cases hOrder
  | added member =>
    obtain ⟨rfl, hWelcome⟩ := mem_welcome.mp hOrder
    refine ⟨member, self_mem_enroll b.members member, rfl, ?_⟩
    rcases hWelcome with ⟨_, hChecker, rfl⟩ | ⟨hPaused, rfl⟩ | ⟨_, hCurrent, rfl⟩
    · exact hChecker
    · exact hPaused
    · exact hCurrent
  | removed =>
    obtain ⟨rfl, _⟩ := mem_tell.mp hOrder
    cases hState
  | routed _ hSync =>
    obtain ⟨rfl, _⟩ := mem_tell.mp hOrder
    rw [Order.isSync_of_isState hState] at hSync
    cases hSync
  | paused | resumed | checked =>
    obtain ⟨rfl, m, hm, hSerial⟩ := mem_tell.mp hOrder
    exact ⟨m, hm, hSerial, rfl⟩
  | stopped =>
    obtain ⟨rfl, _⟩ := mem_tell.mp hOrder
    cases hState
  | @served _ role protocol l server _ hCurrent =>
    obtain ⟨rfl, m, hm, hSerial⟩ := mem_tell.mp hOrder
    simp only [List.mem_filter, decide_eq_true_eq] at hm
    obtain ⟨hm, hRole, hProtocol⟩ := hm
    obtain ⟨rfl, rfl⟩ := hNext _ _ l (lists_putList b role protocol l) server
      (ServerList.mem_of_current? hCurrent)
    refine ⟨m, hm, hSerial, ?_⟩
    rw [Holds, currentServer?, hRole, hProtocol, lists_putList]
    exact hCurrent
  | exhausted => exact absurd hOrder (order_notMem_exhaust answer _ _ _ _)

/-- What is true of the switchboard for a channel is told to it now or was true before, unless it is
new and finds the switchboard not paused. -/
theorem informs (h : Reply answer b r next notices) (hNext : next.Matched) {m : Member}
    (hm : m ∈ next.members) {order : Order Checker} (hState : order.isState = true)
    (hHolds : next.Holds m order) :
    .order m.serial order ∈ notices ∨ m ∈ b.members ∧ b.Holds m order ∨
      r = .addChannel m ∧ order = .resume := by
  cases h with
  | ignored | routed | stopped => exact .inr (.inl ⟨hm, by cases order <;> exact hHolds⟩)
  | added member =>
    rcases mem_enroll hm with rfl | hOld
    · cases order with
      | setServer server =>
        exact .inl (mem_welcome.mpr ⟨rfl, .inr (.inr ⟨server, hHolds, rfl⟩)⟩)
      | setChecker checker => exact .inl (mem_welcome.mpr ⟨rfl, .inl ⟨checker, hHolds, rfl⟩⟩)
      | pause => exact .inl (mem_welcome.mpr ⟨rfl, .inr (.inl ⟨hHolds, rfl⟩)⟩)
      | resume => exact .inr (.inr ⟨rfl, rfl⟩)
      | _ => cases hState
    · exact .inr (.inl ⟨hOld, by cases order <;> exact hHolds⟩)
  | removed =>
    exact .inr (.inl ⟨List.mem_of_mem_eraseP hm, by cases order <;> exact hHolds⟩)
  | paused =>
    cases order with
    | pause => exact .inl (mem_tell.mpr ⟨rfl, m, hm, rfl⟩)
    | resume => cases hHolds
    | _ => exact .inr (.inl ⟨hm, hHolds⟩)
  | resumed =>
    cases order with
    | resume => exact .inl (mem_tell.mpr ⟨rfl, m, hm, rfl⟩)
    | pause => cases hHolds
    | _ => exact .inr (.inl ⟨hm, hHolds⟩)
  | checked checker =>
    cases order with
    | setChecker other =>
      cases hHolds
      exact .inl (mem_tell.mpr ⟨rfl, m, hm, rfl⟩)
    | _ => exact .inr (.inl ⟨hm, hHolds⟩)
  | @served _ role protocol l server _ hCurrent =>
    rcases holds_putList hHolds with hOld | ⟨_, rfl, rfl, rfl, hIs⟩
    · exact .inr (.inl ⟨hm, hOld⟩)
    · cases hCurrent.symm.trans hIs
      obtain ⟨hRole, hProtocol⟩ := hNext _ _ l (lists_putList b _ _ l) server
        (ServerList.mem_of_current? hCurrent)
      have hConcerned : m ∈ b.members.filter fun m => m.role = server.role ∧
          m.protocol = server.protocol := by
        simp only [List.mem_filter, decide_eq_true_eq]
        exact ⟨hm, hRole.symm, hProtocol.symm⟩
      exact .inl (mem_tell.mpr ⟨rfl, m, hConcerned, rfl⟩)
  | exhausted _ hCurrent =>
    rcases holds_putList hHolds with hOld | ⟨_, _, _, _, hIs⟩
    · exact .inr (.inl ⟨hm, hOld⟩)
    · rw [hCurrent] at hIs
      cases hIs
  | emptied _ hEmpty =>
    rcases holds_putList hHolds with hOld | ⟨_, _, _, _, hIs⟩
    · exact .inr (.inl ⟨hm, hOld⟩)
    · rw [ServerList.current?, hEmpty] at hIs
      cases hIs

end Reply

/-- What every request of a run keeps is kept by the run. -/
theorem run_keeps {P : Switchboard Checker → Prop} {requests : List (Answered Checker)} (hb : P b)
    (hStep : ∀ {b : Switchboard Checker} {answer : FailoverStatus → FailoverDecision}
      {r : Request Checker}, (answer, r) ∈ requests → P b → P (b.handle answer r).1) :
    P (b.run requests).1 := by
  induction requests generalizing b with
  | nil => exact hb
  | cons request rest ih =>
    obtain ⟨answer, r⟩ := request
    exact ih (hStep List.mem_cons_self hb) fun hMem => hStep (List.mem_cons_of_mem _ hMem)

theorem mem_members_run {requests : List (Answered Checker)} {m : Member}
    (hm : m ∈ (b.run requests).1.members) : m ∈ b.members ∨ m ∈ added requests := by
  refine run_keeps (P := fun next => m ∈ next.members → m ∈ b.members ∨ m ∈ added requests)
    .inl ?_ hm
  intro before answer r hMem hOld hm
  rcases (reply_handle answer before r).mem_members hm with hm | rfl
  · exact hOld hm
  · exact .inr (mem_added_of_mem hMem)

theorem isShutDown_run (hDown : b.isShutDown = true) (requests : List (Answered Checker)) :
    (b.run requests).1.isShutDown = true :=
  run_keeps (P := fun next => next.isShutDown = true) hDown
    fun _ h => (reply_handle _ _ _).isShutDown h

theorem matched_run (hb : b.Matched) {requests : List (Answered Checker)}
    (hRequests : ∀ p ∈ requests, p.2.IsMatched) : (b.run requests).1.Matched :=
  run_keeps (P := Matched) hb fun hMem h => (reply_handle _ _ _).matched h (hRequests _ hMem)

theorem matched_new : ({} : Switchboard Checker).Matched := by
  intro role protocol l hList
  cases hList

def operationsServer (port : UInt16) : Server :=
  .operations "10.0.0.1" port []

def operationsChannel (serial : Nat) : Member :=
  { serial, id := "operations", role := .operations, protocol := .tcp, supported := .empty }

end Switchboard

end DeviceUplink
