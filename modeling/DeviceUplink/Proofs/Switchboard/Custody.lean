import Mathlib.Data.List.Nodup
import DeviceUplink.Proofs.Switchboard.Replies

/-!
# Who can still stop a channel

A channel that is registered can be told to shut down, and it is told so when it is removed and
when the switchboard shuts down. A channel whose place is taken by another of its name is not told
anything: it is nobody's from then on.
-/

namespace DeviceUplink.Switchboard

variable {Checker : Type} {answer : FailoverStatus → FailoverDecision}
  {b next : Switchboard Checker} {r : Request Checker} {notices : List (Notice Checker)}
  {m member : Member} {members : List Member}

theorem map_id_enroll (members : List Member) (member : Member) :
    (enroll members member).map Member.id = members.map Member.id ∨
      member.id ∉ members.map Member.id ∧
        (enroll members member).map Member.id = members.map Member.id ++ [member.id] := by
  unfold enroll
  split
  · next i hPlace =>
    obtain ⟨hBound, hId, _⟩ := List.findIdx?_eq_some_iff_getElem.mp hPlace
    have hLength : i < (members.map Member.id).length := by simpa using hBound
    have hSame : (members.map Member.id)[i] = member.id := by simpa using hId
    refine .inl ?_
    rw [List.map_set, ← hSame, List.set_getElem_self]
  · next hNone =>
    refine .inr ⟨?_, by simp⟩
    intro hId
    obtain ⟨other, hOther, hSame⟩ := List.mem_map.mp hId
    have hDiffers := List.findIdx?_eq_none_iff.mp hNone other hOther
    simp [hSame] at hDiffers

theorem nodup_enroll (h : (members.map Member.id).Nodup) (member : Member) :
    ((enroll members member).map Member.id).Nodup := by
  rcases map_id_enroll members member with hSame | ⟨hNew, hMore⟩
  · rwa [hSame]
  · rw [hMore]
    refine List.nodup_append.mpr ⟨h, List.nodup_singleton _, ?_⟩
    rintro id hId _ hMember rfl
    rw [List.mem_singleton.mp hMember] at hId
    exact hNew hId

theorem mem_enroll_of_ne (hm : m ∈ members) (hOther : m.id ≠ member.id) :
    m ∈ enroll members member := by
  unfold enroll
  split
  · next i hPlace =>
    obtain ⟨hBound, hId, _⟩ := List.findIdx?_eq_some_iff_getElem.mp hPlace
    obtain ⟨k, hk, rfl⟩ := List.getElem_of_mem hm
    have hne : i ≠ k := by
      rintro rfl
      exact hOther (by simpa using hId)
    exact List.mem_iff_getElem.mpr ⟨k, by simpa using hk, by simp [hne]⟩
  · exact List.mem_append_left _ hm

/-- Where names are distinct, a channel that joins displaces the one of its name. -/
theorem eq_of_mem_enroll (h : (members.map Member.id).Nodup) (hm : m ∈ enroll members member)
    (hId : m.id = member.id) : m = member :=
  List.inj_on_of_nodup_map (nodup_enroll h member) hm (self_mem_enroll members member) hId

theorem id_ne_of_mem_eraseP {id : String} (h : (members.map Member.id).Nodup)
    (hm : m ∈ members.eraseP fun m => m.id == id) : m.id ≠ id := by
  induction members with
  | nil => cases hm
  | cons first rest ih =>
    rw [List.map_cons, List.nodup_cons] at h
    by_cases hFirst : first.id = id
    · rw [List.eraseP_cons_of_pos (by simpa using hFirst)] at hm
      rintro hId
      exact h.1 (List.mem_map.mpr ⟨m, hm, hId.trans hFirst.symm⟩)
    · rw [List.eraseP_cons_of_neg (by simpa using hFirst)] at hm
      rcases List.mem_cons.mp hm with rfl | hm
      · exact hFirst
      · exact ih h.2 hm

structure Distinct (m : Member) (b : Switchboard Checker) : Prop where
  ids : (b.members.map Member.id).Nodup
  sole : ∀ other ∈ b.members, other.serial = m.serial → other = m

inductive Fate (m : Member) (b : Switchboard Checker) (r : Request Checker)
    (next : Switchboard Checker) (notices : List (Notice Checker)) : Prop
  | stays (h : m ∈ next.members)
      (hTold : .order m.serial .shutdown ∈ notices ↔
        b.isShutDown = false ∧ next.isShutDown = true)
      (hKept : ∀ other, r = .addChannel other → other.id = m.id → b.isShutDown = true)
  | released (h : m ∉ next.members) (hTold : .order m.serial .shutdown ∈ notices)
      (hr : r = .removeChannel m.id)
  | displaced {other : Member} (h : m ∉ next.members)
      (hTold : .order m.serial .shutdown ∉ notices) (hr : r = .addChannel other)
      (hId : other.id = m.id) (hRunning : b.isShutDown = false)

namespace Reply

theorem distinct (h : Reply answer b r next notices) (hb : Distinct m b)
    (hr : ∀ other, r = .addChannel other → other.serial = m.serial → other = m) :
    Distinct m next := by
  constructor
  · cases h with
    | added member => exact nodup_enroll hb.ids member
    | removed => exact hb.ids.sublist (List.eraseP_sublist.map _)
    | _ => exact hb.ids
  · intro other hOther hSerial
    rcases h.mem_members hOther with hOld | hNew
    · exact hb.sole other hOld hSerial
    · exact hr other hNew hSerial

/-- A channel that is not registered hears nothing any more. -/
theorem gone (h : Reply answer b r next notices) (hb : Distinct m b) (hm : m ∉ b.members)
    (hr : ∀ other, r = .addChannel other → other.serial ≠ m.serial) :
    m ∉ next.members ∧ ∀ order, .order m.serial order ∉ notices := by
  constructor
  · intro hBack
    rcases h.mem_members hBack with hOld | hNew
    · exact hm hOld
    · exact hr m hNew rfl
  · intro order hOrder
    rcases h.addressed hOrder with ⟨other, hOther, hSerial⟩ | ⟨other, hNew, hSerial⟩
    · exact hm (hb.sole other hOther hSerial ▸ hOther)
    · exact hr other hNew hSerial

theorem fate (h : Reply answer b r next notices) (hb : Distinct m b) (hm : m ∈ b.members)
    (hr : ∀ other, r = .addChannel other → other.serial ≠ m.serial) :
    Fate m b r next notices := by
  -- Whoever stays registered while the switchboard does not shut down hears of no shutdown.
  have hStays : next.members = b.members → next.isShutDown = b.isShutDown →
      .order m.serial .shutdown ∉ notices →
      (∀ other, r = .addChannel other → other.id = m.id → b.isShutDown = true) →
      Fate m b r next notices := by
    intro hMembers hShut hNone hKept
    refine .stays (hMembers ▸ hm) ?_ hKept
    simp [hNone, hShut]
  cases h with
  | ignored h =>
    refine hStays rfl rfl (List.not_mem_nil) ?_
    rintro other rfl _
    cases h with
    | added h => exact h
  | added member hRunning =>
    have hMute : .order m.serial .shutdown ∉ b.welcome member := by
      intro hTold
      exact hr member rfl (mem_welcome.mp hTold).1.symm
    by_cases hId : member.id = m.id
    · refine .displaced ?_ hMute rfl hId hRunning
      intro hStill
      obtain rfl := eq_of_mem_enroll hb.ids hStill hId.symm
      exact hr m rfl rfl
    · refine .stays (mem_enroll_of_ne hm fun hSame => hId hSame.symm) ?_ ?_
      · simp [hMute, hRunning]
      · rintro other hOther hSame
        cases hOther
        exact absurd hSame hId
  | @removed id member hMember =>
    have hNamed : member.id = id := by simpa using List.find?_some hMember
    by_cases hId : m.id = id
    · have hSame : member = m :=
        List.inj_on_of_nodup_map hb.ids (List.mem_of_find?_eq_some hMember) hm
          (hNamed.trans hId.symm)
      refine .released ?_ (mem_tell.mpr ⟨rfl, m, ?_, rfl⟩) (by rw [hId])
      · intro hStill
        exact id_ne_of_mem_eraseP hb.ids hStill hId
      · rw [hSame]
        exact List.mem_singleton_self m
    · have hMute : .order m.serial .shutdown ∉ tell (.shutdown : Order Checker) [member] := by
        intro hTold
        obtain ⟨_, other, hOther, hSerial⟩ := mem_tell.mp hTold
        rw [List.mem_singleton.mp hOther] at hSerial
        have hSame := hb.sole member (List.mem_of_find?_eq_some hMember) hSerial
        exact hId (hSame ▸ hNamed)
      refine .stays ((List.mem_eraseP_of_neg (by simpa using hId)).mpr hm) ?_ ?_
      · simp [hMute]
      · rintro other hOther
        cases hOther
  | routed hRequest hSync =>
    refine hStays rfl rfl ?_ ?_
    · intro hTold
      obtain ⟨rfl, _⟩ := mem_tell.mp hTold
      cases hSync
    · rintro other rfl
      cases hRequest
  | paused | resumed | checked =>
    refine hStays rfl rfl ?_ (by simp)
    intro hTold
    cases (mem_tell.mp hTold).1
  | stopped hRunning =>
    refine .stays hm ?_ (by simp)
    exact iff_of_true (mem_tell.mpr ⟨rfl, m, hm, rfl⟩) ⟨hRunning, rfl⟩
  | served h =>
    refine hStays rfl rfl ?_ ?_
    · intro hTold
      cases (mem_tell.mp hTold).1
    · rintro other rfl
      cases h
  | exhausted => exact hStays rfl rfl (order_notMem_exhaust answer _ _ _ _) (by simp)
  | emptied h =>
    refine hStays rfl rfl List.not_mem_nil ?_
    rintro other rfl
    cases h

end Reply

/-- At some point another channel takes the name and the place of this one. -/
def Displaced (m : Member) (b : Switchboard Checker) (requests : List (Answered Checker)) : Prop :=
  ∃ first answer other rest, requests = first ++ (answer, .addChannel other) :: rest ∧
    other.id = m.id ∧ (b.run first).1.isShutDown = false ∧ m ∈ (b.run first).1.members

def Displaces (m : Member) (b : Switchboard Checker) (r : Request Checker) : Prop :=
  ∃ other, r = .addChannel other ∧ other.id = m.id ∧ b.isShutDown = false ∧ m ∈ b.members

theorem not_displaced_nil : ¬ Displaced m b [] := by
  rintro ⟨first, _, _, _, hSplit, _⟩
  cases first <;> cases hSplit

theorem displaced_cons {rest : List (Answered Checker)} :
    Displaced m b ((answer, r) :: rest) ↔
      Displaces m b r ∨ Displaced m (b.handle answer r).1 rest := by
  constructor
  · rintro ⟨first, _, other, more, hSplit, hId, hRunning, hm⟩
    cases first with
    | nil =>
      cases hSplit
      exact .inl ⟨other, rfl, hId, hRunning, hm⟩
    | cons request first =>
      cases hSplit
      exact .inr ⟨first, _, other, more, rfl, hId, hRunning, hm⟩
  · rintro (⟨other, rfl, hId, hRunning, hm⟩ | ⟨first, _, other, more, rfl, hId, hRunning, hm⟩)
    · exact ⟨[], answer, other, rest, rfl, hId, hRunning, hm⟩
    · exact ⟨(answer, r) :: first, _, other, more, rfl, hId, hRunning, hm⟩

theorem not_displaced_of_isShutDown (hDown : b.isShutDown = true)
    (requests : List (Answered Checker)) : ¬ Displaced m b requests := by
  rintro ⟨first, _, _, _, _, _, hRunning, _⟩
  rw [isShutDown_run hDown first] at hRunning
  cases hRunning

/-- A channel that is not registered stays out of reach, if it is not added again. -/
theorem gone_run {requests : List (Answered Checker)} (hb : Distinct m b) (hm : m ∉ b.members)
    (hOnce : ∀ other ∈ added requests, other.serial ≠ m.serial) :
    m ∉ (b.run requests).1.members ∧ .order m.serial .shutdown ∉ (b.run requests).2 ∧
      ¬ Displaced m b requests := by
  induction requests generalizing b with
  | nil => exact ⟨hm, List.not_mem_nil, not_displaced_nil⟩
  | cons request rest ih =>
    obtain ⟨answer, r⟩ := request
    have hReply := reply_handle answer b r
    have hNew : ∀ other, r = .addChannel other → other.serial ≠ m.serial :=
      fun other hr => hOnce other (mem_added_cons.mpr (.inl hr))
    obtain ⟨hStillOut, hMute⟩ := hReply.gone hb hm hNew
    have hDistinct := hReply.distinct hb fun other hr hSame => absurd hSame (hNew other hr)
    obtain ⟨hOut, hNotTold, hKept⟩ := ih hDistinct hStillOut
      fun other hOther => hOnce other (mem_added_cons.mpr (.inr hOther))
    refine ⟨hOut, ?_, ?_⟩
    · intro hTold
      rcases List.mem_append.mp hTold with hTold | hTold
      · exact hMute _ hTold
      · exact hNotTold hTold
    · intro hDisplaced
      rcases displaced_cons.mp hDisplaced with ⟨_, _, _, _, hIn⟩ | hLater
      · exact hm hIn
      · exact hKept hLater

theorem kept_iff {requests : List (Answered Checker)} (hb : Distinct m b) (hm : m ∈ b.members)
    (hOnce : ∀ other ∈ added requests, other.serial ≠ m.serial) :
    (m ∈ (b.run requests).1.members ∨ .order m.serial .shutdown ∈ (b.run requests).2 ↔
      ¬ Displaced m b requests) ∧
    (b.isShutDown = false → (b.run requests).1.isShutDown = true →
      (.order m.serial .shutdown ∈ (b.run requests).2 ↔ ¬ Displaced m b requests)) := by
  induction requests generalizing b with
  | nil =>
    refine ⟨iff_of_true (.inl hm) not_displaced_nil, ?_⟩
    intro hRunning hDown
    rw [show b.isShutDown = true from hDown] at hRunning
    cases hRunning
  | cons request rest ih =>
    obtain ⟨answer, r⟩ := request
    have hReply := reply_handle answer b r
    have hNew : ∀ other, r = .addChannel other → other.serial ≠ m.serial :=
      fun other hr => hOnce other (mem_added_cons.mpr (.inl hr))
    have hRest : ∀ other ∈ added rest, other.serial ≠ m.serial :=
      fun other hOther => hOnce other (mem_added_cons.mpr (.inr hOther))
    have hDistinct := hReply.distinct hb fun other hr hSame => absurd hSame (hNew other hr)
    simp only [run, List.mem_append, displaced_cons]
    cases hReply.fate hb hm hNew with
    | stays hIn hTold hKept =>
      obtain ⟨hAlways, hDown⟩ := ih hDistinct hIn hRest
      have hNow : ¬ Displaces m b r := by
        rintro ⟨other, hr, hId, hRunning, _⟩
        rw [hKept other hr hId] at hRunning
        cases hRunning
      simp only [hNow, false_or]
      by_cases hShuts : b.isShutDown = false ∧ (b.handle answer r).1.isShutDown = true
      · have hLater := not_displaced_of_isShutDown (m := m) hShuts.2 rest
        exact ⟨iff_of_true (.inr (.inl (hTold.mpr hShuts))) hLater,
          fun _ _ => iff_of_true (.inl (hTold.mpr hShuts)) hLater⟩
      · have hMute : .order m.serial .shutdown ∉ (b.handle answer r).2 :=
          fun hNotice => hShuts (hTold.mp hNotice)
        simp only [hMute, false_or]
        refine ⟨hAlways, ?_⟩
        intro hRunning hLast
        refine hDown ?_ hLast
        exact Bool.eq_false_iff.mpr fun hNext => hShuts ⟨hRunning, hNext⟩
    | released hOut hTold hr =>
      obtain ⟨_, _, hLater⟩ := gone_run hDistinct hOut hRest
      have hKept : ¬ (Displaces m b r ∨ Displaced m (b.handle answer r).1 rest) := by
        rintro (⟨_, hAdd, _⟩ | hDisplaced)
        · rw [hr] at hAdd
          cases hAdd
        · exact hLater hDisplaced
      exact ⟨iff_of_true (.inr (.inl hTold)) hKept, fun _ _ => iff_of_true (.inl hTold) hKept⟩
    | displaced hOut hMute hr hId hRunning =>
      obtain ⟨hStillOut, hNotTold, _⟩ := gone_run hDistinct hOut hRest
      have hDisplaced : ¬ ¬ (Displaces m b r ∨ Displaced m (b.handle answer r).1 rest) :=
        fun hNot => hNot (.inl ⟨_, hr, hId, hRunning, hm⟩)
      have hTold : ¬ (.order m.serial .shutdown ∈ (b.handle answer r).2 ∨
          .order m.serial .shutdown ∈ ((b.handle answer r).1.run rest).2) :=
        not_or.mpr ⟨hMute, hNotTold⟩
      exact ⟨iff_of_false (not_or.mpr ⟨hStillOut, hTold⟩) hDisplaced,
        fun _ _ => iff_of_false hTold hDisplaced⟩

theorem distinct_run {requests : List (Answered Checker)} (hb : Distinct m b)
    (hSole : ∀ other ∈ added requests, other.serial = m.serial → other = m) :
    Distinct m (b.run requests).1 := by
  refine run_keeps (P := Distinct m) hb ?_
  intro b answer r hMem h
  refine (reply_handle answer b r).distinct h ?_
  rintro other rfl
  exact hSole other (mem_added_of_mem hMem)

/-- A channel that has been accepted once is at every later moment registered or has been told to
shut down, and told so by the time that the switchboard has shut down, unless and only unless
another of its name has taken its place. -/
theorem kept_or_stopped_iff {before after : List (Answered Checker)}
    {answer : FailoverStatus → FailoverDecision} {m : Member}
    (hOnce : ∀ other ∈ added before ++ added after, other.serial ≠ m.serial)
    (hAccepted : (({} : Switchboard Checker).run before).1.isShutDown = false) :
    let joined := (({} : Switchboard Checker).run (before ++ [(answer, .addChannel m)])).1
    let last := joined.run after
    (m ∈ last.1.members ∨ .order m.serial .shutdown ∈ last.2 ↔ ¬ joined.Displaced m after) ∧
      (last.1.isShutDown = true →
        (.order m.serial .shutdown ∈ last.2 ↔ ¬ joined.Displaced m after)) := by
  intro joined last
  have hSole : ∀ other ∈ added (before ++ [(answer, .addChannel m)]),
      other.serial = m.serial → other = m := by
    intro other hOther hSerial
    rw [added_append] at hOther
    rcases List.mem_append.mp hOther with hOther | hOther
    · exact absurd hSerial (hOnce other (List.mem_append_left _ hOther))
    · exact List.mem_singleton.mp hOther
  have hDistinct : Distinct m joined :=
    distinct_run (b := {}) ⟨List.nodup_nil, fun _ hOther => absurd hOther List.not_mem_nil⟩ hSole
  have hJoined : joined = { (({} : Switchboard Checker).run before).1 with
      members := enroll (({} : Switchboard Checker).run before).1.members m } := by
    simp only [joined, run_append, run, handle, addChannel, hAccepted]
    rfl
  have hIn : m ∈ joined.members := by
    rw [hJoined]
    exact self_mem_enroll _ m
  have hRunning : joined.isShutDown = false := by
    rw [hJoined]
    exact hAccepted
  obtain ⟨hKept, hStopped⟩ := kept_iff hDistinct hIn
    fun other hOther => hOnce other (List.mem_append_right _ hOther)
  exact ⟨hKept, hStopped hRunning⟩

def bootstrapChannel (serial : Nat) : Member :=
  { serial, id := "bootstrap", role := .bootstrap, protocol := .tcp, supported := .empty }

/-- Channels of two names join before the switchboard shuts down. -/
theorem both_channels_are_stopped :
    let after : List (Answered Unit) :=
      answered .noop [.pause, .addChannel (bootstrapChannel 2), .shutdown]
    let joined := (({} : Switchboard Unit).run
      ([] ++ [(fun _ => .noop, .addChannel (operationsChannel 1))])).1
    (∀ other ∈ @added Unit [] ++ added after, other.serial ≠ 1) ∧
      (({} : Switchboard Unit).run []).1.isShutDown = false ∧
      (joined.run after).1.isShutDown = true ∧
      .order 1 .shutdown ∈ (joined.run after).2 := by
  intro after joined
  have hAdded : added after = [bootstrapChannel 2] := rfl
  have hOnce : ∀ other ∈ @added Unit [] ++ added after, other.serial ≠ 1 := by
    rw [hAdded]
    simp [added, bootstrapChannel]
  have hKept : ¬ joined.Displaced (operationsChannel 1) after := by
    rintro ⟨first, answer, other, rest, hSplit, hId, _⟩
    have hOther : other ∈ added after := by
      rw [hSplit, added_append]
      exact List.mem_append_right _ (mem_added_cons.mpr (.inl rfl))
    rw [hAdded] at hOther
    rw [List.mem_singleton.mp hOther] at hId
    exact absurd hId (by decide)
  obtain ⟨_, hStopped⟩ := @kept_or_stopped_iff Unit [] after (fun _ => .noop) (operationsChannel 1)
    hOnce rfl
  exact ⟨hOnce, rfl, rfl, (hStopped rfl).mpr hKept⟩

/-- The second of two channels of one name takes the place of the first, which is registered no more
and hears nothing even when the switchboard shuts down. -/
theorem replaced_channel_is_orphaned :
    ¬ ∀ (before after : List (Answered Unit)) (answer : FailoverStatus → FailoverDecision)
      (m : Member), (∀ other ∈ added before ++ added after, other.serial ≠ m.serial) →
      (({} : Switchboard Unit).run before).1.isShutDown = false →
      let joined := (({} : Switchboard Unit).run (before ++ [(answer, .addChannel m)])).1
      m ∈ (joined.run after).1.members ∨ .order m.serial .shutdown ∈ (joined.run after).2 := by
  intro hKept
  let after : List (Answered Unit) :=
    answered .noop [.addChannel (operationsChannel 2), .shutdown]
  have hOnce : ∀ other ∈ @added Unit [] ++ added after,
      other.serial ≠ (operationsChannel 1).serial := by
    simp [after, answered, added, operationsChannel]
  rcases hKept [] after (fun _ => .noop) (operationsChannel 1) hOnce rfl with hIn | hTold
  · have hMembers : operationsChannel 1 ∈ [operationsChannel 2] := hIn
    simp [operationsChannel] at hMembers
  · have hNotices : (.order 1 .shutdown : Notice Unit) ∈ [.order 2 .shutdown] := hTold
    simp at hNotices

end DeviceUplink.Switchboard
