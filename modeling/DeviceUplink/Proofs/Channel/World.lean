import DeviceUplink.Proofs.Channel.Mirror

/-!
# One world behind several hosts

A host answers for one command, by what has occurred in that command. A world answers by everything
that has occurred, so that it does not matter how that is divided into commands; only its clock may
show anything. `Turn.seen` is a turn with all that was told before, without instants and octets
read, and every operation on it does what the operation does on the turn.
-/

namespace DeviceUplink

/-- The host in which a world shows itself at this instant, after what it has been `told`. -/
def Host.after (world : Host) (told : List Occurrence) (now : Nat) : Host where
  suite := world.suite
  now := now
  identity log := world.identity (told ++ log)
  draw log := world.draw (told ++ log)
  compile log := world.compile (told ++ log)
  digest log := world.digest (told ++ log)
  write log := world.write (told ++ log)
  isOnline log := world.isOnline (told ++ log)
  decide log := world.decide (told ++ log)

def Host.untimed (world : Host) : Host :=
  { world with now := 0 }

def RoundTrip.untimed (r : RoundTrip) : RoundTrip where
  outstanding := r.outstanding.map fun _ => 0
  last := r.last.map fun _ => .zero

def Statistics.untimed (s : Statistics) : Statistics :=
  { s with
    bytesIn := 0
    lastFrameIn := s.lastFrameIn.map fun _ => 0
    lastFrameOut := s.lastFrameOut.map fun _ => 0
    lastRoundTrip := s.lastRoundTrip.map fun _ => .zero }

def Channel.untimed (c : Channel) : Channel :=
  { c with roundTrip := c.roundTrip.untimed, statistics := c.statistics.untimed }

def Turn.seen (told : List Occurrence) (t : Turn) : Turn :=
  { channel := t.channel.untimed, log := told ++ t.log }

def Mirror.untimed (told : List Occurrence) : Mirror where
  told := told
  roundTrip := RoundTrip.untimed
  statistics := Statistics.untimed

theorem Mirror.reflects_untimed (world : Host) (told : List Occurrence) (now : Nat) :
    (Mirror.untimed told).Reflects (world.after told now) world.untimed where
  suite := rfl
  identity _ := rfl
  draw _ := rfl
  compile _ := rfl
  digest _ := rfl
  write _ := rfl
  isOnline _ := rfl
  decide _ := rfl
  sent _ _ := rfl
  parted _ := rfl
  connected _ := rfl
  shown _ _ := rfl
  reset _ := rfl
  pinged _ := rfl
  ponged r := by
    cases hOutstanding : r.outstanding with
    | none => simp [Mirror.untimed, RoundTrip.untimed, RoundTrip.processPong, hOutstanding]
    | some sent =>
      simp [Mirror.untimed, RoundTrip.untimed, RoundTrip.processPong, hOutstanding, Duration.zero,
        Host.untimed]

namespace Turn

variable (world : Host) (told : List Occurrence) (now : Nat) (t : Turn)

@[simp] theorem log_seen : (t.seen told).log = told ++ t.log := rfl

@[simp] theorem channel_seen : (t.seen told).channel = t.channel.untimed := rfl

theorem seen_countBytes (size : Nat) : (t.countBytes size).seen told = t.seen told := rfl

theorem seen_receive (connection : Nat) (frame : Frame) :
    (t.receive (world.after told now) connection frame).seen told =
      (t.seen told).receive world.untimed connection frame :=
  (Mirror.reflects_untimed world told now).receive t rfl connection frame

theorem seen_receiveAll (connection : Nat) (frames : List Frame) :
    (t.receiveAll (world.after told now) connection frames).seen told =
      (t.seen told).receiveAll world.untimed connection frames := by
  induction frames generalizing t with
  | nil => rfl
  | cons frame rest ih =>
    have hConnection : (t.seen told).channel.connection = t.channel.connection := rfl
    simp only [receiveAll, List.foldl_cons, hConnection] at ih ⊢
    split
    · rw [ih, seen_receive]
    · exact ih t

theorem seen_readFailed (connection : Nat) (error : ChannelError) :
    (t.readFailed (world.after told now) connection error).seen told =
      (t.seen told).readFailed world.untimed connection error :=
  (Mirror.reflects_untimed world told now).readFailed t connection error

theorem seen_inbound (connection : Nat) (frames : List Frame) (size : Nat) :
    (t.inbound (world.after told now) connection frames size).seen told =
      (t.seen told).receiveAll world.untimed connection frames := by
  simp only [inbound]
  split
  · rw [seen_receiveAll, seen_countBytes]
  · next hOther => rw [receiveAll_of_ne world.untimed (by exact hOther)]

end Turn

end DeviceUplink
