import DeviceUplink.Channel.Basic

/-!
# Readers

A reader turns what arrives on one connection into commands for its channel. It ends at the first
fault of the stream.
-/

namespace DeviceUplink

structure Reader where
  connection : Nat
  assembler : Assembler
  isFinished : Bool := false

namespace Reader

inductive Event
  | piece (bytes : Bytes)
  | endOfStream
  | failed (reason : String)

def start (connection maxFrameSize : Nat) : Reader :=
  { connection, assembler := .ofLimit maxFrameSize }

def fail (r : Reader) (error : ChannelError) : Reader × Option Command :=
  ({ r with isFinished := true }, some (.readFailed r.connection error))

/-- Takes in one event. Frames that arrive in the same piece as a fault are lost with it. -/
def take (r : Reader) (event : Event) : Reader × Option Command :=
  if r.isFinished then (r, none)
  else
    match event with
    | .endOfStream => r.fail .endOfStream
    | .failed reason => r.fail (.socket reason)
    | .piece bytes =>
      match r.assembler.feed bytes with
      | (.ok frames, assembler) =>
        ({ r with assembler }, some (.inbound r.connection frames bytes.length))
      | (.error error, assembler) => ({ r with assembler }.fail (.frame error))

def takeAll (r : Reader) : List Event → Reader × List Command
  | [] => (r, [])
  | event :: rest =>
    let (next, command?) := r.take event
    let (last, more) := next.takeAll rest
    (last, command?.toList ++ more)

end Reader

end DeviceUplink
