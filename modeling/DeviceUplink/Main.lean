import DeviceUplink.Startup

/-!
# The program

Reads the command line, the file and the environment, and prints what a client would start with.
-/

namespace DeviceUplink

def readText? (path : String) : IO (Option String) := do
  try
    return some (← IO.FS.readFile path)
  catch _ =>
    return none

def readEnvironment : IO Environment := do
  let values ← Variable.all.mapM fun name => return (name, ← IO.getEnv name.name)
  return fun name => (values.lookup name).join

/-- What the start needs from outside, with the file that the arguments name. -/
def readContext (a : Arguments) : IO StartContext := do
  return {
    settingsText := ← readText? a.config
    environment := ← readEnvironment
    terminal := ← IO.getEnv "TERM"
    randomSeed := (← IO.getRandomBytes 32).toList }

def fail (e : StartError) : IO UInt8 := do
  if e.exitCode = 0 then IO.print e.message else IO.eprint e.message
  return e.exitCode

def start (words : List String) : IO UInt8 := do
  match Arguments.ofWords words with
  | .error notice => fail (.usage notice)
  | .ok a =>
    match Startup.ofArguments a (← readContext a) with
    | .error e => fail e
    | .ok s =>
      for line in s.report .standard do
        IO.println line
      return 0

end DeviceUplink

def main (words : List String) : IO UInt32 := do
  return (← DeviceUplink.start words).toUInt32
