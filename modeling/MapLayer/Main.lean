import MapLayer.Command.Run
import Std.Time.DateTime.Timestamp

/-!
The program: it reads files, the environment and the clock, and prints what `Command.run` answers.
It opens no connections of its own, so that every service counts as unreachable.
-/

namespace MapLayer.Main

/-- The texts of the files that can be read among some paths. -/
def readFiles : List String → IO (Keyed String)
  | [] => return {}
  | path :: rest => do
    let files ← readFiles rest
    try return files.put path (← IO.FS.readFile path)
    catch _ => return files

/-- The settings of a list, in which a zero character ends each. -/
def settingsOf (text : String) : Environment :=
  ⟨(Text.pieces (Char.ofNat 0) text.toList).filter (· ≠ [])⟩

def readEnvironment : IO Environment := do
  try return settingsOf (← IO.FS.readFile "/proc/self/environ")
  catch _ => return {}

def now : IO Instant := do
  let time ← Std.Time.Timestamp.now
  return (Instant.ofEpochMillis? time.toMillisecondsSinceUnixEpoch.val).getD
    (.startOfDay Instant.epochDay)

def offline : Network := fun _ => .error "no connections"

/-- The files that the arguments and the environment may name. -/
def paths (env : Environment) (args : List String) : List String :=
  Command.environmentFile :: (env.get? Command.configSetting).toList
    ++ args ++ args.filterMap fun arg => (Command.long? arg).bind (·.2)

def world (args : List String) : IO Command.World := do
  let env ← readEnvironment
  let settings ← readFiles [Command.environmentFile]
  let widened := (Command.withSettings env (settings.get? Command.environmentFile)).getD env
  let files ← readFiles (paths widened args)
  return { file := files.get?, env, connect := fun _ => offline, now := ← now }

def run (args : List String) : IO UInt32 := do
  let ending := Command.run (← world args) args
  match ending with
  | .printed text => IO.print text
  | .failed fault => IO.eprintln s!"Error: {fault.message}"
  | .unprepared => IO.eprintln s!"Error: {Command.environmentFile} holds a zero character"
  | .misused => IO.eprintln "usage: wms-layer [options] discover|columns|tile-url|feature-info"
  return ending.code.toUInt32

end MapLayer.Main

def main (args : List String) : IO UInt32 := MapLayer.Main.run args
