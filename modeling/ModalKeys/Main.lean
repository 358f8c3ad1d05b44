import ModalKeys.Replay

/-! The command line: key symbols on standard input, separated by white space, and on standard
output the keystrokes that an editor would receive. -/
namespace ModalKeys.CommandLine

/-- The directory of configuration files, if the environment tells. -/
def configDirectory : IO (Option String) := do
  match ← IO.getEnv "XDG_CONFIG_HOME" with
  | some dir => if dir.startsWith "/" then return some dir
  | none => pure ()
  return (← IO.getEnv "HOME").map (· ++ "/.config")

def configFile : IO Config.File := do
  let some dir ← configDirectory | return .missing
  try
    return .bytes (← IO.FS.readBinFile (dir ++ "/vimrly/config.toml"))
  catch
    | .noFileOrDirectory .. => return .missing
    | e => return .unreadable (toString e)

/-- Prints what is on the tape and takes it off. -/
def print (m : Machine Replay.Tape) : IO (Machine Replay.Tape) := do
  (m.editor.reverse.filterMap Replay.Line.render?).forM IO.println
  return { m with editor := [] }

/-- Plays line after line until the input ends. -/
partial def play (E : Editor Replay.Tape) (input : IO.FS.Stream) (m : Machine Replay.Tape) :
    IO (Machine Replay.Tape) := do
  let line ← input.getLine
  if line.isEmpty then return m
  let now ← IO.monoMsNow
  play E input (← print ((Replay.symbols line.toList).foldl (Replay.feed E now) m))

def run (config : Config) : IO Unit := do
  let E := Replay.editor config
  let m ← play E (← IO.getStdin) (← print (Replay.start config))
  if let some armed := m.timer.armed then
    IO.sleep (armed.deadline - (← IO.monoMsNow)).toUInt32
  let _ ← print (Replay.finish E m)

/-- The exit code of the program. -/
def main : IO UInt32 := do
  match Replay.prepare (← configFile) (← IO.getEnv "VIMRLY_PLATFORM") with
  | .ok config =>
    run config
    return 0
  | .error e =>
    IO.eprintln ("Error: " ++ e.message)
    return 1

end ModalKeys.CommandLine

def main : IO UInt32 := ModalKeys.CommandLine.main
