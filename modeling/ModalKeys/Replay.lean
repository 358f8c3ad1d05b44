import ModalKeys.Editor.Keystrokes
import ModalKeys.Failure
import ModalKeys.Session.Loop
import ModalKeys.Text.Quoted

/-! Key symbols from a text, run through a session on a surface that prints what it is asked to
do. -/
namespace ModalKeys.Replay

/-- A line of the transcript. -/
inductive Line where
  | status (mode : Mode)
  | key (symbol : String)
  | call (call : SurfaceCall)
  | clipboard (text : String)
  deriving DecidableEq, Repr

def bold (text : String) : String := "\x1b[1m" ++ text ++ "\x1b[0m"
def dim (text : String) : String := "\x1b[2m" ++ text ++ "\x1b[0m"
def cyan (text : String) : String := "\x1b[38;5;14m" ++ text ++ "\x1b[39m"

/-- How a line is printed; reading the selection leaves no trace. -/
def Line.render? : Line → Option String
  | status mode => some (bold { mode : State }.statusLine)
  | key symbol => some (cyan symbol)
  | call (.sendKey stroke) => some ("  " ++ stroke.text)
  | call .selectedText => none
  | call .clearSelection => some ("  " ++ dim "(clear selection)")
  | call .blur => some ("  " ++ dim "(blur)")
  | call (.writeClipboard text) => some ("  " ++ dim "(clipboard)" ++ " " ++ Text.quoted text)
  | clipboard text => some ("clipboard: " ++ Text.quoted text)

/-- A transcript in the making, the latest line first. -/
abbrev Tape := List Line

/-- The surface notes its calls on the tape. It has no selection and refuses nothing. -/
def surface : Surface Tape := fun call tape => (.ok "", .call call :: tape)

def editor (config : Config) : Editor Tape := .ofSurface config.platform.resolve surface

/-- The configuration with the platform overridden. A replay begins in command mode unless another
active mode is configured. -/
def prepare (file : Config.File) (platform? : Option String) : Except Failure Config := do
  let config ← (Config.loadOrDefault file).mapError .config
  let platform ←
    match platform? with
    | some text => (PlatformSetting.parse text).mapError fun e => .config (.invalid e)
    | none => pure config.platform
  let startMode := if config.startMode = .off then .command else config.startMode
  return { config with platform, startMode }

def note (line : Line) (m : Machine Tape) : Machine Tape := { m with editor := line :: m.editor }

/-- Notes the modes announced since an earlier state. -/
def noteModes (before : State) (m : Machine Tape) : Machine Tape :=
  let fresh := m.state.announced.take (m.state.announced.length - before.announced.length)
  { m with editor := fresh.map .status ++ m.editor }

def start (config : Config) : Machine Tape :=
  let m := Machine.ofConfig [] config
  note (.status m.state.mode) m

/-- Takes a symbol at its time. -/
def feed (E : Editor Tape) (now : Nat) (m : Machine Tape) (symbol : String) : Machine Tape :=
  let settled := noteModes m.state (Loop.settle E m now)
  let heard := note (.key symbol) settled
  noteModes heard.state (Loop.step E heard ⟨now, some (.key ⟨symbol, .unknown⟩)⟩)

/-- Waits for a command that is still open, and reports the clipboard if it holds anything. -/
def finish (E : Editor Tape) (m : Machine Tape) : Machine Tape :=
  let closed := noteModes m.state (Loop.close E m)
  if closed.state.clipboard.isEmpty then closed else note (.clipboard closed.state.clipboard) closed

/-- The key symbols of a line. -/
def symbols (line : List Char) : List String := (Text.words line).map String.ofList

/-- The transcript of a text whose keys all come at one time. -/
def transcript (config : Config) (text : String) : List Line :=
  let E := editor config
  let keys := (Text.lines text.toList).flatMap symbols
  (finish E (keys.foldl (feed E 0) (start config))).editor.reverse

end ModalKeys.Replay
