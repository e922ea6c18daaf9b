import Uiml.Log.Filter
import Uiml.Scene.Outline
import Uiml.Script.Reader
import Uiml.Session.Operations
import Uiml.Studio.Demo
import Uiml.Studio.Failure
import Uiml.Studio.Options

/-!
# Running the program

The program loads a document, plays a script on it frame by frame, lets the animations come to
rest, and shows the scene. Everything it reads is given to it, and everything it writes is its
result, so a run is a value.

## Main definitions

* `Studio.play` — does one instruction
* `Studio.settle` — lets animations come to rest
* `Studio.present` — the whole run, from the settings to the last scene
* `Studio.launch` — what a command line leads to
-/

namespace Uiml.Studio

/-- A computation that writes output, says log lines, and may fail. -/
abbrev Running := ExceptT Failure (StateT String Logged)

/-- Writes output. -/
def write (text : String) : Running Unit := modify (· ++ text)

/-- Says what a computation says. -/
def follow {α : Type} (run : Logged α) : Running α := liftM (liftM run : StateT String Logged α)

/-- Says what building something says, and fails if it breaks down. -/
def build {α : Type} (run : Building α) : Running α := do
  match ← follow run.run with
  | .ok a => return a
  | .error b => throw (.breakdown b)

/-- Says a log line of the program itself. -/
def say (level : Log.Level) (text : String) : Running Unit :=
  follow (Logged.say level .program text)

/-! ### Time -/

/-- The seconds of a frame. -/
def frameSeconds (rate : Nat) : Float32 :=
  ((FrameClock.ofRate? rate).map fun clock => (clock.tick ⟨0⟩).1.dt).getD 0

/-- Lets a number of frames pass. -/
def advance (rate : Nat) (s : Session) : Nat → Logged Session
  | 0 => pure s
  | frames + 1 => do advance rate (← s.tick (frameSeconds rate)) frames

/-- The most frames that are counted. -/
def maxFrames : Nat := 0xFFFFFFFF

/-- The least number of frames that take at least a number of seconds; none for a negative one. -/
def framesFor (rate : Nat) (seconds : Float32) : Nat :=
  let wanted : Float32 := if 0 < seconds then seconds else 0
  Single.ceilNat maxFrames (wanted * Single.ofNat rate)

/-- The seconds that animations have to come to rest. -/
def settleSeconds : Nat := 10

/-- The frames that animations have to come to rest. -/
def settleFrames (rate : Nat) : Nat :=
  Single.floorNat maxFrames (Single.ofNat settleSeconds * Single.ofNat rate)

/-- Lets frames pass until nothing moves and no picture is missing. -/
def settle (rate : Nat) (s : Session) : Nat → Running Session
  | 0 => do
    say .warn s!"still animating after {settleSeconds}s; printing the current state"
    return s
  | frames + 1 => do
    if s.stage.animator.isIdle && s.slots.inFlight = 0 then return s
    else settle rate (← follow (s.tick (frameSeconds rate))) frames

/-! ### Instructions -/

/-- How a call that has been handed on is shown. -/
def describeCall (call : Invocation) : String :=
  let args := ", ".intercalate call.args
  s!"  [EVENT] {call.element}.on{call.event} → {call.command}({args})\n"

/-- Requests a picture and fetches it at once; it is shown with the next frame. -/
def load (s : Session) (slot : Nat) (kind : SourceKind) (source : String) : Running Session := do
  match ← follow (s.request slot source kind) with
  | (none, s) =>
    say .warn s!"image load into slot {slot} not started"
    return s
  | (some number, s) => return (s.finish number).2

/-- Does one instruction. What goes wrong with it has been said by the session. -/
def play (rate : Nat) (s : Session) : Instruction → Running Session
  | .wait seconds => follow (advance rate s (framesFor rate seconds))
  | .command element command args => do return (← follow (s.execute element command args)).2
  | .text slot text => do
    let (count, s) ← follow (s.setText slot text)
    say .info s!"slot {slot} text → {count} widget(s)"
    return s
  | .image slot kind source => load s slot kind source
  | .event element event args => do
    let (calls, s) := (← follow (s.invoke element event args)).2.takeEvents
    calls.forM fun call => write (describeCall call)
    return s
  | .progress element value animate => do
    return (← follow (s.setProgress element value animate)).2

/-- Reads a script and plays it. -/
def playScript (rate : Nat) (s : Session) (source : String) : Running Session := do
  match ← follow (Script.parse source).run with
  | .error e => throw (.script e)
  | .ok instructions =>
    say .info s!"playing {instructions.length} script instruction(s) at {rate} fps"
    instructions.foldlM (play rate) s

/-! ### Runs -/

/-- What is written first. -/
def banner : String :=
  "\n  ╔════════════════════════════════════════╗\n" ++
  "  ║            NABU STUDIO v0.1            ║\n" ++
  "  ║   headless host  ·  uiml runtime       ║\n" ++
  "  ╚════════════════════════════════════════╝\n\n"

/-- What is written about a load. -/
def summary (stats : CompileStats) (s : Session) : String :=
  s!"  Loaded {stats.created} element(s)  ·  {s.registry.size} name(s) registered  ·  " ++
    s!"{stats.unnamed + stats.unknown + stats.failed} skipped\n"

/-- The settings that are asked for. -/
def settings (options : Options) (files : Files) : Running Config := do
  match options.config with
  | none => return {}
  | some path =>
    match Config.load files path with
    | .ok config => return config
    | .error e => throw (.config path e)

/-- Loads the document that is asked for. -/
def loadDocument (options : Options) (s : Session) : Running (CompileStats × Session) := do
  let load :=
    match options.document with
    | some path => s.loadFile path
    | none => s.load demoDocument
  match ← build load with
  | (.ok stats, s) => return (stats, s)
  | (.error e, _) => throw (.document options.document e)

/-- The script that is asked for. The demo has one of its own. -/
def script? (options : Options) (files : Files) : Running (Option String) := do
  match options.script with
  | none => return if options.document.isNone then some demoScript else none
  | some path =>
    match files.readText path with
    | .ok source => return some source
    | .error fault => throw (.scriptFile path fault)

/-- How long the last pictures are waited for. -/
def lastWait : Span := ⟨5000000000⟩

/-- A whole run. -/
def present (options : Options) (files : Files) : Running Unit := do
  write banner
  let config ← settings options files
  let (stats, s) ← loadDocument options ((Session.new config files {}).listen true)
  let source ← script? options files
  write (summary stats s)
  if options.dumpInitial then write ("\n" ++ s.scene.outline)
  let rate := max 1 options.rate
  let s ←
    match source with
    | none => pure s
    | some source => playScript rate s source
  let s ← settle rate s (settleFrames rate)
  let (_, s) ← follow (s.wait lastWait)
  write ("\n" ++ s.scene.outline ++ "\n")

/-- What a run leaves behind. -/
structure Report where
  /-- The answer to who has called the program: zero if all went well. -/
  code : Nat
  output : String
  errors : String
  deriving DecidableEq, Repr, Inhabited

/-- The filter that is used if none is asked for. -/
def defaultFilter : String := "info"

/-- The filter of the log lines: that of the command line, or else that of the environment; a blank
one counts as none. -/
def filterText (options : Options) (environment : Option String) : String :=
  match options.log <|> environment with
  | some filter => if Text.isBlankText filter then defaultFilter else filter
  | none => defaultFilter

/-- What a run with the given options leaves behind. -/
def report (options : Options) (environment : Option String) (files : Files) : Report :=
  let text := filterText options environment
  let (filter, wrong) := Log.Filter.parse text
  let started := Logged.say .debug .startup s!"logging initialized ({text})"
  let ⟨(result, output), lines⟩ := do started; (present options files).run.run ""
  let warnings := wrong.map fun what => s!"warning: {what}, ignoring it\n"
  let shown := (lines.filter filter.shows).map Log.Line.render
  let said := String.join (warnings ++ shown)
  match result with
  | .ok () => ⟨0, output, said⟩
  | .error failure => ⟨failure.code, output, said ++ failure.report⟩

/-- What a command line leads to. -/
def launch (args : List String) (environment : Option String) (files : Files) : Report :=
  match Options.read args with
  | .ok options => report options environment files
  | .error fault => ⟨2, "", fault.message⟩

end Uiml.Studio
