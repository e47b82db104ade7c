import MarkupLog.Cli.Invocation
import MarkupLog.Cli.Run
import MarkupLog.Logger.Session
import MarkupLog.Settings.Resolve
import MarkupLog.Settings.Shown
import MarkupLog.Text.LineEnds

/-!
# What the commands do

A run first chooses its reporter, then resolves its settings and decides about color, and then
carries out its command. The output is a console that keeps color or removes it.
-/

namespace MarkupLog.Cli

/-- What a run can see: the files, the environment, whether its output is a terminal, and its input,
unless that is no text. -/
structure World where
  files : FileSystem := {}
  env : Environment := []
  output : Terminal.Probe := .answers false
  input : Except Utf8.Fault String := .ok ""

structure Prepared where
  settings : Settings
  useColor : Bool
  deriving Repr, DecidableEq

def Prepared.console (p : Prepared) : Console :=
  ⟨p.useColor⟩

/-! ### Preparing -/

/-- The reporter of a run: the environment decides before the options. -/
def chooseReporter (env : Environment) (o : ProgramOptions) : Act Reporter :=
  match env.level with
  | .error e => Act.stop (.unhandled (.level e))
  | .ok (some level) => pure (Reporter.ofLevel level)
  | .ok none =>
    match diagnosticsLevel o.verbose o.quiet with
    | .error e => Act.fail e
    | .ok level => pure (Reporter.ofLevel level)

def runSource : String := "emphlog.cli.main"

def settingsRecord (s : Settings) : Record :=
  ⟨Level.debug, runSource, "Resolved configuration: " ++ s.shown⟩

def resolveSettings (w : World) (o : ProgramOptions) : Act Settings := do
  match ← Act.noted (Settings.resolve w.files w.env { file := o.config }) with
  | .ok s => pure s
  | .error (.undecodable fault) => Act.stop (.unhandled (.undecodable fault))
  | .error (.settings e) => Act.fail ⟨.config, e.message⟩

def withOverrides (s : Settings) (o : ProgramOptions) : Settings :=
  { s with colorMode := (colorOverride o.color o.noColor).getD s.colorMode }

def prepare (w : World) (o : ProgramOptions) : Act Prepared := do
  let settings := withOverrides (← resolveSettings w o) o
  Act.emit [.record (settingsRecord settings)]
  match ColorMode.decide (some settings.colorMode) w.env w.output with
  | .ok useColor => pure ⟨settings, useColor⟩
  | .error e => Act.stop (.unhandled (.probe e))

/-! ### Commands -/

/-- What was read, unless it leads to no action. -/
def orRefuse {α : Type} (console : Console) (screen : Screen) : Except Refusal α → Act α
  | .ok a => pure a
  | .error .help => Act.help screen
  | .error (.fault f) => Act.misuse console screen f

/-- The part in which the output of a logger reaches the streams. -/
def shownDelivery : Delivery → List Event
  | .printed .stdout text => [.out text]
  | .printed .stderr text => [.err text]
  | _ => []

/-- The part of an effect: its records, then its lines. -/
def ofEffect (e : Effect) : Act Unit :=
  let events := e.records.map Event.record ++ e.deliveries.flatMap shownDelivery
  match e.reply with
  | .ok _ => Act.emit events
  | .error fault => ⟨events, .error (.unhandled (.message fault))⟩

/-- The error of a group with a channel that is not for information. -/
def categoryError : ProgramError :=
  ⟨.usage, "'--category' messages are always logged at info level."⟩

def LogRequest.call (r : LogRequest) : Call :=
  let m : Message := ⟨r.message, r.args.map .str⟩
  match r.category with
  | some c => .verbose c.name m
  | none =>
    match r.channel with
    | some .debug => .debug m
    | some .warn => .warn m
    | some .error => .error m
    | some .info | none => .info m

def LogRequest.setup (r : LogRequest) (p : Prepared) : Logger.Setup :=
  { useColor := p.useColor
    verbose := r.groups.or p.settings.verbose
    batchMode := true
    lead := r.lead.getD p.settings.lead
    palette := p.settings.palette }

def runLog (p : Prepared) (r : LogRequest) : Act Unit :=
  if r.category.isSome ∧ r.channel ≠ none ∧ r.channel ≠ some .info then Act.fail categoryError
  else do
    let (session, built) := Session.start (r.setup p) (.console r.debugMode p.console)
    ofEffect built
    ofEffect (session.step (.call .main r.call)).2

/-- Writes texts without their markup: each on a line of its own, or else the input. -/
def runStrip (w : World) (p : Prepared) (texts : List String) : Act Unit :=
  if texts.isEmpty then
    match w.input with
    | .ok text => Act.print p.console (Markup.strip (Text.plainLines text)) false
    | .error fault => Act.stop (.unhandled (.undecodable fault))
  else texts.forM fun text => Act.print p.console (Markup.strip text)

def runVersion (p : Prepared) : Act Unit :=
  Act.print p.console (p.console.styled none (some true) (Program.version true))

def runCommand (w : World) (p : Prepared) (c : Command) (words : List String) : Act Unit := do
  let screen := Screen.command c
  match c with
  | .log => runLog p (← orRefuse p.console screen (LogRequest.read words))
  | .strip => runStrip w p (← orRefuse p.console screen (readOperands words))
  | .version => do
    orRefuse p.console screen (readNothing words)
    runVersion p

def runWithoutCommand (p : Prepared) : Act Unit := do
  Act.print p.console "Hint: use 'emphlog log MESSAGE' to render a message."
  Act.print p.console ""
  Act.print p.console Screen.program.text

/-! ### Runs -/

def body (w : World) (i : Invocation) : Act Unit := do
  let p ← prepare w i.options
  match i.command with
  | none => runWithoutCommand p
  | some (c, words) => runCommand w p c words

def run (w : World) (words : List String) : Run :=
  let invocation := orRefuse ⟨false⟩ .program (Invocation.read w.files words)
  match invocation.result with
  | .error ending => ⟨{}, invocation.events, ending⟩
  | .ok i =>
    let reporter := chooseReporter w.env i.options
    match reporter.result with
    | .error ending => ⟨{}, reporter.events, ending⟩
    | .ok r => Run.ofAct r (body w i)

end MarkupLog.Cli
