import MarkupLog.Cli.Choice
import MarkupLog.Files.FileSystem
import MarkupLog.Sink
import MarkupLog.Verbosity

/-!
# Command lines

A command line is read in two parts: the options of the program up to the name of a command, and the
words of the command. Values are checked in the order in which their options were first found, and
asking for help comes before all checks of values.
-/

namespace MarkupLog.Cli

/-- Why a part of a command line leads to no action: it asks for help, or it is wrong. -/
inductive Refusal
  | help
  | fault (f : UsageFault)
  deriving Repr, DecidableEq

def firstFault {φ ν : Type} [DecidableEq ν] (check : ν → String → Option UsageFault)
    (p : Parsed φ ν) : Option UsageFault :=
  p.valueKeys.findSome? fun key => (p.value? key).bind (check key)

/-- The options and operands of a part of a command line, with their values checked. -/
def readChecked {φ ν : Type} [DecidableEq φ] [DecidableEq ν] (forms : Forms φ ν) (helpKey : φ)
    (check : ν → String → Option UsageFault) (words : List String) :
    Except Refusal (Parsed φ ν) :=
  match parse forms words with
  | .error e => .error (.fault (.wrongOption e))
  | .ok p =>
    if p.has helpKey then .error .help
    else
      match firstFault check p with
      | some f => .error (.fault f)
      | none => .ok p

def faultUnlessAmong (name : String) (choices : List String) (value : String) : Option UsageFault :=
  if value ∈ choices then none else some (.notAmong name value choices)

/-! ### The program -/

inductive ProgramFlag
  | quiet
  | verbose
  | noColor
  | help
  deriving Repr, DecidableEq

inductive ProgramValue
  | color
  | config
  deriving Repr, DecidableEq

/-- The options of the program. They end with the name of a command. -/
def programForms : Forms ProgramFlag ProgramValue :=
  { flags :=
      [⟨.quiet, "--quiet", some 'q'⟩, ⟨.verbose, "--verbose", some 'v'⟩,
        ⟨.noColor, "--no-color", none⟩, ⟨.help, "--help", some 'h'⟩]
    values := [⟨.color, "--color"⟩, ⟨.config, "--config"⟩]
    mixed := false }

def programFault (fs : FileSystem) : ProgramValue → String → Option UsageFault
  | .color, value => faultUnlessAmong "--color" (ColorMode.all.map ColorMode.name) value
  | .config, value =>
    match fs.entryOfText value with
    | .error _ => some (.missingFile "--config" value)
    | .ok .directory => some (.isDirectory "--config" value)
    | .ok .unreadable => some (.unreadableFile "--config" value)
    | .ok (.file _) => none

structure ProgramOptions where
  verbose : Nat
  quiet : Nat
  noColor : Bool
  color : Option ColorMode
  config : Option Path
  deriving Repr, DecidableEq

def ProgramOptions.ofParsed (p : Parsed ProgramFlag ProgramValue) : ProgramOptions :=
  { verbose := p.count .verbose
    quiet := p.count .quiet
    noColor := p.has .noColor
    color := (p.value? .color).bind ColorMode.named?
    config := (p.value? .config).map Path.ofText }

/-- What a command line asks for: options, and a command with its words unless there is none. -/
structure Invocation where
  options : ProgramOptions
  command : Option (Command × List String)
  deriving Repr, DecidableEq

/-- The options of the program at the start of some words, and the words behind them. -/
def readProgram (fs : FileSystem) (words : List String) :
    Except Refusal (Parsed ProgramFlag ProgramValue) :=
  readChecked programForms .help (programFault fs) words

/-- The command that words name, with the rest of them. Words that name none are read as options
once more, so that options behind two dashes can still ask for help or be wrong. -/
def readCommand (fs : FileSystem) : List String → Except Refusal (Option (Command × List String))
  | [] => .ok none
  | name :: words =>
    match Command.ofName? name with
    | some c => .ok (some (c, words))
    | none =>
      match readProgram fs (name :: words) with
      | .error r => .error r
      | .ok _ => .error (.fault (.unknownCommand name))

def Invocation.read (fs : FileSystem) (words : List String) : Except Refusal Invocation :=
  match readProgram fs words with
  | .error r => .error r
  | .ok p => (readCommand fs p.operands).map fun command => ⟨.ofParsed p, command⟩

/-! ### The command `log` -/

inductive LogFlag
  | debugMode
  | help
  deriving Repr, DecidableEq

inductive LogValue
  | level
  | category
  | groups
  | lead
  deriving Repr, DecidableEq

/-- The options of the command. They may stand anywhere among its operands. -/
def logForms : Forms LogFlag LogValue :=
  { flags := [⟨.debugMode, "--debug-mode", none⟩, ⟨.help, "--help", some 'h'⟩]
    values :=
      [⟨.level, "--level"⟩, ⟨.category, "--category"⟩, ⟨.groups, "--verbose-groups"⟩,
        ⟨.lead, "--prefix"⟩]
    mixed := true }

/-- The groups in the order in which the command line lists them. -/
def categoryChoices : List Category := [.build, .api]

def logFault : LogValue → String → Option UsageFault
  | .level, value => faultUnlessAmong "--level" (Channel.all.map Channel.name) value
  | .category, value => faultUnlessAmong "--category" (categoryChoices.map Category.name) value
  | .groups, _ | .lead, _ => none

/-- What the command is asked for: a channel or a group, settings that replace the others, and a
message with its arguments. -/
structure LogRequest where
  channel : Option Channel
  category : Option Category
  groups : Option String
  lead : Option String
  debugMode : Bool
  message : String
  args : List String
  deriving Repr, DecidableEq

def LogRequest.read (words : List String) : Except Refusal LogRequest :=
  match readChecked logForms .help logFault words with
  | .error r => .error r
  | .ok p =>
    match p.operands with
    | [] => .error (.fault (.missingOperand "MESSAGE"))
    | message :: args =>
      .ok
        { channel := (p.value? .level).bind Channel.ofName?
          category := (p.value? .category).bind fun s => categoryChoices.find? fun c => c.name = s
          groups := p.value? .groups
          lead := p.value? .lead
          debugMode := p.has .debugMode
          message
          args }

/-! ### The other commands -/

inductive HelpFlag
  | help
  deriving Repr, DecidableEq

def helpForms : Forms HelpFlag Empty :=
  { flags := [⟨.help, "--help", some 'h'⟩]
    values := []
    mixed := true }

def readOperands (words : List String) : Except Refusal (List String) :=
  (readChecked helpForms .help (fun _ _ => none) words).map Parsed.operands

def readNothing (words : List String) : Except Refusal Unit :=
  match readOperands words with
  | .error r => .error r
  | .ok [] => .ok ()
  | .ok extra => .error (.fault (.extraOperands extra))

end MarkupLog.Cli
