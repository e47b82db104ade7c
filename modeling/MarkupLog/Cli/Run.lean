import MarkupLog.Cli.Failure
import MarkupLog.Diagnostics.Reporter

/-!
# Runs

A run of the program is what it writes, step by step, and how it ends. Records are kept apart from
written text: which of them are shown, and how, is up to the reporter, so nothing that goes to the
standard output depends on it.
-/

namespace MarkupLog.Cli

inductive Event
  | out (text : String)
  | err (text : String)
  | record (r : Record)
  deriving Repr, DecidableEq

def Event.stdout : Event → String
  | .out text => text
  | _ => ""

def Event.stderr (reporter : Reporter) : Event → String
  | .out _ => ""
  | .err text => text
  | .record r => reporter.text r

/-- A part of a run: what happens, and what it gives unless the run ends in it. -/
structure Act (α : Type) where
  events : List Event
  result : Except Ending α

namespace Act

instance : Monad Act where
  pure a := ⟨[], .ok a⟩
  bind x f :=
    match x.result with
    | .error e => ⟨x.events, .error e⟩
    | .ok a => ⟨x.events ++ (f a).events, (f a).result⟩

def emit (events : List Event) : Act Unit :=
  ⟨events, .ok ()⟩

def stop {α : Type} (ending : Ending) : Act α :=
  ⟨[], .error ending⟩

def noted {α : Type} (x : Noted α) : Act α :=
  ⟨x.records.map .record, .ok x.value⟩

def fail {α : Type} (e : ProgramError) : Act α :=
  ⟨[.err e.plainText], .error (.exit e.kind.exitCode)⟩

def help {α : Type} (screen : Screen) : Act α :=
  ⟨[.out (screen.text ++ "\n")], .error (.exit .success)⟩

def misuse {α : Type} (console : Console) (screen : Screen) (f : UsageFault) : Act α :=
  ⟨[.err (console.written (f.text screen) false)], .error (.exit .misuse)⟩

def print (console : Console) (text : String) (newline : Bool := true) : Act Unit :=
  emit [.out (console.written text newline)]

@[simp] theorem events_pure {α : Type} (a : α) : (pure a : Act α).events = [] := rfl

@[simp] theorem result_pure {α : Type} (a : α) : (pure a : Act α).result = .ok a := rfl

theorem bind_of_error {α β : Type} {x : Act α} {e : Ending} (h : x.result = .error e)
    (f : α → Act β) : x >>= f = ⟨x.events, .error e⟩ := by
  simp only [bind, h]

theorem bind_of_ok {α β : Type} {x : Act α} {a : α} (h : x.result = .ok a) (f : α → Act β) :
    x >>= f = ⟨x.events ++ (f a).events, (f a).result⟩ := by
  simp only [bind, h]

def ending (x : Act Unit) : Ending :=
  match x.result with
  | .error e => e
  | .ok _ => .exit .success

end Act

/-- A run: its reporter, what happens, and how it ends. -/
structure Run where
  reporter : Reporter := {}
  events : List Event
  ending : Ending

namespace Run

def ofAct (reporter : Reporter) (x : Act Unit) : Run :=
  { reporter, events := x.events, ending := x.ending }

def stdout (r : Run) : String :=
  String.join (r.events.map Event.stdout)

def stderr (r : Run) : String :=
  String.join (r.events.map (Event.stderr r.reporter))

def exitCode (r : Run) : ExitCode :=
  r.ending.exitCode

end Run

end MarkupLog.Cli
