import MarkupLog.Diagnostics.Level
import MarkupLog.Diagnostics.Record
import MarkupLog.Text.Blank
import MarkupLog.Text.Case
import MarkupLog.Text.Split

/-!
# Verbosity groups

Verbose messages belong to groups, and a specification says which groups are shown: all of them,
none, or those of a comma-separated list. A list with a name that is no group, or with no name at
all, shows nothing and warns about it, so a slip never shows more than was asked for.
-/

namespace MarkupLog

inductive Category
  | api
  | build
  deriving Repr, DecidableEq

namespace Category

/-- All groups, in the order of their names. -/
def all : List Category := [.api, .build]

def name : Category → String
  | .api => "api"
  | .build => "build"

/-- The group of a name, without regard to case and to blanks at its ends. -/
def ofName? (s : String) : Option Category :=
  let key := Text.lower (Text.trim s)
  all.find? fun c => c.name = key

end Category

inductive Verbosity
  | everything
  | nothing
  | only (groups : List Category)
  deriving Repr, DecidableEq

namespace Verbosity

/-! ### Queries -/

def shows : Verbosity → Category → Bool
  | .everything, _ => true
  | .nothing, _ => false
  | .only groups, c => groups.contains c

/-- The test whether the group of a name is shown. A name that is no group is shown only along with
everything. -/
def showsNamed : Verbosity → String → Bool
  | .everything, _ => true
  | .nothing, _ => false
  | .only groups, name =>
    match Category.ofName? name with
    | none => false
    | some c => groups.contains c

def showsAny : Verbosity → Bool
  | .everything => true
  | .nothing => false
  | .only groups => !groups.isEmpty

/-! ### Reading a specification -/

def unknownGroup (name : String) : String :=
  "Unknown verbosity group " ++ name ++ ". Ignoring..."

def noGroup : String :=
  "No verbosity group given. Verbose output is disabled."

/-- The names in a comma-separated list, without blanks at their ends; blank ones are dropped. -/
def candidates (raw : String) : List String :=
  ((Text.split ',' raw).map Text.trim).filter (· ≠ "")

def listWarnings (raw : String) : List String :=
  let names := candidates raw
  if names.isEmpty then [noGroup]
  else (names.filter fun n => (Category.ofName? n).isNone).map unknownGroup

def namedGroups (raw : String) : List Category :=
  Category.all.filter fun c => (candidates raw).any fun n => Category.ofName? n = some c

def allWords : List String := ["true", "all"]

def noWord : String := "false"

/-- The groups that a specification shows, and its warnings. -/
def read : Option String → Verbosity × List String
  | none => (.everything, [])
  | some raw =>
    let key := Text.lower (Text.trim raw)
    if raw = "" ∨ key ∈ allWords then (.everything, [])
    else if key = noWord then (.nothing, [])
    else
      match listWarnings raw with
      | [] => (.only (namedGroups raw), [])
      | warnings => (.nothing, warnings)

/-! ### Diagnostics -/

def source : String := "emphlog.verbosity"

def records : Verbosity → List Record
  | .only groups =>
    [⟨Level.debug, source,
      "Verbose output enabled for: " ++ Text.join ", " (groups.map Category.name)⟩]
  | _ => []

def warningRecords (warnings : List String) : List Record :=
  warnings.map fun w => ⟨Level.warning, source, w⟩

end Verbosity

end MarkupLog
