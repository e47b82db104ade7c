/-!
# Diagnostics levels

A level is an integer; the larger, the more severe. Some levels have names. This module holds the
names that records show and the names that a user may write.
-/

namespace MarkupLog.Level

def trace : Int := 5

def debug : Int := 10

def info : Int := 20

def warning : Int := 30

def error : Int := 40

def critical : Int := 50

def notSet : Int := 0

def name (level : Int) : String :=
  if level = trace then "TRACE"
  else if level = debug then "DEBUG"
  else if level = info then "INFO"
  else if level = warning then "WARNING"
  else if level = error then "ERROR"
  else if level = critical then "CRITICAL"
  else if level = notSet then "NOTSET"
  else "Level " ++ toString level

def table : List (String × Int) :=
  [("TRACE", trace), ("DEBUG", debug), ("INFO", info), ("WARN", warning), ("WARNING", warning),
    ("ERROR", error), ("FATAL", critical), ("CRITICAL", critical), ("NOTSET", notSet)]

def named? (s : String) : Option Int :=
  table.lookup s

end MarkupLog.Level
