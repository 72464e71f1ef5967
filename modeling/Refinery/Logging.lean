import Refinery.Doc.Basic

namespace Refinery.Logging

/-!
# Log messages
-/

def levelOf (function : String) : Except Failure String :=
  match [("success", "SUCCESS"), ("debug", "DEBUG"), ("info", "INFO"), ("warning", "WARNING"),
    ("error", "WARNING"), ("exception", "WARNING"), ("critical", "CRITICAL")].lookup function with
  | some level => .ok level
  | none => .error .noMember

structure Format where
  formatter : String
  pattern : String
  colours : List (String × String) := []
  deriving DecidableEq

def levelColours : List (String × String) :=
  [("DEBUG", "cyan"), ("INFO", "blue"), ("WARNING", "yellow"), ("ERROR", "red"),
    ("CRITICAL", "red,bg_yellow"), ("SUCCESS", "green")]

def formatFor (terminal coloured : Bool) : Format :=
  if coloured && terminal then
    { formatter := "ColoredFormatter"
      pattern := "%(asctime)s %(purple)s%(name)s > %(log_color)s%(message)s"
      colours := levelColours }
  else
    { formatter := "Formatter", pattern := "%(asctime)s %(name)s [%(levelname)s] > %(message)s" }

def lowestLevel : Nat := 10

def describe (name : String) (format : Format) : List Doc :=
  [ .text name, .int lowestLevel, .int lowestLevel, .text format.formatter, .text format.pattern,
    if format.colours.isEmpty then .null
    else .fields (format.colours.map fun (level, colour) => (level, .text colour)) ]

end Refinery.Logging
