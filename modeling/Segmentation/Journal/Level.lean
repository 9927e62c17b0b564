import Segmentation.Text.Case

/-!
# Levels of importance

Every message has a level. Levels are numbers, some of which have names, and a greater number is more
important.
-/

namespace Segmentation.Journal

/-- How important a message is. -/
structure Level where
  number : Int
deriving DecidableEq

namespace Level

def notSet : Level := ⟨0⟩

def debug : Level := ⟨10⟩

def info : Level := ⟨20⟩

def warning : Level := ⟨30⟩

def error : Level := ⟨40⟩

def critical : Level := ⟨50⟩

/-- The name of a level in messages. -/
def name (level : Level) : String :=
  match level.number with
  | 0 => "NOTSET"
  | 10 => "DEBUG"
  | 20 => "INFO"
  | 30 => "WARNING"
  | 40 => "ERROR"
  | 50 => "CRITICAL"
  | n => "Level " ++ toString n

/-- The level of a name; two levels have a second name. -/
def named? (name : String) : Option Level :=
  List.lookup name
    [("NOTSET", notSet), ("DEBUG", debug), ("INFO", info), ("WARNING", warning), ("WARN", warning),
      ("ERROR", error), ("CRITICAL", critical), ("FATAL", critical)]

/-- The level that a setting names in any case; any other text means `info`. -/
def ofSetting (text : String) : Level :=
  (named? (Text.upper text)).getD info

end Level

end Segmentation.Journal
