import HttpCascade.Text.Basic

/-!
# Log records

What the library reports about its own work besides its answers.
-/

namespace HttpCascade

/-- How much a record matters, from the most to the least. -/
inductive LogLevel where
  | error
  | warn
  | info
  | debug
  | trace
  deriving DecidableEq, Repr

namespace LogLevel

/-- Every level, the one that matters most first. -/
def all : List LogLevel := [error, warn, info, debug, trace]

def name : LogLevel → String
  | error => "ERROR"
  | warn => "WARN"
  | info => "INFO"
  | debug => "DEBUG"
  | trace => "TRACE"

/-- The place of a level among all levels, from one; a filter admits the records up to a rank. -/
def rank : LogLevel → Nat
  | error => 1
  | warn => 2
  | info => 3
  | debug => 4
  | trace => 5

end LogLevel

/-- The part of the program that makes a record. -/
inductive LogSource where
  | resolver
  | shell
  | scaffold
  deriving DecidableEq, Repr

/-- The name of a source in log lines and log filters. -/
def LogSource.name : LogSource → String
  | resolver => "restree::resolver"
  | shell => "restree::script::shell"
  | scaffold => "restree::scaffold"

/-- A record. -/
structure LogRecord where
  level : LogLevel
  source : LogSource
  text : Text
  deriving DecidableEq, Repr

/-- The level and the text of a record. -/
def LogRecord.brief (r : LogRecord) : Text := r.level.name.toList ++ ' ' :: r.text

end HttpCascade
