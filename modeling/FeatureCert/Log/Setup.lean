import FeatureCert.Failure
import FeatureCert.Log.Record

/-!
Setup of the log: the least level that is written, and the handlers that write. The program has one handler
of its own, which each configuring makes anew; others are kept, and write nowhere that is seen here.
-/
namespace FeatureCert.Log

open FeatureCert.Text

inductive LineForm where
  | plain | json
  deriving DecidableEq, Repr

/-- The form that a format names; any other text is plain. -/
def LineForm.ofFormat (format : String) : LineForm := if format == "json" then .json else .plain

/-- A handler: the program's, or another, which has a serial since two of them may share a name. -/
inductive Handler where
  | own (form : LineForm)
  | foreign (serial : Nat) (name : Option String)
  deriving DecidableEq, Repr

namespace Handler

def ownName : String := "cryptoconf-default"

def name? : Handler → Option String
  | .own _ => some ownName
  | .foreign _ name => name

def serial? : Handler → Option Nat
  | .own _ => none
  | .foreign serial _ => some serial

/-- Whether a handler goes by the name of the program's. -/
def isNamedOwn (h : Handler) : Bool := h.name? == some ownName

def writesJson (h : Handler) : Bool := h == .own .json

end Handler

structure Setup where
  /-- Least level that is written; zero leaves it to the default. -/
  level : Level := 0
  handlers : List Handler := []
  deriving Repr

/-- Root of the names of the program's loggers. -/
def root : String := "cryptoconf"

/-- What a name in capitals means as a level. -/
inductive LevelName where
  | level (n : Level)
  /-- A name of something that is a text. -/
  | text
  /-- A name of something that is neither text nor number. -/
  | other

def LevelName.ofText (text : String) : LevelName :=
  match String.ofList (upper text.toList) with
  | "DEBUG" => .level 10
  | "INFO" => .level 20
  | "WARN" => .level 30
  | "WARNING" => .level 30
  | "ERROR" => .level 40
  | "CRITICAL" => .level 50
  | "FATAL" => .level 50
  | "NOTSET" => .level 0
  | "BASIC_FORMAT" => .text
  | "_STYLES" => .other
  | _ => .level 30

namespace Setup

/-- Puts a handler behind the others, unless it is among them. -/
def attach (s : Setup) (h : Handler) : Setup :=
  if h ∈ s.handlers then s else { s with handlers := s.handlers ++ [h] }

def detach (s : Setup) (h : Handler) : Setup := { s with handlers := s.handlers.erase h }

/-- Takes away what goes by the name of the program's handler, on a walk over the list as it stood before. -/
def detachOwn (s : Setup) : Setup :=
  s.handlers.foldl (fun s h => if h.isNamedOwn then s.detach h else s) s

/-- Sets the level and puts a new handler of the program in place of the old one. -/
def configure (s : Setup) (level format : String) : Except Failure Setup :=
  match LevelName.ofText level with
  | .text => .error .badLevelName
  | .other => .error .badArgument
  | .level n => .ok ({ s with level := n }.detachOwn.attach (.own (.ofFormat format)))

/-- A serial above those of all handlers. -/
def fresh (s : Setup) : Nat := (s.handlers.filterMap (·.serial?)).foldr (fun n m => max (n + 1) m) 0

def addForeign (s : Setup) (name : Option String) : Setup := s.attach (.foreign s.fresh name)

inductive Act where
  | configure (level format : String)
  | attach (h : Handler)

def perform (s : Setup) : Act → Except Failure Setup
  | .configure level format => s.configure level format
  | .attach h => .ok (s.attach h)

/-- The setup that a run of acts leaves, if all of them succeed. -/
def after (s : Setup) (acts : List Act) : Except Failure Setup := acts.foldlM perform s

/-- Whether a logger is one of the program's. -/
def isOwn (logger : String) : Bool := logger == root || logger.startsWith (root ++ ".")

/-- Level from which on a logger writes. -/
def threshold (s : Setup) (logger : String) : Level :=
  if isOwn logger && s.level != 0 then s.level else warning

def line (form : LineForm) (timestamp : String) (r : Record) : String :=
  match form with
  | .plain => r.plainLine
  | .json => r.jsonLine timestamp none

def handlersOf (s : Setup) (logger : String) : List Handler := if isOwn logger then s.handlers else []

def formsOf (s : Setup) (logger : String) : List LineForm :=
  (s.handlersOf logger).filterMap fun h =>
    match h with
    | .own form => some form
    | .foreign .. => none

/-- Whether anything is written of a record. Where no handler takes it, it must be a warning or graver. -/
def hears (s : Setup) (logger : String) (level : Level) : Bool :=
  0 < level && s.threshold logger ≤ level &&
    if (s.handlersOf logger).isEmpty then warning ≤ level else !(s.formsOf logger).isEmpty

/-- What is written of a record: its lines, or the message alone where no handler takes it. -/
def written (s : Setup) (timestamp : String) (r : Record) : String :=
  if !s.hears r.logger r.level then ""
  else if (s.handlersOf r.logger).isEmpty then r.message ++ "\n"
  else String.join ((s.formsOf r.logger).map fun form => line form timestamp r ++ "\n")

end Setup
end FeatureCert.Log
