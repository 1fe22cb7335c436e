import TypeMismatch.CommandLine.Reading
import TypeMismatch.Server

/-!
# Launching the server

The command line of the server says where it listens, on standard input and output or on a port, and
how much it logs.
-/

namespace TypeMismatch.Server

open CommandLine

/-- How much is logged. -/
inductive LogLevel where
  | debug
  | info
  | warning
  | error
  deriving DecidableEq

namespace LogLevel

/-- The word for a level on the command line. -/
def word : LogLevel → String
  | .debug => "debug"
  | .info => "info"
  | .warning => "warning"
  | .error => "error"

def name : LogLevel → String
  | .debug => "DEBUG"
  | .info => "INFO"
  | .warning => "WARNING"
  | .error => "ERROR"

def all : List LogLevel := [.debug, .info, .warning, .error]

def ofWord? (word : String) : Option LogLevel := all.find? (·.word == word)

end LogLevel

/-- Where a server listens.  A host or a port that is given as nothing is left open. -/
inductive Channel where
  | standard
  | tcp (host : Option String) (port : Option Int)
  deriving DecidableEq

structure Launch where
  channel : Channel
  level : LogLevel

namespace Launch

/-- The option to listen on a port. -/
def tcpOption : OptionSpec := ⟨["--tcp"], .flag⟩

def hostOption : OptionSpec := ⟨["--host"], .text⟩

def portOption : OptionSpec := ⟨["--port"], .integer⟩

def levelOption : OptionSpec := ⟨["--log-level"], .choice (LogLevel.all.map LogLevel.word)⟩

/-- What the server takes. -/
def grammar : Grammar := ⟨[.help, tcpOption, hostOption, portOption, levelOption], []⟩

def usualHost : String := "127.0.0.1"

def usualPort : Int := 2088

def hostOf (given : Given) : Option String :=
  match given.value? hostOption.key with
  | none => some usualHost
  | some value => value.text?

def portOf (given : Given) : Option Int :=
  match given.value? portOption.key with
  | none => some usualPort
  | some value => value.text?.bind fun text => Text.readInteger? text.toList

/-- Where a server listens. -/
def channelOf (given : Given) : Channel :=
  if given.has tcpOption.key then .tcp (hostOf given) (portOf given) else .standard

/-- How much a server logs, unless nothing was given to say so. -/
def levelOf? (given : Given) : Option LogLevel :=
  match given.value? levelOption.key with
  | none => some .info
  | some value => value.text?.bind LogLevel.ofWord?

/-- Why a command line launches no server. -/
inductive Refusal where
  | stop (cause : Stop)
  /-- The option for the level is given as nothing. -/
  | noLevel
  deriving DecidableEq

/-- Reads the command line of a server. -/
def read (arguments : List String) : Except Refusal Launch := do
  let (given, extras) ← (CommandLine.read grammar arguments).mapError Refusal.stop
  if extras.isEmpty then
    match levelOf? given with
    | some level => return ⟨channelOf given, level⟩
    | none => .error .noLevel
  else .error (.stop (.misuse (.unknownArguments extras)))

end Launch

end TypeMismatch.Server
