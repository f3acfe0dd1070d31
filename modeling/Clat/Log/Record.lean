/-! Log records. -/
namespace Clat.Log

inductive Level where
  | fatal
  | error
  | warning
  | notice
  | info
  | debug
  deriving DecidableEq, Repr

namespace Level

def severity : Level → Nat
  | .fatal => 50
  | .error => 40
  | .warning => 30
  | .notice => 25
  | .info => 20
  | .debug => 10

def tag : Level → String
  | .fatal => "FATL"
  | .error => "ERRO"
  | .warning => "WARN"
  | .notice => "NOTI"
  | .info => "INFO"
  | .debug => "DEBG"

def ofName? : String → Option Level
  | "fatal" => some .fatal
  | "error" => some .error
  | "warning" => some .warning
  | "notice" => some .notice
  | "info" => some .info
  | "debug" => some .debug
  | _ => none

end Level

/-- A record: how severe it is, the part of the program it is from, and its message. -/
structure Record where
  level : Level
  channel : String
  message : String
  deriving DecidableEq, Repr

inductive Part where
  | reader
  | assembler
  | store
  | discovery
  | uplink
  | synthesis
  | daemon
  deriving DecidableEq, Repr

def Part.channel : Part → String
  | .reader => "clatd.config.reader"
  | .assembler => "clatd.config.assembler"
  | .store => "clatd.config.store"
  | .discovery => "clatd.dns64"
  | .uplink => "clatd.interfaces"
  | .synthesis => "clatd.synthesis"
  | .daemon => "clatd.main"

end Clat.Log
