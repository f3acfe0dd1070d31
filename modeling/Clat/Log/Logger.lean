import Clat.Log.Sink
import Clat.Log.Template

/-! Loggers. A method of a logger is called with a template and arguments; the record that is made of
them has the level of the method and goes to the sink by the channel of the logger. -/
namespace Clat.Log

inductive Method where
  | debug
  | info
  | notice
  | warning
  | error
  /-- An error, with the fault that is being handled. -/
  | exception
  | fatal
  deriving DecidableEq, Repr

namespace Method

def level : Method → Level
  | .debug => .debug
  | .info => .info
  | .notice => .notice
  | .warning => .warning
  | .error => .error
  | .exception => .error
  | .fatal => .fatal

/-- What stands behind the message: where a fault would be named, none is being handled. -/
def remark : Method → String
  | .exception => "\nNoneType: None"
  | _ => ""

/-- A method of the logger of a channel. The root logger has none for notices. -/
def ofName? (channel : String) : String → Option Method
  | "debug" => some .debug
  | "info" => some .info
  | "notice" => if channel = "root" then none else some .notice
  | "warning" => some .warning
  | "warn" => some .warning
  | "error" => some .error
  | "exception" => some .exception
  | "fatal" => some .fatal
  | "critical" => some .fatal
  | _ => none

end Method

/-- A call of a method of a logger. -/
structure Call where
  method : Method
  /-- The name of the logger. -/
  logger : String
  template : String
  arguments : List Value := []

/-- The record of a call, if its template can be filled. -/
def Call.record (call : Call) : Except TemplateError Record := do
  let message ← fill call.template call.arguments
  return {
    level := call.method.level
    channel := channelOf call.logger
    message := message ++ call.method.remark }

namespace Sink

/-- The sink after a call. Of a template that cannot be filled nothing is written. -/
def log (sink : Sink) (call : Call) : Sink :=
  match call.record with
  | .ok record => sink.take record
  | .error _ => sink

def logAll (sink : Sink) (calls : List Call) : Sink := calls.foldl log sink

end Sink

end Clat.Log
