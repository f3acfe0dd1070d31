import Clat.Assembly
import Clat.CommandLine.Parse
import Clat.CommandLine.Usage
import Clat.Log.Sink

/-! The program: it reads the command line, assembles the configuration and puts it in
force. -/
namespace Clat.Daemon

open Clat.Log

inductive Ending where
  | done
  | exit (code : Nat)
  | stopped (fault : Fault)
  deriving DecidableEq, Repr

structure Report where
  ending : Ending
  stdout : String := ""
  stderr : String := ""
  syslog : String := ""
  session : Session
  deriving DecidableEq, Repr

structure Setting where
  files : Files
  table : Uplink.Table
  /-- Whether log lines go without time and process. -/
  shortLines : Bool
  stamp : Stamp

/-- Puts the configuration for some arguments in force. -/
def configure (setting : Setting) (arguments : CommandLine.Arguments) : Stage Unit := do
  (Session.record .notice .daemon ("Starting clatd on " ++ arguments.interface ++ "...") : Run Unit)
  let snapshot ← Assembly.assemble setting.files setting.table {
    file := arguments.config
    interface := arguments.interface
    plat := arguments.plat
    network := arguments.network }
  let store ← (Store.replace {} snapshot : Run Store)
  match store.get with
  | .ok snapshot => (snapshot.dump : Run Unit)
  | .error _ => return ()

/-- Runs the program with arguments; the records it logs are those of the session. -/
def runWith (setting : Setting) (arguments : CommandLine.Arguments) : Run Ending := do
  match ← (configure setting arguments).run with
  | .ok () => return .done
  | .error issue =>
    Session.record .fatal .daemon ("Configuration failed: " ++ issue.message)
    return .exit 1

/-- The report of a command line that ends the program early. -/
def early (session : Session) : CommandLine.Ending → Report
  | .help => { ending := .exit 0, stdout := CommandLine.help, session }
  | .version => { ending := .exit 0, stdout := Defaults.version ++ "\n", session }
  | .wrong wording =>
    { ending := .exit 2
      stderr := CommandLine.usage ++ "clatd: error: " ++ wording ++ "\n"
      session }

def run (setting : Setting) (words : List String) (session : Session) : Report :=
  match CommandLine.parse words with
  | .error ending => early session ending
  | .ok arguments =>
    match Sink.start arguments.level arguments.target setting.shortLines with
    | .error error => early session (.wrong error.message)
    | .ok sink =>
      let before := session.log.length
      let (result, session) := (runWith setting arguments).run.run session
      let sink := sink.takeAll (session.log.drop before)
      { ending :=
          match result with
          | .ok ending => ending
          | .error fault => .stopped fault
        stdout := sink.output setting.stamp .stdout
        stderr := sink.output setting.stamp .stderr
        syslog := sink.output setting.stamp .syslog
        session }

end Clat.Daemon
