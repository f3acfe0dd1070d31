import Clat.Daemon
import Clat.Host
import Clat.Log.Clock

/-! The command. A run needs all answers of the resolver in advance, so the command runs with
the answers it has and, when one more is asked for, waits as long as the run paused, gets the
answer and runs again: the new run repeats the old one up to there. Answers are lines of
addresses on standard input; a line that is missing is a query that failed. -/
namespace Clat.Main

/-- A status text of the kernel; empty if there is none. -/
def status (name : String) : IO String :=
  try IO.FS.readFile name catch _ => return ""

/-- The files a run can see: the configuration file, if it is there. -/
def filesFor (name : String) : IO Files := do
  let path := Path.ofText name
  let tree : Tree ←
    try
      let octets ← IO.FS.readBinFile name
      pure { files := [(path.parts, octets.toList)] }
    catch
      | .inappropriateType .. => pure { directories := [path.parts] }
      | _ => pure {}
  match path.base with
  | .working => return { working := tree }
  | .outermost => return { outermost := tree }

/-- The configuration file that a command line names. -/
def fileOf (arguments : List String) : String :=
  match CommandLine.parse arguments with
  | .ok arguments => arguments.config
  | .error _ => Defaults.configFile

def setting (arguments : List String) : IO Daemon.Setting := do
  let boot := Host.bootSecond (← status "/proc/stat")
  let up := Host.upMilliseconds (← status "/proc/uptime")
  let time := Log.timeText (boot * 1000 + up)
  let process := Host.processNumber (← status "/proc/self/stat")
  return {
    files := ← filesFor (fileOf arguments)
    table := Host.interfaces (← status "/proc/net/if_inet6")
    shortLines := (← IO.getEnv "CLATD_LOGGING_NO_PREFIX_FORMAT") = some Log.shortLines
    stamp := ⟨time, process⟩ }

def answer : IO Answer := do
  let line ← (← IO.getStdin).getLine
  if line.isEmpty then return .failure "no answer"
  else return .records ((Text.words line.toList).map String.ofList)

def unwritten (before text : String) : String :=
  String.ofList (text.toList.drop before.length)

/-- Writes what a run leaves behind beyond an earlier run. -/
def write (before report : Daemon.Report) : IO Unit := do
  (← IO.getStdout).putStr (unwritten before.stdout report.stdout)
  (← IO.getStdout).flush
  (← IO.getStderr).putStr (unwritten before.stderr report.stderr)
  (← IO.getStderr).putStr (unwritten before.syslog report.syslog)

/-- Runs until no further answer is asked for; `before` is the run before. -/
partial def serve (setting : Daemon.Setting) (arguments : List String) (surroundings : Session)
    (before : Daemon.Report) : IO Daemon.Report := do
  let report := Daemon.run setting arguments surroundings
  write before report
  match report.ending with
  | .stopped .noAnswer =>
    let seconds := (report.session.pauses.drop before.session.pauses.length).foldl (· + ·) 0
    IO.sleep (UInt32.ofNat (seconds * 1000))
    let next ← answer
    serve setting arguments { surroundings with answers := surroundings.answers ++ [next] } report
  | _ => return report

end Clat.Main

open Clat in
/-- Assembles a configuration for the command line and puts it in force. -/
def main (arguments : List String) : IO UInt32 := do
  let octets ← IO.getRandomBytes 8
  let surroundings : Session := { entropy := [octets.toList] }
  let setting ← Main.setting arguments
  let report ← Main.serve setting arguments surroundings { ending := .done, session := {} }
  match report.ending with
  | .done => return 0
  | .exit code => return UInt32.ofNat code
  | .stopped fault =>
    (← IO.getStderr).putStrLn fault.message
    return 1
