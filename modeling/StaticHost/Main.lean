import Std.Time.DateTime.Timestamp
import StaticHost.Program

/-!
The command line: the program on the disk, in the environment and at the time of the machine it
runs on.
-/

namespace StaticHost

open Files (Path FileError)

/-- The number and the words of a failure of the system. -/
def systemFailure : IO.Error → Nat × String
  | .alreadyExists _ code reason | .invalidArgument _ code reason
  | .permissionDenied _ code reason | .resourceExhausted _ code reason
  | .inappropriateType _ code reason | .noSuchThing _ code reason
  | .noFileOrDirectory _ code reason | .interrupted _ code reason
  | .otherError code reason | .resourceBusy code reason | .resourceVanished code reason
  | .unsupportedOperation code reason | .hardwareFault code reason
  | .unsatisfiedConstraints code reason | .illegalOperation code reason
  | .protocolError code reason | .timeExpired code reason => (code.toNat, reason)
  | .unexpectedEof => (0, "unexpected end of file")
  | .userError reason => (0, reason)

def Files.FileError.ofSystem (e : IO.Error) : FileError :=
  match systemFailure e with
  | (2, _) => .notFound
  | (17, _) => .alreadyExists
  | (20, _) => .notADirectory
  | (21, _) => .isADirectory
  | (22, _) => .invalidArgument
  | (36, _) => .nameTooLong
  | (code, reason) => .system code reason

def attempt (p : Path) (operation : String → IO α) : IO (Except FileError α) := do
  if p.contains 0 then return .error .nulInPath
  try return .ok (← operation (Bytes.show p))
  catch e => return .error (.ofSystem e)

def readBytes (p : Path) : IO (Except FileError Bytes) :=
  attempt p fun p => do
    let file ← IO.FS.Handle.mk p .read
    return (← file.readBinToEnd).data.toList

def clock : IO Time.Instant := do
  match Time.Instant.ofUnixNanos? (← Std.Time.Timestamp.now).toNanosecondsSinceUnixEpoch.val with
  | some now => return now
  | none => throw (IO.userError "the clock shows no representable time")

/-- Carries a job out on the machine's disk. A path leads to a directory if it cannot be read for
just that reason. -/
def Job.perform : Job α → IO α
  | done a => return a
  | read p next => do (next (← readBytes p)).perform
  | write p content next => do
    (next (← attempt p fun p => IO.FS.writeBinFile p ⟨content.toArray⟩)).perform
  | makeDir p next => do (next (← attempt p fun p => IO.FS.createDir p)).perform
  | isDir p next => do
    (next ((← readBytes p) matches .error .isADirectory)).perform
  | log e next => do
    IO.eprintln ((← clock).stamp ++ " " ++ e.line)
    next.perform

def printNow (text : String) : IO (Except FileError Unit) := do
  try
    let output ← IO.getStdout
    output.putStr text
    output.flush
    return .ok ()
  catch e => return .error (.ofSystem e)

def Session.perform : Session α → IO α
  | done a => return a
  | work job next => do (next (← job.perform)).perform
  | print text next => do (next (← printNow text)).perform

def environment : IO Environment := do
  return {
    folders := {
      home := (← IO.getEnv "HOME").map Path.ofString
      configHome := (← IO.getEnv "XDG_CONFIG_HOME").map Path.ofString }
    logFilter := ← IO.getEnv "RUST_LOG"
    now := ← clock }

def execute (args : List String) : IO UInt32 := do
  let exit ← (program (args.map Bytes.ofString) (← environment)).perform
  IO.eprint exit.complaint
  return exit.code

end StaticHost

def main (args : List String) : IO UInt32 :=
  StaticHost.execute args
