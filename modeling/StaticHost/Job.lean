import StaticHost.Log.Event

/-!
Jobs: work on files, as a tree of requests.

A job is done with a value, or asks for one operation and goes on with its answer. What the
operations do is not part of the job: `Job.run` carries it out on a model of a disk, and a program
can carry it out on a real one.
-/

namespace StaticHost

open Files (Path FileError Disk)

inductive Job (α : Type) : Type
  | done (value : α)
  | read (path : Path) (next : Except FileError Bytes → Job α)
  | write (path : Path) (content : Bytes) (next : Except FileError Unit → Job α)
  | makeDir (path : Path) (next : Except FileError Unit → Job α)
  | isDir (path : Path) (next : Bool → Job α)
  | log (event : Log.Event) (next : Job α)

namespace Job

def bind (f : α → Job β) : Job α → Job β
  | done a => f a
  | read p next => read p fun x => (next x).bind f
  | write p content next => write p content fun x => (next x).bind f
  | makeDir p next => makeDir p fun x => (next x).bind f
  | isDir p next => isDir p fun x => (next x).bind f
  | log e next => log e (next.bind f)

instance : Monad Job where
  pure := done
  bind j f := j.bind f

/-- A finished job: its value, the disk it leaves and the events it logged, in order. -/
structure Run (α : Type) where
  value : α
  disk : Disk
  events : List Log.Event

/-- Carries a job out on a disk. An operation that fails leaves the disk as it was. -/
def run : Job α → Disk → Run α
  | done a, d => ⟨a, d, []⟩
  | read p next, d => (next (d.read p)).run d
  | write p content next, d =>
    match d.write p content with
    | .ok d => (next (.ok ())).run d
    | .error e => (next (.error e)).run d
  | makeDir p next, d =>
    match d.makeDir p with
    | .ok d => (next (.ok ())).run d
    | .error e => (next (.error e)).run d
  | isDir p next, d => (next (d.isDir p)).run d
  | log e next, d => { next.run d with events := e :: (next.run d).events }

def keepEvents (keep : Log.Event → Bool) : Job α → Job α
  | done a => done a
  | read p next => read p fun x => (next x).keepEvents keep
  | write p content next => write p content fun x => (next x).keepEvents keep
  | makeDir p next => makeDir p fun x => (next x).keepEvents keep
  | isDir p next => isDir p fun x => (next x).keepEvents keep
  | log e next => if keep e then log e (next.keepEvents keep) else next.keepEvents keep

/-- **One job after another**: the second runs on the disk that the first leaves, and its events
come later. -/
theorem run_bind (f : α → Job β) (j : Job α) (d : Disk) :
    (j.bind f).run d =
      { (f (j.run d).value).run (j.run d).disk with
        events := (j.run d).events ++ ((f (j.run d).value).run (j.run d).disk).events } := by
  induction j generalizing d with
  | done a => rfl
  | read p next ih => exact ih _ d
  | write p content next ih =>
    simp only [bind, run]
    cases d.write p content with
    | ok d => exact ih _ d
    | error e => exact ih _ d
  | makeDir p next ih =>
    simp only [bind, run]
    cases d.makeDir p with
    | ok d => exact ih _ d
    | error e => exact ih _ d
  | isDir p next ih => exact ih _ d
  | log e next ih => simp only [bind, run, ih d, List.cons_append]

def readText (p : Path) : Job (Except FileError String) :=
  read p fun
    | .error e => done (.error e)
    | .ok content =>
      match Bytes.toString? content with
      | some s => done (.ok s)
      | none => done (.error .notText)

def writeText (p : Path) (text : String) : Job (Except FileError Unit) :=
  write p (Bytes.ofString text) done

/-- Asks again for a directory that could not be made: another one in its place will do. -/
def orIsDir (p : Path) : Except FileError Unit → Job (Except FileError Unit)
  | .ok () => done (.ok ())
  | .error e => isDir p fun found => done (if found then .ok () else .error e)

/-- Makes the first of the given directories. If what it should be in is not there, that is made
first, as the next of them. -/
def makeChain : List Path → Job (Except FileError Unit)
  | [] => done (.ok ())
  | p :: above => makeDir p fun
    | .error .notFound => do
      match ← makeChain above with
      | .ok () => makeDir p (orIsDir p)
      | .error e => done (.error e)
    | answer => orIsDir p answer

/-- Makes a directory and all that it should be in. The empty path is always there. -/
def makeDirs (p : Path) : Job (Except FileError Unit) :=
  makeChain p.ancestors

/-- An answer, with the path that a failure is blamed on. -/
def blame (p : Path) (answer : Except FileError Unit) : Except HostError Unit :=
  answer.mapError (.io p)

/-- Makes the directory that a path should be in, if the path names one. -/
def makeParent (p : Path) : Job (Except HostError Unit) :=
  match p.parent with
  | some dir => (makeDirs dir).bind fun answer => done (blame dir answer)
  | none => done (.ok ())

/-- Writes a text to a file, after making the directory that it should be in. -/
def saveText (p : Path) (text : String) : Job (Except HostError Unit) := do
  match ← makeParent p with
  | .error e => return .error e
  | .ok () => return blame p (← writeText p text)

end Job

end StaticHost
