import StaticHost.Job

/-!
Sessions: jobs with output in between.

A session is done with a value, carries out a job and goes on with its value, or asks for a text to
be printed. The output may take a text only in part and then fails; the session is told, and decides
for itself what comes of it.
-/

namespace StaticHost

open Files (FileError Disk)

structure Output where
  printed : Bytes := []
  /-- How many bytes it still takes, and how it fails then. Without a limit it takes everything. -/
  limit : Option (Nat × FileError) := none
  deriving DecidableEq, Repr

/-- Prints a text, or as much of it as there is room for. -/
def Output.print (out : Output) (text : Bytes) : Except FileError Unit × Output :=
  match out.limit with
  | none => (.ok (), { out with printed := out.printed ++ text })
  | some (room, reason) =>
    let limit := some (room - text.length, reason)
    (if text.length ≤ room then .ok () else .error reason,
      { printed := out.printed ++ text.take room, limit })

inductive Session (α : Type) : Type 1
  | done (value : α)
  | work {β : Type} (job : Job β) (next : β → Session α)
  | print (text : String) (next : Except FileError Unit → Session α)

namespace Session

def bind (f : α → Session β) : Session α → Session β
  | done a => f a
  | work job next => work job fun x => (next x).bind f
  | print text next => print text fun x => (next x).bind f

instance : Monad Session where
  pure := done
  bind s f := s.bind f

structure Run (α : Type) where
  value : α
  disk : Disk
  output : Output
  events : List Log.Event

def run : Session α → Disk → Output → Run α
  | done a, d, out => ⟨a, d, out, []⟩
  | work job next, d, out =>
    let first := job.run d
    let rest := (next first.value).run first.disk out
    { rest with events := first.events ++ rest.events }
  | print text next, d, out =>
    let (answer, out) := out.print (Bytes.ofString text)
    (next answer).run d out

def keepEvents (keep : Log.Event → Bool) : Session α → Session α
  | done a => done a
  | work job next => work (job.keepEvents keep) fun x => (next x).keepEvents keep
  | print text next => print text fun x => (next x).keepEvents keep

/-- **One session after another**: the second goes on with the disk and the output of the first. -/
theorem run_bind (f : α → Session β) (s : Session α) (d : Disk) (out : Output) :
    (s.bind f).run d out =
      let first := s.run d out
      let rest := (f first.value).run first.disk first.output
      { rest with events := first.events ++ rest.events } := by
  induction s generalizing d out with
  | done a => rfl
  | work job next ih => simp only [bind, run, ih, List.append_assoc]
  | print text next ih => exact ih _ d _

end Session

end StaticHost
