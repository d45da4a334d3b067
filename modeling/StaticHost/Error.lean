import StaticHost.Files.Disk
import StaticHost.Text.Quoted

/-!
What can stop the host: a file that cannot be read or written, or a base path that is none.
-/

namespace StaticHost

inductive HostError
  | io (path : Files.Path) (cause : Files.FileError)
  | invalidBasePath (base : String)
  deriving DecidableEq, Repr

namespace HostError

def message : HostError → String
  | io path cause => "I/O error at " ++ Bytes.show path ++ ": " ++ cause.message
  | invalidBasePath base => "Invalid base path: " ++ quoted base ++ " (must start with '/')"

/-- The messages of the error and of what caused it, outermost first. -/
def chain : HostError → List String
  | e@(io _ cause) => [e.message, cause.message]
  | e@(invalidBasePath _) => [e.message]

end HostError

end StaticHost
