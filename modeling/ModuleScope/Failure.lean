import ModuleScope.Text.Quoted
import ModuleScope.Text.Utf8

/-!
Why reading or listing files fails.
-/
namespace ModuleScope

inductive Failure where
  | notFound (path : String)
  | isDirectory (path : String)
  | notDirectory (path : String)
  | undecodable (fault : Text.Utf8.Fault)
  /-- The document could not be supplied for a reason of its own. -/
  | crashed (reason : String)
  /-- The files cannot be listed at present. -/
  | unavailable (reason : String)
deriving DecidableEq, Repr

namespace Failure

def message : Failure → String
  | notFound path => s!"[Errno 2] No such file or directory: {Text.quoted path}"
  | isDirectory path => s!"[Errno 21] Is a directory: {Text.quoted path}"
  | notDirectory path => s!"[Errno 20] Not a directory: {Text.quoted path}"
  | undecodable fault => fault.message
  | crashed reason => reason
  | unavailable reason => reason

/-- Whether a failure shows at once, before any document has been waited for. -/
def isImmediate : Failure → Bool
  | crashed _ => true
  | _ => false

end Failure

end ModuleScope
