import DiskQuery.Duration
import DiskQuery.Key
import DiskQuery.Text.Utf8

/-!
# What goes wrong in a query

A missing session, disk, description or entry is an answer and no error.  The
errors are an entry that breaks the promise of its key, and a worker that
gives no answer.
-/

namespace DiskQuery

/-- Why a query has no answer. -/
inductive QueryError where
  /-- The entry of `key` is not of the type that the key promises. -/
  | unexpectedType (key : Key) (expected : String)
  /-- The service did not hand over the text of `key`. -/
  | stringConversion (key : Key)
  /-- The text of `key` is not UTF-8. -/
  | invalidUtf8 (key : Key) (defect : Text.Utf8.Defect)
  /-- The worker that asked for `name` was given up after `limit`. -/
  | timeout (name : String) (limit : Duration)
  /-- The worker ended without an answer. -/
  | workerLost
  /-- The worker could not be started. -/
  | spawn (reason : String)
deriving DecidableEq, Repr

namespace QueryError

/-- The wording of an error. -/
def message : QueryError → String
  | unexpectedType key expected => s!"Value of {key.nativeName} is not a {expected}"
  | stringConversion key =>
      s!"Failed to convert value of {key.nativeName} to a UTF-8 string"
  | invalidUtf8 key defect =>
      s!"Value of {key.nativeName} is not valid UTF-8: {defect.message}"
  | timeout name limit => s!"Query for {name} did not finish within {limit.text}"
  | workerLost => "Query worker exited without a result"
  | spawn reason => s!"Failed to spawn query worker: {reason}"

/-- The wording of the cause below an error, if there is one. -/
def cause? : QueryError → Option String
  | invalidUtf8 _ defect => some defect.message
  | _ => none

end QueryError

end DiskQuery
