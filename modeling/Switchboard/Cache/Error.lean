/-!
# Cache errors — why a cache operation was refused
-/

namespace Switchboard

/-- Why a cache operation was refused. -/
inductive CacheError where
  | disabled
  | invalidKey
  | backend (reason : String)
  deriving DecidableEq, Repr

/-- The text of an error, as the front end is shown it. -/
def CacheError.message : CacheError → String
  | disabled => "cache is disabled"
  | invalidKey => "store name and key must be non-empty"
  | backend reason => "cache backend failed: " ++ reason

end Switchboard
