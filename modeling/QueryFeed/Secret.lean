/-!
**Secrets.**

A secret is a text that is shown to nobody: diagnostics and written configurations hold a mask.

Main definitions: `Secret`, `Secret.shown`, `Secret.written`.
-/

set_option autoImplicit false

namespace QueryFeed

/-- A text that is shown to nobody. -/
structure Secret where
  exposed : String
  deriving DecidableEq

namespace Secret

/-- What diagnostics show. -/
def shown (_ : Secret) : String := "[REDACTED]"

/-- What a written configuration holds. -/
def written (_ : Secret) : String := "***REDACTED***"

end Secret

end QueryFeed
