/-! # Secrets

A text that is never shown: `Secret.shown` is the same for every secret.
-/

namespace EntityStore

/-- A text that only the opening of a database reads. -/
structure Secret where
  /-- The text itself. -/
  exposed : String
  deriving DecidableEq

def Secret.shown (_ : Secret) : String := "***REDACTED***"

end EntityStore
