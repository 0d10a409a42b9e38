import Mathlib.Tactic

/-!
# Process limits

The limits and timeouts a handle is opened with, and their defaults.  Counts are
`usize` and timeouts are whole seconds in the source; durations become instants
of the model's clock when a request is admitted.
-/

namespace PgMcp

/-- The largest `usize` on the 64-bit targets. -/
def usizeMax : ℕ := 2 ^ 64 - 1

/-- The limits and timeouts of one handle. -/
structure Config where
  maxHandles : ℕ
  outstandingRequests : ℕ
  sqlBytes : ℕ
  parameters : ℕ
  parameterBytes : ℕ
  resultRows : ℕ
  columns : ℕ
  cellBytes : ℕ
  resultJsonBytes : ℕ
  requestTimeoutSeconds : ℕ
  connectionTimeoutSeconds : ℕ
  cancelDrainGraceSeconds : ℕ
  shutdownTotalSeconds : ℕ
  deriving DecidableEq, Repr

/-- The built-in defaults. -/
def Config.default : Config where
  maxHandles := 16
  outstandingRequests := 32
  sqlBytes := 65536
  parameters := 256
  parameterBytes := 1048576
  resultRows := 1000
  columns := 256
  cellBytes := 1048576
  resultJsonBytes := 8388608
  requestTimeoutSeconds := 30
  connectionTimeoutSeconds := 10
  cancelDrainGraceSeconds := 5
  shutdownTotalSeconds := 10

end PgMcp
