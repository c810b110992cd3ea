import Mathlib.Algebra.Order.Group.Unbundled.Int
import TradeControl.Foundation.Spans

namespace TradeControl

/-! Instants are integers: nanoseconds since the Unix epoch, as `DateTime<Utc>`
counts them. -/

def nanosPerSecond : Int := 1000000000

/-- `Duration::seconds`. -/
def seconds (count : Int) : Int := count * nanosPerSecond

/-- `Duration::num_seconds`: whole seconds, rounded towards zero. -/
def numSeconds (span : Int) : Int := span.tdiv nanosPerSecond

/-- `Duration::num_hours`. -/
def numHours (span : Int) : Int := (numSeconds span).tdiv 3600

def minTtlSeconds : Int := 60

/-- Expiry of a control row written at `now`: a short time to live is raised to
the store's floor. -/
def controlExpiresAt (now ttlSeconds : Int) : Int :=
  now + seconds (max ttlSeconds minTtlSeconds)

/-- `incoming::replay_ttl_seconds`: the rest of the window and an hour of grace. -/
def replayTtlSeconds (notAfter now : Int) : Int :=
  max (numSeconds (notAfter - now)) 0 + 3600

theorem lt_seconds_numSeconds (span : Int) : span < seconds (numSeconds span + 1) :=
  Int.lt_tdiv_add_one_mul_self span (by decide)

theorem now_lt_controlExpiresAt (now ttlSeconds : Int) :
    now < controlExpiresAt now ttlSeconds := by
  unfold controlExpiresAt seconds minTtlSeconds nanosPerSecond
  omega

/-- A row kept for `replayTtlSeconds` outlives the window it was written for. -/
theorem notAfter_lt_replay_expiry (notAfter now : Int) :
    notAfter < now + seconds (replayTtlSeconds notAfter now) := by
  have span := lt_seconds_numSeconds (notAfter - now)
  unfold replayTtlSeconds seconds nanosPerSecond at *
  omega

end TradeControl
