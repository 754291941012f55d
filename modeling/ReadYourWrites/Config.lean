import ReadYourWrites.Time.Span

-- How long and how often a client looks into the cache after a write.

namespace ReadYourWrites

structure Config where
  interval : Span
  timeout : Span
deriving DecidableEq, Repr

namespace Config

-- The shortest time between two reads.
def minInterval : Span :=
  .ofMillis 1

def default : Config :=
  ⟨.ofMillis 5, .ofMillis 2000⟩

instance : Inhabited Config :=
  ⟨default⟩

-- The milliseconds from one read to the next.
def pause (config : Config) : Nat :=
  (config.interval.max minInterval).millis

theorem pause_pos (config : Config) : 0 < config.pause := by
  simp only [pause, Span.millis, Span.max, minInterval, Span.ofMillis]
  omega

-- The milliseconds after which a wait gives up.
def patience (config : Config) : Nat :=
  config.timeout.millis

end Config

end ReadYourWrites
