/-!
# Latency histograms

Latencies in milliseconds fall into buckets with fixed upper boundaries; what exceeds all of them,
and what is no number, falls into the last one.  The sum is kept in whole microseconds in a 64-bit
word, into which each latency goes truncated, negative ones as zero.
-/

namespace Turnstile.Metrics

/-- The upper boundaries of all buckets but the last, in milliseconds. -/
def boundaries : List Float :=
  [1, 5, 10, 25, 50, 100, 250, 500, 1000, 5000]

/-- How many latencies fell into each bucket, and their sum.  The counts stand for 64-bit words, so
fewer than 2 ^ 64 latencies are meant. -/
structure Histogram where
  buckets : List Nat
  sumMicros : UInt64
  count : Nat

namespace Histogram

def empty : Histogram where
  buckets := List.replicate (boundaries.length + 1) 0
  sumMicros := 0
  count := 0

/-- The place of the bucket for a latency. -/
def bucketOf (millis : Float) : Nat :=
  boundaries.findIdx fun le ↦ decide (millis ≤ le)

/-- The histogram with one latency more. -/
def observe (h : Histogram) (millis : Float) : Histogram where
  buckets := h.buckets.modify (bucketOf millis) (· + 1)
  sumMicros := h.sumMicros + (millis * 1000.0).toUInt64
  count := h.count + 1

/-- The running totals of a list, after `total`. -/
def runningTotals (total : Nat) : List Nat → List Nat
  | [] => []
  | n :: rest => (total + n) :: runningTotals (total + n) rest

/-- How many latencies are at most each boundary; the last entry, without a boundary, counts all. -/
def cumulative (h : Histogram) : List (Option Float × Nat) :=
  (boundaries.map some ++ [none]).zip (runningTotals 0 h.buckets)

/-- The sum of the latencies in milliseconds. -/
def sum (h : Histogram) : Float :=
  h.sumMicros.toFloat / 1000.0

end Histogram

end Turnstile.Metrics
