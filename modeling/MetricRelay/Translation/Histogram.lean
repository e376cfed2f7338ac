import MetricRelay.Decimal.Layout
import MetricRelay.Exposition.Family

namespace MetricRelay.Translation

open Exposition (Bucket)

def toCount (x : Binary64) : Nat :=
  if x.isNaN then 0
  else if x.isInfinite then if x.isNegative then 0 else UInt64.size - 1
  else min x.roundAway.toNat (UInt64.size - 1)

/-- The bound that stands for the last bucket, which the receiver cannot name. -/
def lastBound : Binary64 := .ofDecimal false 1 128

/-- Bounds of an exposition belong to their bucket and those of the receiver do not, so a bound is moved down. -/
def boundFactor : Binary64 := .ofDecimal false 999 (-3)

def scaledBound (bound : Binary64) : Binary64 :=
  if bound.isInfinite && !bound.isNegative then lastBound else bound.mul boundFactor

def plainLow : Binary64 := .ofDecimal false 1 (-6)

def plainHigh : Binary64 := .ofDecimal false 1 21

def formatFloat (x : Binary64) : String :=
  let inRange := !x.abs.lt plainLow && x.abs.lt plainHigh
  if x.isZero || inRange then x.plain else x.scientific

def sortBuckets (buckets : List Bucket) : List Bucket :=
  buckets.mergeSort fun a b ↦ a.upperBound.totalLE b.upperBound

structure Entry where
  bound : Binary64
  count : Nat
deriving DecidableEq, Repr

/-- The entries of sorted buckets, `previous` being the greatest count so far and `running` what the entries hold. -/
def entriesFrom (total : Nat) : Nat → Nat → List Bucket → List Entry
  | _, _, [] => []
  | previous, running, bucket :: rest =>
    let cumulative := toCount bucket.cumulativeCount
    let count := cumulative - previous
    let greatest := max previous cumulative
    if count = 0 then entriesFrom total greatest running rest
    else if total ≤ running + count then [⟨bucket.upperBound, count⟩]
    else ⟨bucket.upperBound, count⟩ :: entriesFrom total greatest (running + count) rest

def entries (buckets : List Bucket) (total : Nat) : List Entry :=
  if total = 0 then [] else entriesFrom total 0 0 (sortBuckets buckets)

def Entry.text (e : Entry) : String := "H[" ++ formatFloat (scaledBound e.bound) ++ "]=" ++ toString e.count

def reduceHistogram (buckets : List Bucket) (total : Nat) : List String := (entries buckets total).map Entry.text

end MetricRelay.Translation
