namespace MetricRelay.Text

def nanosPerSecond : Nat := 1000000000

def nanosPerMillisecond : Nat := 1000000

def nanosPerMicrosecond : Nat := 1000

/-- The decimals of a fraction of `unit`, a power of ten, without zeros at the end. -/
def decimals (part unit : Nat) : List Char :=
  if part = 0 then []
  else
    let digits := (toString (unit + part)).toList.drop 1
    '.' :: (digits.reverse.dropWhile (· = '0')).reverse

def duration (nanos : Nat) : String :=
  let inUnit (unit : Nat) (mark : String) : String :=
    toString (nanos / unit) ++ String.ofList (decimals (nanos % unit) unit) ++ mark
  if nanosPerSecond ≤ nanos then inUnit nanosPerSecond "s"
  else if nanosPerMillisecond ≤ nanos then inUnit nanosPerMillisecond "ms"
  else if nanosPerMicrosecond ≤ nanos then inUnit nanosPerMicrosecond "µs"
  else inUnit 1 "ns"

end MetricRelay.Text
