namespace MetricRelay

structure Stats where
  filtered : UInt64 := 0
  brokerFiltered : UInt64 := 0
  received : UInt64 := 0
  sent : UInt64 := 0
  sentBytes : UInt64 := 0
  sentBytesWire : UInt64 := 0
deriving DecidableEq, Repr, Inhabited

structure SubmissionRecord where
  sent : UInt64 := 0
  received : UInt64 := 0
  brokerFiltered : UInt64 := 0
  rawBytes : UInt64 := 0
  wireBytes : UInt64 := 0
deriving DecidableEq, Repr, Inhabited

namespace Stats

def addFiltered (s : Stats) (count : UInt64) : Stats := { s with filtered := s.filtered + count }

def record (s : Stats) (r : SubmissionRecord) : Stats :=
  { s with
      sent := s.sent + r.sent
      received := s.received + r.received
      brokerFiltered := s.brokerFiltered + r.brokerFiltered
      sentBytes := s.sentBytes + r.rawBytes
      sentBytesWire := s.sentBytesWire + r.wireBytes }

def add (a b : Stats) : Stats :=
  ⟨a.filtered + b.filtered, a.brokerFiltered + b.brokerFiltered, a.received + b.received, a.sent + b.sent,
    a.sentBytes + b.sentBytes, a.sentBytesWire + b.sentBytesWire⟩

end Stats
end MetricRelay
