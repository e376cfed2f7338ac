import MetricRelay.Log.Event
import MetricRelay.OrderedMap
import MetricRelay.Sample.Value

namespace MetricRelay

abbrev Batch := OrderedMap String Sample

namespace Batch

def insertEvents (batch : Batch) (name : String) : List Log.Event :=
  if batch.contains name then
    [⟨.warn, .batches, "Duplicate tagged name in batch. Previous sample overwritten.", [.ofText "tagged_name" name]⟩]
  else []

/-- Puts a sample under a tagged name. The answer is the sample that it replaces. -/
def put (batch : Batch) (name : String) (sample : Sample) : Option Sample × Batch :=
  (batch.get? name, batch.insert name sample)

def json (batch : Batch) : Json := .object (batch.entries.map fun (name, sample) ↦ (name, sample.json))

def payload (batch : Batch) : String := batch.json.text

end Batch
end MetricRelay
