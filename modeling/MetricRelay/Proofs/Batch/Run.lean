import MetricRelay.Proofs.Batch.Fit
import MetricRelay.Proofs.Translation.Filtering

namespace MetricRelay

open Translation (Options Emission visited writable)

inductive Writing
  | point (p : Point)
  | gauge (name : String) (tags : TagList) (value : Binary64) (timestamp : Option UInt64)
  | counter (name : String) (tags : TagList) (value : UInt64) (timestamp : Option UInt64)
  | text (name : String) (tags : TagList) (value : String) (timestamp : Option UInt64)
  | histogramCumulative (name : String) (tags : TagList) (entries : List String)

def Writing.toPoint : Writing → Point
  | point p => p
  | gauge name tags value timestamp => .of name (.float64 value) tags timestamp
  | counter name tags value timestamp => .of name (.uint64 value) tags timestamp
  | text name tags value timestamp => .of name (.text value) tags timestamp
  | histogramCumulative name tags entries => .of name (.cumulativeHistogram entries) tags none

inductive Operation
  | write (w : MetricWriter) (x : Writing)
  | translate (w : MetricWriter) (options : Options) (base : TagList) (cancelled : Nat → Bool) (text : String)

namespace Operation

def run (l : Ledger) : Operation → Ledger
  | write w x => (w.write l x.toPoint).2
  | translate w options base cancelled text => (Translation.translate w options base cancelled text l).ledger

def writer : Operation → MetricWriter
  | write w _ => w
  | translate w _ _ _ _ => w

/-- The points an operation tries to write; nothing stands for a number without a value of its type. -/
def attempts : Operation → List (Option Point)
  | write _ x => [some x.toPoint]
  | translate _ options base cancelled text =>
    match Exposition.read text with
    | .error _ => []
    | .ok families => Translation.attempts options base (visited cancelled 0 families)

def insertions (op : Operation) : List (String × Sample) := (writable op.attempts).filterMap op.writer.insertion?

def translates : Operation → Bool
  | write _ _ => false
  | translate _ _ _ _ _ => true

end Operation

theorem MetricValue.type_ofFloat {type : MetricType} {x : Binary64} {v : MetricValue} (h : ofFloat type x = .ok v) :
    v.type = type ∧ type.carriesTimestamp = true := by
  rw [ofFloat] at h
  split at h
  · cases h
  split at h
  · cases h
  cases type with
  | float64 | int64 =>
    cases h
    exact ⟨rfl, rfl⟩
  | int32 | uint32 | uint64 =>
    dsimp only at h
    split at h
    · cases h
      exact ⟨rfl, rfl⟩
    · cases h
  | text | histogram | cumulativeHistogram => cases h

theorem Translation.Emission.isSome_timestamp {options : Options} {timestamp : UInt64} {e : Emission} {p : Point}
    (h : e.point? options timestamp = some p) :
    (Sample.of p.value p.timestamp).timestamp.isSome = p.value.type.carriesTimestamp := by
  cases e with
  | number name type value tags =>
    rw [point?] at h
    cases ho : MetricValue.ofFloat type value with
    | error cause =>
      rw [ho] at h
      cases h
    | ok v =>
      rw [ho] at h
      cases h
      obtain ⟨htype, hcarries⟩ := MetricValue.type_ofFloat ho
      simp [Point.of, Sample.of, htype, hcarries]
  | entries name texts tags =>
    cases h
    rfl

namespace Operation

variable {op : Operation} {l : Ledger}

theorem batch_write (w : MetricWriter) (l : Ledger) (p : Point) :
    (w.write l p).2.batch = l.batch.insertAll ((writable [some p]).filterMap w.insertion?) := by
  cases hp : MetricWriter.isWritable p with
  | false =>
    obtain ⟨e, hw⟩ := w.write_of_not_isWritable l hp
    rw [Translation.writable_of_not_isWritable hp, hw]
    rfl
  | true =>
    obtain ⟨next, hw, hbatch, -⟩ := w.write_of_isWritable l hp
    rw [Translation.writable_of_isWritable hp, hw, hbatch, List.filterMap_cons, List.filterMap_nil]
    cases w.insertion? p <;> rfl

theorem batch_run (l : Ledger) (op : Operation) : (op.run l).batch = l.batch.insertAll op.insertions := by
  cases op with
  | write w x => exact batch_write w l x.toPoint
  | translate w options base cancelled text =>
    rw [run, insertions, attempts]
    cases hr : Exposition.read text with
    | error e =>
      rw [Translation.translate, hr]
      rfl
    | ok families =>
      obtain ⟨q, hq, -, -, hbatch, -⟩ := Translation.translate_after hr w options base cancelled l
      rw [hbatch, hq.batch]
      rfl

theorem batch_foldl_run (l : Ledger) (ops : List Operation) :
    (ops.foldl run l).batch = l.batch.insertAll (ops.flatMap insertions) := by
  induction ops generalizing l with
  | nil => rfl
  | cons op ops ih => rw [List.foldl_cons, ih, batch_run, List.flatMap_cons, OrderedMap.insertAll_append]

theorem exists_point {item : String × Sample} (h : item ∈ op.insertions) :
    ∃ p, some p ∈ op.attempts ∧ MetricWriter.isWritable p = true ∧ op.writer.insertion? p = some item := by
  obtain ⟨p, hp, hi⟩ := List.mem_filterMap.mp h
  obtain ⟨attempt, ha, hf⟩ := List.mem_filterMap.mp hp
  obtain ⟨rfl, hwritable⟩ := Option.filter_eq_some_iff.mp hf
  exact ⟨p, ha, hwritable, hi⟩

theorem isSome_timestamp_of_mem_attempts (ht : op.translates = true) {p : Point} (h : some p ∈ op.attempts) :
    (Sample.of p.value p.timestamp).timestamp.isSome = p.value.type.carriesTimestamp := by
  cases op with
  | write w x => cases ht
  | translate w options base cancelled text =>
    rw [attempts] at h
    split at h
    · cases h
    · obtain ⟨f, -, tags, data, timestamp, e, -, he⟩ := Translation.exists_emission h
      exact Emission.isSome_timestamp he

/-- Whatever is written and translated, the batch is fit at every moment, each insertion being one. The samples are of
the types that were declared, and those of a translation have a timestamp where their type carries one. -/
theorem foldl_run_isFit (start : Ledger) (ops : List Operation) :
    let items := ops.flatMap insertions
    (ops.foldl run { start with batch := .empty }).batch = OrderedMap.empty.insertAll items ∧
    (∀ made, made <+: items → Batch.IsFit (OrderedMap.empty.insertAll made)) ∧
    ∀ op ∈ ops, ∀ item ∈ op.insertions,
      (∃ p, some p ∈ op.attempts ∧ item.2 = .of p.value p.timestamp ∧ item.2.value.type = p.type) ∧
      (op.translates = true → item.2.timestamp.isSome = item.2.value.type.carriesTimestamp) := by
  intro items
  refine ⟨batch_foldl_run _ ops, fun made hmade ↦ ?_, fun op _ item hitem ↦ ?_⟩
  · apply Batch.isFit_empty.insertAll
    intro item hitem
    obtain ⟨op, -, hop⟩ := List.mem_flatMap.mp (hmade.subset hitem)
    obtain ⟨p, -, hp, hi⟩ := exists_point hop
    obtain ⟨hsize, hfit, -⟩ := MetricWriter.insertion?_spec hp hi
    exact ⟨hsize, hfit⟩
  · obtain ⟨p, ha, hp, hi⟩ := exists_point hitem
    obtain ⟨-, -, hsample⟩ := MetricWriter.insertion?_spec hp hi
    rw [hsample]
    exact ⟨⟨p, ha, rfl, (MetricWriter.validate_of_isWritable hp).2⟩, fun ht ↦ isSome_timestamp_of_mem_attempts ht ha⟩

end Operation
end MetricRelay
