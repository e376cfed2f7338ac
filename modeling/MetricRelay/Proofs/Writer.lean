import MetricRelay.Proofs.Insertions
import MetricRelay.Writer

namespace MetricRelay.MetricWriter

def taggedName? (w : MetricWriter) (p : Point) : Option String :=
  w.encoder.taggedName? p.name (w.streamTags p) p.measurementTags

/-- The filter lets the point pass, but its tagged name breaks the limits. -/
def unnamed (w : MetricWriter) (p : Point) : Bool := !w.denies p && (w.taggedName? p).isNone

def insertion? (w : MetricWriter) (p : Point) : Option (String × Sample) :=
  if w.denies p then none else (w.taggedName? p).map fun name ↦ (name, .of p.value p.timestamp)

def isWritable (p : Point) : Bool :=
  match check p with
  | .ok () => true
  | .error _ => false

variable (w : MetricWriter) (l : Ledger) {p : Point}

theorem insertion?_cases (p : Point) :
    (w.denies p = true ∧ w.unnamed p = false ∧ w.insertion? p = none) ∨
    (w.denies p = false ∧ w.unnamed p = true ∧ w.taggedName? p = none ∧ w.insertion? p = none) ∨
    ∃ name, w.denies p = false ∧ w.unnamed p = false ∧ w.taggedName? p = some name ∧
      w.insertion? p = some (name, .of p.value p.timestamp) := by
  rw [unnamed, insertion?]
  cases hd : w.denies p with
  | true => exact .inl ⟨rfl, rfl, rfl⟩
  | false =>
    cases hn : w.taggedName? p with
    | none => exact .inr (.inl ⟨rfl, rfl, rfl, rfl⟩)
    | some name => exact .inr (.inr ⟨name, rfl, rfl, rfl, rfl⟩)

theorem write_of_not_isWritable (h : isWritable p = false) : ∃ e, w.write l p = (.error e, l) := by
  rw [isWritable] at h
  split at h
  · cases h
  · next e hc => exact ⟨e, by rw [write, hc]⟩

/-- The answer tells whether the point is inserted, and the filter alone changes a counter. -/
theorem write_of_isWritable (h : isWritable p = true) :
    ∃ next, w.write l p = (.ok (w.insertion? p).isSome, next) ∧
      next.batch = l.batch.insertAll (w.insertion? p).toList ∧
      next.stats = l.stats.addFiltered (if w.denies p then 1 else 0) := by
  have hc : check p = .ok () := by
    rw [isWritable] at h
    split at h
    · next hc => exact hc
    · cases h
  have hkeep : l.stats.addFiltered 0 = l.stats := by simp [Stats.addFiltered]
  rw [write, hc]
  dsimp only
  obtain ⟨hd, -, hi⟩ | ⟨hd, -, hn, hi⟩ | ⟨name, hd, -, hn, hi⟩ := insertion?_cases w p
  · rw [hd, hi]
    exact ⟨_, rfl, rfl, rfl⟩
  · rw [taggedName?] at hn
    rw [hd, hi, hn]
    exact ⟨_, rfl, rfl, hkeep.symm⟩
  · rw [taggedName?] at hn
    rw [hd, hi, hn]
    exact ⟨_, rfl, rfl, hkeep.symm⟩

end MetricRelay.MetricWriter
