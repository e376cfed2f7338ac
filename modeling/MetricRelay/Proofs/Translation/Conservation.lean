import Mathlib.Algebra.GroupWithZero.Nat
import MetricRelay.Proofs.Translation.Run

namespace MetricRelay

theorem MetricWriter.length_insertions (w : MetricWriter) (points : List Point) :
    (points.filterMap w.insertion?).length + (points.countP w.denies + points.countP w.unnamed) = points.length := by
  induction points with
  | nil => rfl
  | cons p points ih =>
    obtain ⟨hd, hu, hi⟩ | ⟨hd, hu, -, hi⟩ | ⟨name, hd, hu, -, hi⟩ := w.insertion?_cases p
    all_goals
      simp only [List.filterMap_cons, hi, List.countP_cons, hd, hu, List.length_cons, if_true, Bool.false_eq_true,
        if_false]
      omega

namespace Translation

open Exposition (Family MetricData)

variable {w : MetricWriter} {options : Options} {base : TagList} {cancelled : Nat → Bool} {text : String}
  {ledger : Ledger} {summary : Summary}

/-- How many samples the data of a series makes. -/
def sampleCount (mode : HistogramMode) : MetricData → Nat
  | .scalar _ => 1
  | .summary _ _ quantiles => 2 + quantiles.length
  | .histogram count _ buckets =>
    2 + (if Binary64.zero.lt count then 1 else 0) +
      match mode with
      | .buckets => buckets.length
      | .cumulative => if reduceHistogram buckets (toCount count) = [] then 0 else 1

theorem length_emissions (mode : HistogramMode) (name : String) (tags : TagList) (data : MetricData) :
    (emissions mode name tags data).length = sampleCount mode data := by
  cases data with
  | scalar value => rfl
  | summary count sum quantiles => simp [emissions, sampleCount]; omega
  | histogram count sum buckets =>
    have haverage : (if Binary64.zero.lt count then [Emission.number (name ++ "_avg") .float64 (sum.div count) tags]
        else []).length = if Binary64.zero.lt count then 1 else 0 := by split <;> rfl
    cases mode with
    | buckets =>
      rw [emissions, sampleCount, List.length_append, List.length_append, haverage, List.length_map]
      rfl
    | cumulative =>
      rw [emissions, sampleCount, List.length_append, List.length_append, haverage]
      cases reduceHistogram buckets (toCount count) <;> rfl

theorem length_familyAttempts (options : Options) (base : TagList) (f : Family) :
    (familyAttempts options base f).length =
      (f.metrics.map fun m ↦ sampleCount options.histogramMode m.data).sum := by
  rw [familyAttempts, List.length_flatMap]
  simp [seriesAttempts, length_emissions]

theorem length_attempts (options : Options) (base : TagList) (families : List Family) :
    (attempts options base families).length =
      ((families.flatMap Family.metrics).map fun m ↦ sampleCount options.histogramMode m.data).sum := by
  induction families with
  | nil => rfl
  | cons f rest ih =>
    have hcons : attempts options base (f :: rest) = familyAttempts options base f ++ attempts options base rest := rfl
    rw [hcons, List.length_append, length_familyAttempts, ih, List.flatMap_cons, List.map_append, List.sum_append]

theorem length_writable (attempts : List (Option Point)) :
    (writable attempts).length + attempts.countP (fun attempt ↦ writable [attempt] = []) = attempts.length := by
  induction attempts with
  | nil => rfl
  | cons attempt rest ih =>
    have hcons : writable (attempt :: rest) = writable [attempt] ++ writable rest := writable_append [attempt] rest
    have hone : (writable [attempt]).length + (if writable [attempt] = [] then 1 else 0) = 1 := by
      rw [writable, List.filterMap_cons]
      cases attempt.filter MetricWriter.isWritable <;> rfl
    rw [hcons, List.length_append, List.countP_cons, List.length_cons]
    simp only [decide_eq_true_eq]
    omega

theorem After.balanced {attempts : List (Option Point)} {p q : Progress} (h : After w attempts p q)
    (hp : p.summary.samples = p.summary.written + p.summary.skipped + p.summary.rejected) :
    q.summary.samples = q.summary.written + q.summary.skipped + q.summary.rejected := by
  have hpoints := w.length_insertions (writable attempts)
  have hattempts := length_writable attempts
  rw [h.summary, Summary.after]
  dsimp only
  omega

/-- A translation that is not cancelled counts every sample once: as written, as denied by the filter, as beyond the
limits of tagged names, or as rejected. The batch takes what is written, less what replaces a sample. -/
theorem translate_conserves (h : (translate w options base cancelled text ledger).result = .ok summary)
    (hc : summary.cancelled = false) :
    ∃ families, Exposition.read text = .ok families ∧
      let outcome := translate w options base cancelled text ledger
      let points := writable (attempts options base families)
      let items := points.filterMap w.insertion?
      summary.samples = summary.written + summary.skipped + summary.rejected ∧
      summary.samples =
        ((families.flatMap Family.metrics).map fun m ↦ sampleCount options.histogramMode m.data).sum ∧
      outcome.ledger.stats = ledger.stats.addFiltered (.ofNat (points.countP w.denies)) ∧
      summary.skipped =
        points.countP w.denies + points.countP (fun p ↦ !w.denies p && (w.taggedName? p).isNone) ∧
      outcome.ledger.batch = ledger.batch.insertAll items ∧
      summary.written = items.length ∧
      outcome.ledger.batch.size + ledger.batch.replacements items = ledger.batch.size + summary.written ∧
      outcome.counted = some summary.written := by
  cases hr : Exposition.read text with
  | error e =>
    rw [translate, hr] at h
    cases h
  | ok families =>
    obtain ⟨q, hq, hresult, hcounted, hbatch, hstats⟩ := translate_after hr w options base cancelled ledger
    rw [hresult] at h
    split at h
    · cases h
    cases h
    have hall : visited cancelled 0 families = families :=
      visited_eq_of_length (Nat.le_of_not_lt (of_decide_eq_false hc))
    rw [hall] at hq
    have hsummary := hq.summary
    have hsize := OrderedMap.size_insertAll ledger.batch ((writable (attempts options base families)).filterMap
      w.insertion?)
    have hwritten : q.summary.written = ((writable (attempts options base families)).filterMap w.insertion?).length := by
      rw [hsummary]
      exact Nat.zero_add _
    refine ⟨families, rfl, hq.balanced rfl, ?_, hstats.trans hq.stats, ?_, hbatch.trans hq.batch, hwritten, ?_, hcounted⟩
    · rw [← length_attempts options base, hsummary]
      exact Nat.zero_add _
    · rw [hsummary]
      exact Nat.zero_add _
    · rw [hbatch, hq.batch]
      dsimp only
      rw [hsize, hwritten]

/-- Four samples: one is replaced by the next, one is denied and one is not a number. -/
theorem translate_conserves_replaced :
    let w : MetricWriter := { encoder := {}, filter := ⟨[⟨.allow, "[xz]", true, fun name ↦ name ≠ "y"⟩]⟩ }
    let text := "x 1\nx 2\ny 3\nz NaN\n"
    let outcome := translate w {} .empty (fun _ ↦ false) text {}
    outcome.result = .ok ⟨3, 4, 2, 1, 1, false⟩ ∧ outcome.counted = some 2 ∧
      ∃ families, Exposition.read text = .ok families ∧
        ((families.flatMap Family.metrics).map fun m ↦ sampleCount .cumulative m.data).sum = 4 := by
  intro w text outcome
  have hresult : outcome.result = .ok ⟨3, 4, 2, 1, 1, false⟩ := by
    have hsome : outcome.result.toOption = some ⟨3, 4, 2, 1, 1, false⟩ := by decide +kernel
    cases hr : outcome.result with
    | error e => rw [hr] at hsome; cases hsome
    | ok summary => rw [hr] at hsome; exact congrArg Except.ok (Option.some.inj hsome)
  obtain ⟨families, hread, -, hsamples, -, -, -, -, -, hcounted⟩ := translate_conserves hresult rfl
  exact ⟨hresult, hcounted, families, hread, hsamples.symm⟩

end Translation
end MetricRelay
