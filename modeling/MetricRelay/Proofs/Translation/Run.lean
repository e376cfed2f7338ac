import MetricRelay.Proofs.Writer
import MetricRelay.Translation.Basic

namespace MetricRelay

namespace Translation

open Exposition (Family Metric MetricData)

def Emission.point? (options : Options) (timestamp : UInt64) : Emission → Option Point
  | .number name type value tags =>
    (MetricValue.ofFloat type value).toOption.map fun value ↦
      { Point.of name value tags (some timestamp) with dynamic := options.dynamic }
  | .entries name texts tags =>
    some { Point.of name (.cumulativeHistogram texts) tags none with dynamic := options.dynamic }

def seriesAttempts (options : Options) (base : TagList) (name : String) (metric : Metric) : List (Option Point) :=
  (emissions options.histogramMode name (seriesTags base metric) metric.data).map
    (Emission.point? options (seriesTimestamp options metric))

def familyAttempts (options : Options) (base : TagList) (f : Family) : List (Option Point) :=
  f.metrics.flatMap (seriesAttempts options base f.name)

def attempts (options : Options) (base : TagList) (families : List Family) : List (Option Point) :=
  families.flatMap (familyAttempts options base)

/-- The families in front of the first place where the cancellation is seen. -/
def visited (cancelled : Nat → Bool) : Nat → List Family → List Family
  | _, [] => []
  | place, f :: rest => if cancelled place then [] else f :: visited cancelled (place + 1) rest

/-- The points that pass the checks in front of the filter. -/
def writable (attempts : List (Option Point)) : List Point :=
  attempts.filterMap (·.filter MetricWriter.isWritable)

def Summary.after (w : MetricWriter) (s : Summary) (attempts : List (Option Point)) : Summary :=
  let points := writable attempts
  { s with
    samples := s.samples + attempts.length
    written := s.written + (points.filterMap w.insertion?).length
    skipped := s.skipped + (points.countP w.denies + points.countP w.unnamed)
    rejected := s.rejected + attempts.countP fun attempt ↦ writable [attempt] = [] }

/-- The second state is the first with some attempts made. -/
structure After (w : MetricWriter) (attempts : List (Option Point)) (p q : Progress) : Prop where
  summary : q.summary = p.summary.after w attempts
  batch : q.ledger.batch = p.ledger.batch.insertAll ((writable attempts).filterMap w.insertion?)
  stats : q.ledger.stats = p.ledger.stats.addFiltered (UInt64.ofNat ((writable attempts).countP w.denies))

variable {w : MetricWriter} {options : Options} {base : TagList} {p q r : Progress}

theorem writable_append (first second : List (Option Point)) :
    writable (first ++ second) = writable first ++ writable second := List.filterMap_append

theorem writable_of_isWritable {point : Point} (h : MetricWriter.isWritable point = true) :
    writable [some point] = [point] := by
  simp [writable, Option.filter, h]

theorem writable_of_not_isWritable {point : Point} (h : MetricWriter.isWritable point = false) :
    writable [some point] = [] := by
  simp [writable, Option.filter, h]

theorem After.refl (w : MetricWriter) (p : Progress) : After w [] p p :=
  ⟨rfl, rfl, by simp [writable, Stats.addFiltered]⟩

theorem After.trans {first second : List (Option Point)} (hf : After w first p q) (hs : After w second q r) :
    After w (first ++ second) p r := by
  refine ⟨?_, ?_, ?_⟩
  · rw [hs.summary, hf.summary]
    simp only [Summary.after, writable_append, List.filterMap_append, List.countP_append, List.length_append,
      Summary.mk.injEq, true_and, and_true]
    omega
  · rw [hs.batch, hf.batch, writable_append, List.filterMap_append, OrderedMap.insertAll_append]
  · rw [hs.stats, hf.stats, writable_append, List.countP_append, UInt64.ofNat_add]
    simp [Stats.addFiltered, UInt64.add_assoc]

theorem After.foldl {α : Type} {step : Progress → α → Progress} {made : α → List (Option Point)}
    (h : ∀ p a, After w (made a) p (step p a)) (items : List α) (p : Progress) :
    After w (items.flatMap made) p (items.foldl step p) := by
  induction items generalizing p with
  | nil => exact .refl w p
  | cons a items ih => exact (h p a).trans (ih (step p a))

theorem after_reject {attempt : Option Point} (h : writable [attempt] = []) (p : Progress)
    (name message reason : String) : After w [attempt] p (p.reject name message reason) := by
  refine ⟨?_, ?_, ?_⟩
  · simp [Summary.after, h, Progress.reject]
  · rw [h]
    rfl
  · rw [h]
    simp [Progress.reject, Ledger.note, Stats.addFiltered]

theorem after_write (w : MetricWriter) (p : Progress) (point : Point) : After w [some point] p (p.write w point) := by
  cases hc : MetricWriter.isWritable point with
  | false =>
    obtain ⟨e, hw⟩ := w.write_of_not_isWritable p.ledger hc
    rw [Progress.write, hw]
    exact after_reject (writable_of_not_isWritable hc) p _ _ _
  | true =>
    have hwritable := writable_of_isWritable hc
    obtain ⟨next, hw, hbatch, hstats⟩ := w.write_of_isWritable p.ledger hc
    rw [Progress.write, hw]
    obtain ⟨hd, hu, hi⟩ | ⟨hd, hu, -, hi⟩ | ⟨name, hd, hu, -, hi⟩ := w.insertion?_cases point
    all_goals
      rw [hi] at hbatch
      rw [hd] at hstats
      rw [hi]
      refine ⟨?_, ?_, ?_⟩
      · simp [Summary.after, hwritable, hi, hd, hu]
      · simpa [hwritable, hi] using hbatch
      · simpa [hwritable, hd] using hstats

theorem after_emit (w : MetricWriter) (options : Options) (timestamp : UInt64) (p : Progress) (e : Emission) :
    After w [e.point? options timestamp] p (p.emit w options timestamp e) := by
  cases e with
  | number name type value tags =>
    rw [Progress.emit, Emission.point?]
    cases MetricValue.ofFloat type value with
    | ok value => exact after_write w p _
    | error e => exact after_reject rfl p _ _ _
  | entries name texts tags => exact after_write w p _

theorem after_series (w : MetricWriter) (options : Options) (base : TagList) (name : String) (p : Progress)
    (metric : Metric) : After w (seriesAttempts options base name metric) p (p.series w options base name metric) := by
  have h := After.foldl (after_emit w options (seriesTimestamp options metric))
    (emissions options.histogramMode name (seriesTags base metric) metric.data) p
  rwa [← List.map_eq_flatMap] at h

theorem after_family (w : MetricWriter) (options : Options) (base : TagList) (p : Progress) (f : Family) :
    After w (familyAttempts options base f) p (p.family w options base f) :=
  .foldl (after_series w options base f.name) f.metrics p

theorem families_after (w : MetricWriter) (options : Options) (base : TagList) (cancelled : Nat → Bool) (place : Nat)
    (p : Progress) (families : List Family) :
    ∃ q, After w (attempts options base (visited cancelled place families)) p q ∧
      (p.families w options base cancelled place families).summary =
        { q.summary with
          cancelled := p.summary.cancelled || decide ((visited cancelled place families).length < families.length) } ∧
      (p.families w options base cancelled place families).ledger.batch = q.ledger.batch ∧
      (p.families w options base cancelled place families).ledger.stats = q.ledger.stats := by
  induction families generalizing place p with
  | nil => exact ⟨p, .refl w p, by simp [Progress.families, visited], rfl, rfl⟩
  | cons f rest ih =>
    rw [Progress.families, visited]
    -- a signal that is seen ends the attempts here, whatever families are left
    by_cases hc : cancelled place = true
    · rw [if_pos hc, if_pos hc]
      exact ⟨p, .refl w p, by simp, rfl, rfl⟩
    · rw [if_neg hc, if_neg hc]
      have hf := after_family w options base p f
      obtain ⟨q, hq, hs, hb, ht⟩ := ih (place + 1) (p.family w options base f)
      have hkept : (p.family w options base f).summary.cancelled = p.summary.cancelled := by rw [hf.summary]; rfl
      rw [hkept] at hs
      exact ⟨q, hf.trans hq, by simpa using hs, hb, ht⟩

theorem visited_eq_of_length {cancelled : Nat → Bool} {place : Nat} {families : List Family}
    (h : families.length ≤ (visited cancelled place families).length) :
    visited cancelled place families = families := by
  induction families generalizing place with
  | nil => rfl
  | cons f rest ih =>
    rw [visited] at h ⊢
    split
    · next hc =>
      rw [if_pos hc] at h
      cases h
    · next hc =>
      rw [if_neg hc] at h
      rw [ih (Nat.le_of_succ_le_succ h)]

theorem visited_of_never (place : Nat) (families : List Family) : visited (fun _ ↦ false) place families = families := by
  induction families generalizing place with
  | nil => rfl
  | cons f rest ih => rw [visited, if_neg Bool.false_ne_true, ih]

/-- A translation, by its attempts. -/
theorem translate_after {families : List Family} {text : String} (hr : Exposition.read text = .ok families)
    (w : MetricWriter) (options : Options) (base : TagList) (cancelled : Nat → Bool) (ledger : Ledger) :
    ∃ q, After w (attempts options base (visited cancelled 0 families)) ⟨ledger, { families := families.length }⟩ q ∧
      let summary := { q.summary with cancelled := decide ((visited cancelled 0 families).length < families.length) }
      let outcome := translate w options base cancelled text ledger
      outcome.result =
        (if summary.samples = 0 ∧ !summary.cancelled then .error (.noMetrics families.length) else .ok summary) ∧
      outcome.counted = some summary.written ∧ outcome.ledger.batch = q.ledger.batch ∧
      outcome.ledger.stats = q.ledger.stats := by
  obtain ⟨q, hq, hs, hb, ht⟩ :=
    families_after w options base cancelled 0 ⟨ledger, { families := families.length }⟩ families
  refine ⟨q, hq, ?_⟩
  rw [Bool.false_or] at hs
  rw [translate, hr]
  dsimp only
  rw [hs]
  exact ⟨rfl, rfl, hb, ht⟩

end Translation
end MetricRelay
