import Mathlib.Control.Monad.Basic
import MetricRelay.Proofs.Translation.Conservation

namespace MetricRelay.Translation

open Exposition (Family Metric MetricData)

variable {w : MetricWriter} {options : Options} {base : TagList} {cancelled : Nat → Bool} {families : List Family}
  {p : Progress} {place : Nat}

def emitted (w : MetricWriter) (options : Options) (base : TagList) (ledger : Ledger) (families : List Family) :
    Progress :=
  families.foldl (Progress.family w options base) ⟨ledger, {}⟩

structure IsFirstSeen (cancelled : Nat → Bool) (place : Nat) : Prop where
  seen : cancelled place = true
  unseen : ∀ earlier < place, cancelled earlier = false

theorem families_append (w : MetricWriter) (options : Options) (base : TagList) {front : List Family}
    (h : ∀ i < front.length, cancelled (place + i) = false) (p : Progress) (rest : List Family) :
    p.families w options base cancelled place (front ++ rest) =
      (front.foldl (Progress.family w options base) p).families w options base cancelled (place + front.length)
        rest := by
  induction front generalizing p place with
  | nil => rfl
  | cons f front ih =>
    have hfirst : cancelled place = false := h 0 (Nat.zero_lt_succ _)
    have hrest : ∀ i < front.length, cancelled (place + 1 + i) = false := by
      intro i hi
      have hnext := h (i + 1) (Nat.succ_lt_succ hi)
      rwa [Nat.add_assoc, Nat.add_comm 1 i]
    rw [List.cons_append, Progress.families, hfirst, if_neg Bool.false_ne_true, ih hrest, List.foldl_cons,
      List.length_cons, Nat.add_assoc, Nat.add_comm 1]

theorem families_of_unseen (h : ∀ i < families.length, cancelled i = false) (p : Progress) :
    p.families w options base cancelled 0 families = families.foldl (Progress.family w options base) p := by
  have hunseen : ∀ i < families.length, cancelled (0 + i) = false := by
    intro i hi
    rw [Nat.zero_add]
    exact h i hi
  have hall := families_append w options base hunseen p []
  rwa [List.append_nil, Progress.families] at hall

theorem families_of_isFirstSeen (w : MetricWriter) (options : Options) (base : TagList) (hp : place < families.length)
    (h : IsFirstSeen cancelled place) (p : Progress) :
    let part := (families.take place).foldl (Progress.family w options base) p
    p.families w options base cancelled 0 families =
      ⟨part.ledger.note [⟨.debug, .translation, "Translation cancelled.", []⟩],
        { part.summary with cancelled := true }⟩ := by
  intro part
  have hlength : (families.take place).length = place := List.length_take_of_le (Nat.le_of_lt hp)
  have hunseen : ∀ i < (families.take place).length, cancelled (0 + i) = false := by
    intro i hi
    rw [Nat.zero_add]
    exact h.unseen i (hlength ▸ hi)
  obtain ⟨f, rest, hrest⟩ := List.exists_cons_of_length_pos (l := families.drop place) (by
    rw [List.length_drop]
    omega)
  have hfamilies := families_append w options base hunseen p (families.drop place)
  rw [List.take_append_drop, hlength, Nat.zero_add, hrest, Progress.families, h.seen, if_pos rfl] at hfamilies
  exact hfamilies

theorem after_foldl_family (w : MetricWriter) (options : Options) (base : TagList) (families : List Family)
    (p : Progress) : After w (attempts options base families) p (families.foldl (Progress.family w options base) p) :=
  .foldl (after_family w options base) families p

theorem sampleCount_pos (mode : HistogramMode) (data : MetricData) : 0 < sampleCount mode data := by
  cases data with
  | scalar => exact Nat.zero_lt_one
  | summary count sum quantiles => exact Nat.lt_of_lt_of_le Nat.two_pos (Nat.le_add_right 2 quantiles.length)
  | histogram count sum buckets =>
    dsimp only [sampleCount]
    omega

theorem length_attempts_eq_zero_iff :
    (attempts options base families).length = 0 ↔ ∀ f ∈ families, f.metrics = [] := by
  rw [length_attempts, List.sum_eq_zero_iff_forall_eq_nat]
  constructor
  · intro h f hf
    refine List.eq_nil_iff_forall_not_mem.mpr fun m hm ↦ ?_
    have hcount := h _ (List.mem_map_of_mem (List.mem_flatMap.mpr ⟨f, hf, hm⟩))
    exact absurd hcount (Nat.ne_of_gt (sampleCount_pos _ _))
  · intro h count hc
    obtain ⟨m, hm, -⟩ := List.mem_map.mp hc
    obtain ⟨f, hf, hm⟩ := List.mem_flatMap.mp hm
    rw [h f hf] at hm
    cases hm

theorem foldl_family_eq_emitted (w : MetricWriter) (options : Options) (base : TagList) (ledger : Ledger) (count : Nat)
    (families : List Family) :
    let made := families.foldl (Progress.family w options base) ⟨ledger, { families := count }⟩
    let part := emitted w options base ledger families
    made.summary = { part.summary with families := count, cancelled := false } ∧
      made.ledger.batch = part.ledger.batch ∧ made.ledger.stats = part.ledger.stats := by
  intro made part
  have hmade : After w (attempts options base families) ⟨ledger, { families := count }⟩ made :=
    after_foldl_family w options base families _
  have hpart : After w (attempts options base families) ⟨ledger, {}⟩ part :=
    after_foldl_family w options base families _
  refine ⟨?_, hmade.batch.trans hpart.batch.symm, hmade.stats.trans hpart.stats.symm⟩
  rw [hmade.summary, hpart.summary]
  rfl

theorem emitted_samples (w : MetricWriter) (options : Options) (base : TagList) (ledger : Ledger)
    (families : List Family) :
    (emitted w options base ledger families).summary.samples = (attempts options base families).length := by
  have h := after_foldl_family w options base families ⟨ledger, {}⟩
  rw [emitted, h.summary]
  exact Nat.zero_add _

theorem emitted_of_no_metrics (w : MetricWriter) (options : Options) (base : TagList) (ledger : Ledger)
    (h : ∀ f ∈ families, f.metrics = []) :
    (emitted w options base ledger families).ledger.batch = ledger.batch ∧
      (emitted w options base ledger families).ledger.stats = ledger.stats := by
  have hnone : attempts options base families = [] := List.eq_nil_of_length_eq_zero (length_attempts_eq_zero_iff.mpr h)
  have hafter := after_foldl_family w options base families ⟨ledger, {}⟩
  rw [hnone] at hafter
  exact ⟨hafter.batch, hafter.stats.trans (After.refl w ⟨ledger, {}⟩).stats.symm⟩

/-- A translation ends in one of four ways. A text that cannot be read leaves everything as it was. If the signal is
first seen in front of some family, those before it have been emitted and nothing else. Otherwise an exposition without
metrics is refused and leaves batch and statistics as they were, and any other is emitted whole. -/
theorem translate_exits (w : MetricWriter) (options : Options) (base : TagList) (cancelled : Nat → Bool)
    (text : String) (ledger : Ledger) :
    let outcome := translate w options base cancelled text ledger
    (∀ cause, Exposition.read text = .error cause → outcome = ⟨.error (.unreadable cause), none, ledger⟩) ∧
    ∀ families, Exposition.read text = .ok families →
      (∀ place < families.length, IsFirstSeen cancelled place →
        let part := emitted w options base ledger (families.take place)
        outcome.result = .ok { part.summary with families := families.length, cancelled := true } ∧
        outcome.ledger.batch = part.ledger.batch ∧ outcome.ledger.stats = part.ledger.stats ∧
        outcome.counted = some part.summary.written) ∧
      ((∀ place < families.length, cancelled place = false) →
        let whole := emitted w options base ledger families
        (outcome.result = .error (.noMetrics families.length) ↔ ∀ f ∈ families, f.metrics = []) ∧
        ((∀ f ∈ families, f.metrics = []) →
          outcome.ledger.batch = ledger.batch ∧ outcome.ledger.stats = ledger.stats) ∧
        ((∃ f ∈ families, f.metrics ≠ []) →
          outcome.result = .ok { whole.summary with families := families.length, cancelled := false }) ∧
        outcome.ledger.batch = whole.ledger.batch ∧ outcome.ledger.stats = whole.ledger.stats ∧
        outcome.counted = some whole.summary.written) := by
  intro outcome
  refine ⟨fun cause hr ↦ ?_, fun families hr ↦ ⟨fun place hp h ↦ ?_, fun h ↦ ?_⟩⟩
  · rw [show outcome = translate w options base cancelled text ledger from rfl, translate, hr]
  · intro part
    obtain ⟨hsummary, hbatch, hstats⟩ :=
      foldl_family_eq_emitted w options base ledger families.length (families.take place)
    have hrun := families_of_isFirstSeen w options base hp h
      ⟨ledger, { families := families.length }⟩
    dsimp only at hrun
    rw [hsummary] at hrun
    have houtcome : outcome = translate w options base cancelled text ledger := rfl
    rw [translate, hr] at houtcome
    dsimp only at houtcome
    rw [hrun] at houtcome
    rw [houtcome]
    exact ⟨if_neg (fun hn ↦ Bool.noConfusion hn.2), hbatch, hstats, rfl⟩
  · intro whole
    obtain ⟨hsummary, hbatch, hstats⟩ := foldl_family_eq_emitted w options base ledger families.length families
    have houtcome : outcome = translate w options base cancelled text ledger := rfl
    rw [translate, hr] at houtcome
    dsimp only at houtcome
    rw [families_of_unseen h, hsummary] at houtcome
    have hresult : outcome.result = if whole.summary.samples = 0 then .error (.noMetrics families.length)
        else .ok { whole.summary with families := families.length, cancelled := false } := by
      rw [houtcome]
      simp [whole]
    have hzero : whole.summary.samples = 0 ↔ ∀ f ∈ families, f.metrics = [] := by
      rw [emitted_samples]
      exact length_attempts_eq_zero_iff
    rw [hresult]
    refine ⟨?_, fun hn ↦ ?_, ?_, ?_⟩
    · rw [← hzero]
      split
      · next hs => exact iff_of_true rfl hs
      · next hs => exact iff_of_false (fun he ↦ by cases he) hs
    · obtain ⟨hb, hs⟩ := emitted_of_no_metrics w options base ledger hn
      rw [houtcome]
      exact ⟨hbatch.trans hb, hstats.trans hs⟩
    · rintro ⟨f, hf, hm⟩
      rw [if_neg fun hs ↦ hm (hzero.mp hs f hf)]
    · rw [houtcome]
      exact ⟨hbatch, hstats, rfl⟩

/-- The second family is a denied metric, and the signal is first seen in front of the third. -/
theorem translate_exits_cancelled :
    let w : MetricWriter := { encoder := {}, filter := ⟨[⟨.allow, "x", true, fun name ↦ name = "x"⟩]⟩ }
    let outcome := translate w {} .empty (fun place ↦ decide (2 ≤ place)) "x 1\ny 2\nx 3\nz 4\n" {}
    outcome.result = .ok ⟨3, 3, 2, 1, 0, true⟩ ∧ outcome.ledger.batch.keys = ["x"] ∧
      outcome.ledger.stats.filtered = 1 ∧ outcome.counted = some 2 := by
  intro w outcome
  let series (value : Binary64) : Metric := ⟨[], none, .scalar value⟩
  let families : List Family :=
    [⟨"x", none, .untyped, [series ⟨0x3FF0000000000000⟩, series ⟨0x4008000000000000⟩]⟩,
      ⟨"y", none, .untyped, [series ⟨0x4000000000000000⟩]⟩, ⟨"z", none, .untyped, [series ⟨0x4010000000000000⟩]⟩]
  have hr : Exposition.read "x 1\ny 2\nx 3\nz 4\n" = .ok families := by decide +kernel
  have hfirst : IsFirstSeen (fun place ↦ decide (2 ≤ place)) 2 := ⟨rfl, by decide⟩
  obtain ⟨hresult, hbatch, hstats, hcounted⟩ :=
    ((translate_exits w {} .empty (fun place ↦ decide (2 ≤ place)) "x 1\ny 2\nx 3\nz 4\n" {}).2 families hr).1 2
      (by decide) hfirst
  have hsummary : (emitted w {} .empty {} (families.take 2)).summary = ⟨0, 3, 2, 1, 0, false⟩ := by decide +kernel
  refine ⟨?_, ?_, ?_, ?_⟩
  · rw [hresult, hsummary]
    rfl
  · rw [hbatch]
    decide +kernel
  · rw [hstats]
    decide +kernel
  · rw [hcounted, hsummary]

end MetricRelay.Translation
