import MetricRelay.Proofs.Translation.Run

namespace MetricRelay.Translation

open Exposition (Family)

variable {w : MetricWriter} {options : Options} {base : TagList} {cancelled : Nat → Bool} {text : String}
  {ledger : Ledger} {families : List Family}

def Outcome.isCancelled (outcome : Outcome) : Bool :=
  match outcome.result with
  | .ok summary => summary.cancelled
  | .error _ => false

theorem translate_of_not_isCancelled (hr : Exposition.read text = .ok families)
    (hc : (translate w options base cancelled text ledger).isCancelled = false) :
    let outcome := translate w options base cancelled text ledger
    let all := attempts options base families
    let summary := Summary.after w { families := families.length } all
    outcome.result = (if summary.samples = 0 then .error (.noMetrics families.length) else .ok summary) ∧
      outcome.counted = some summary.written ∧
      outcome.ledger.batch = ledger.batch.insertAll ((writable all).filterMap w.insertion?) := by
  intro outcome all summary
  obtain ⟨q, hq, hresult, hcounted, hbatch, -⟩ := translate_after hr w options base cancelled ledger
  have hall : visited cancelled 0 families = families := by
    apply visited_eq_of_length
    apply Nat.le_of_not_lt
    intro hlt
    simp [Outcome.isCancelled, hresult, hlt] at hc
  rw [hall] at hq hresult
  have hsummary : q.summary = summary := hq.summary
  refine ⟨?_, ?_, ?_⟩
  · rw [hresult, hsummary]
    simp [summary, Summary.after]
  · rw [hcounted, hsummary]
  · rw [hbatch, hq.batch]

/-- A translation into the batch that the same translation has left ends as it did, and leaves the batch alone: its
names, their order and their samples. -/
theorem translate_again (w : MetricWriter) (options : Options) (base : TagList) (text : String) (ledger again : Ledger)
    (first second : Nat → Bool) :
    let once := translate w options base first text ledger
    let twice := translate w options base second text again
    once.isCancelled = false → twice.isCancelled = false → again.batch = once.ledger.batch →
      twice.result = once.result ∧ twice.ledger.batch = once.ledger.batch ∧ twice.counted = once.counted := by
  intro once twice hfirst hsecond hagain
  cases hr : Exposition.read text with
  | error e =>
    have honce : once = ⟨.error (.unreadable e), none, ledger⟩ := by simp only [once, translate, hr]
    have htwice : twice = ⟨.error (.unreadable e), none, again⟩ := by simp only [twice, translate, hr]
    rw [honce] at hagain
    rw [honce, htwice]
    exact ⟨rfl, hagain, rfl⟩
  | ok families =>
    obtain ⟨hresult, hcounted, hbatch⟩ := translate_of_not_isCancelled hr hfirst
    obtain ⟨hresult', hcounted', hbatch'⟩ := translate_of_not_isCancelled hr hsecond
    refine ⟨hresult'.trans hresult.symm, ?_, hcounted'.trans hcounted.symm⟩
    rw [hbatch', hagain, hbatch, OrderedMap.insertAll_insertAll]

/-- The derived name `f_count` is that of a family, one sample of which replaces another, and the batch has held a
sample of that name. -/
theorem translate_again_replaced :
    let w : MetricWriter := { encoder := {}, filter := ⟨[⟨.allow, ".*", true, fun _ ↦ true⟩]⟩ }
    let text := "f_count 1\nf_count 2\n# TYPE f summary\nf_sum 3\ng 4\n"
    let ledger : Ledger := { batch := OrderedMap.empty.insertAll [("g", .of (.uint64 7) none), ("h", .of (.uint64 8) none)] }
    let once := translate w {} .empty (fun _ ↦ false) text ledger
    let twice := translate w {} .empty (fun _ ↦ false) text once.ledger
    once.ledger.batch.keys = ["g", "h", "f_count", "f_sum"] ∧ twice.result = once.result ∧
      twice.ledger.batch = once.ledger.batch := by
  intro w text ledger once twice
  obtain ⟨hresult, hbatch, -⟩ := translate_again w {} .empty text ledger once.ledger (fun _ ↦ false) (fun _ ↦ false)
    (by decide +kernel) (by decide +kernel) rfl
  exact ⟨by decide +kernel, hresult, hbatch⟩

end MetricRelay.Translation
