import MetricRelay.Proofs.Exposition.Agreement
import MetricRelay.Translation.Basic

namespace MetricRelay.Translation

open Exposition (Families Family KeepsSeries Metric)

variable {w : MetricWriter} {options : Options} {base : TagList} {p : Progress}

theorem seriesTags_of_matches {m m' : Metric} (h : m.Matches m') : seriesTags base m' = seriesTags base m := by
  have hvalued : m'.labels.filter (fun label ↦ label.2 ≠ "") = m.labels.filter fun label ↦ label.2 ≠ "" := h.valued
  rw [seriesTags, seriesTags, hvalued]

theorem series_of_matches {name : String} {m m' : Metric} (h : m.Matches m') :
    p.series w options base name m' = p.series w options base name m := by
  have hdata : m'.data = m.data := by rw [h.eq]
  have hstamp : seriesTimestamp options m' = seriesTimestamp options m := by
    have htimestamp : m'.timestamp = m.timestamp := by rw [h.eq]
    rw [seriesTimestamp, htimestamp, seriesTimestamp]
  rw [Progress.series, Progress.series, seriesTags_of_matches h, hdata, hstamp]

theorem family_of_matches {f f' : Family} (h : f.Matches f') :
    p.family w options base f' = p.family w options base f := by
  have hname : f'.name = f.name := by rw [h.eq]
  rw [Progress.family, Progress.family, hname]
  have hmetrics := h.metrics
  generalize f.metrics = metrics at hmetrics
  generalize f'.metrics = metrics' at hmetrics
  induction hmetrics generalizing p with
  | nil => rfl
  | cons hhead _ ih => rw [List.foldl_cons, List.foldl_cons, series_of_matches hhead, ih]

theorem families_of_matches {cancelled : Nat → Bool} {place : Nat} {families families' : List Family}
    (h : List.Forall₂ Family.Matches families families') :
    p.families w options base cancelled place families' = p.families w options base cancelled place families := by
  induction h generalizing p place with
  | nil => rfl
  | cons hhead _ ih => rw [Progress.families, Progress.families, family_of_matches hhead, ih]

/-- Labels with an empty value may be left out or put in, those aside that give buckets and quantiles their place: the
translation is the same in all it returns and leaves behind, if the lines that share a series go on to do so. -/
theorem translate_of_agree {text text' : String} {read : List Family} (hr : Exposition.read text = .ok read)
    (ha : Families.agreeAll .empty (Text.lines text.toList) (Text.lines text'.toList) = true)
    (hk : KeepsSeries ((Families.contributions .empty (Text.lines text.toList)).zip
      (Families.contributions .empty (Text.lines text'.toList))))
    (w : MetricWriter) (options : Options) (base : TagList) (cancelled : Nat → Bool) (ledger : Ledger) :
    translate w options base cancelled text' ledger = translate w options base cancelled text ledger := by
  obtain ⟨read', hr', hmatch⟩ := Exposition.read_of_agree hr ha hk
  rw [translate, translate, hr, hr']
  dsimp only
  rw [families_of_matches hmatch, hmatch.length_eq]

/-- The lines of one series agree on a label without a value, and a scalar has one of its own. -/
theorem translate_of_agree_histogram :
    let w : MetricWriter := { encoder := {}, filter := ⟨[⟨.allow, ".*", true, fun _ ↦ true⟩]⟩ }
    let text := "# TYPE f histogram\nf_sum\x7ba=\"\"\x7d 3\nf_count\x7ba=\"\"\x7d 2\nup\x7ble=\"\"\x7d 1\n"
    let text' := "# TYPE f histogram\nf_sum 3\nf_count 2\nup 1\n"
    let outcome := translate w {} .empty (fun _ ↦ false) text' {}
    outcome = translate w {} .empty (fun _ ↦ false) text {} ∧ outcome.counted = some 4 := by
  intro w text text' outcome
  obtain ⟨families, hr⟩ : ∃ families, Exposition.read text = .ok families :=
    Exposition.exists_of_isOk (by decide +kernel)
  refine ⟨translate_of_agree hr (by decide +kernel) (by decide +kernel) _ _ _ _ _, ?_⟩
  decide +kernel

/-- The sum of a series names a label without a value and its count does not: they are counted as two series, and the
sum of the second takes the place of the first. -/
theorem translate_splits_series :
    let w : MetricWriter := { encoder := {}, filter := ⟨[⟨.allow, ".*", true, fun _ ↦ true⟩]⟩ }
    let text := "# TYPE f histogram\nf_sum\x7ba=\"\"\x7d 3\nf_count 2\n"
    let text' := "# TYPE f histogram\nf_sum 3\nf_count 2\n"
    let outcome := translate w {} .empty (fun _ ↦ false) text {}
    let outcome' := translate w {} .empty (fun _ ↦ false) text' {}
    Families.agreeAll .empty (Text.lines text.toList) (Text.lines text'.toList) = true ∧
      outcome.counted = some 5 ∧ outcome'.counted = some 3 ∧
      (outcome.ledger.batch.get? "f_sum").map Sample.value = some (.float64 .zero) ∧
      (outcome'.ledger.batch.get? "f_sum").map Sample.value = some (.float64 ⟨0x4008000000000000⟩) := by
  intro w text text' outcome outcome'
  exact ⟨by decide +kernel, by decide +kernel, by decide +kernel, by decide +kernel, by decide +kernel⟩

end MetricRelay.Translation
