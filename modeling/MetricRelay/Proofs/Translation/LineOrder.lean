import Mathlib.Control.Monad.Basic
import MetricRelay.Proofs.Binary64.Order
import MetricRelay.Proofs.Exposition.LineOrder
import MetricRelay.Translation.Histogram

namespace MetricRelay.Translation

open Exposition (Bucket Contribution Families Family IsHistogram Label Metric SampleLine Shuffled)

variable {buckets buckets' : List Bucket}

theorem pairwise_sortBuckets (buckets : List Bucket) :
    (sortBuckets buckets).Pairwise fun a b ↦ a.upperBound.totalLE b.upperBound := by
  apply List.pairwise_mergeSort
  · intro a b c
    exact Binary64.totalLE_trans
  · intro a b
    exact Binary64.totalLE_total a.upperBound b.upperBound

theorem sortBuckets_of_perm (hn : (buckets.map Bucket.upperBound).Nodup) (hp : buckets'.Perm buckets) :
    sortBuckets buckets' = sortBuckets buckets := by
  have hsorted : (sortBuckets buckets).Perm buckets := List.mergeSort_perm buckets _
  have hsorted' : (sortBuckets buckets').Perm buckets' := List.mergeSort_perm buckets' _
  have hsame : (sortBuckets buckets').Perm (sortBuckets buckets) := hsorted'.trans (hp.trans hsorted.symm)
  refine hsame.eq_of_pairwise (fun a b ha hb hab hba ↦ ?_) (pairwise_sortBuckets buckets')
    (pairwise_sortBuckets buckets)
  have hbounds : a.upperBound = b.upperBound := Binary64.eq_of_totalLE hab hba
  exact List.inj_on_of_nodup_map hn (hp.subset (hsorted'.subset ha)) (hsorted.subset hb) hbounds

theorem reduceHistogram_of_perm (hn : (buckets.map Bucket.upperBound).Nodup) (hp : buckets'.Perm buckets)
    (total : Nat) : reduceHistogram buckets' total = reduceHistogram buckets total := by
  rw [reduceHistogram, reduceHistogram, entries, entries, sortBuckets_of_perm hn hp]

/-- The sample lines of a histogram may be written in any order, and so may the labels of each, if no two lines of a
series have the same part or different timestamps: the other text can be read too, its series have the same labels, and
each has the same timestamp, count and sum, and the same entries whatever the total. -/
theorem read_shuffled {name : String} {samples samples' : List SampleLine} {text text' : String}
    {families : List Family} (hr : Exposition.read text = .ok families)
    (hh : IsHistogram name samples (Text.lines text.toList)) (hh' : IsHistogram name samples' (Text.lines text'.toList))
    (hs : Shuffled samples samples') (hn : ∀ s ∈ samples, (s.labels.map Prod.fst).Nodup)
    (hc : (Families.contributions .empty (Text.lines text.toList)).Pairwise Contribution.Apart) :
    ∃ metrics metrics', families = [⟨name, none, .histogram, metrics⟩] ∧
      Exposition.read text' = .ok [⟨name, none, .histogram, metrics'⟩] ∧ (metrics.map Metric.labels).Nodup ∧
      (metrics'.map Metric.labels).Perm (metrics.map Metric.labels) ∧
      ∀ m ∈ metrics, ∀ m' ∈ metrics', m'.labels = m.labels → m'.timestamp = m.timestamp ∧
        ∃ count sum buckets buckets', m.data = .histogram count sum buckets ∧
          m'.data = .histogram count sum buckets' ∧
          ∀ total, reduceHistogram buckets' total = reduceHistogram buckets total := by
  obtain ⟨metrics, metrics', hfamilies, hread, hnodup, hlabels, hmetrics⟩ :=
    Exposition.read_of_shuffled hr hh hh' hs hn hc
  refine ⟨metrics, metrics', hfamilies, hread, hnodup, hlabels, fun m hm m' hm' hl ↦ ?_⟩
  obtain ⟨halike, hbounds⟩ := hmetrics m hm m' hm' hl
  refine ⟨halike.timestamp, ?_⟩
  have hdata := halike.data
  generalize m.data = data at hbounds hdata
  generalize m'.data = data' at hdata
  cases hdata with
  | @histogram count sum buckets buckets' hp =>
    exact ⟨count, sum, buckets, buckets', rfl, rfl, reduceHistogram_of_perm hbounds hp⟩

/-- The lines of two series, one behind the other and then mixed. The greater bucket comes first, and one line of the
series has a timestamp. -/
theorem read_shuffled_series :
    let text := "# TYPE f histogram\nf_bucket\x7ble=\"2\"\x7d 3\nf_bucket\x7ble=\"1\"\x7d 1 5\nf_count 3\n" ++
      "f_sum\x7ba=\"x\"\x7d 1\nf_count\x7ba=\"x\"\x7d 1\n"
    let text' := "# TYPE f histogram\nf_count\x7ba=\"x\"\x7d 1\nf_bucket\x7ble=\"1\"\x7d 1 5\nf_count 3\n" ++
      "f_sum\x7ba=\"x\"\x7d 1\nf_bucket\x7ble=\"2\"\x7d 3\n"
    ∃ metrics metrics', Exposition.read text = .ok [⟨"f", none, .histogram, metrics⟩] ∧
      Exposition.read text' = .ok [⟨"f", none, .histogram, metrics'⟩] ∧
      (metrics'.map Metric.labels).Perm (metrics.map Metric.labels) ∧
      ∀ m ∈ metrics, ∀ m' ∈ metrics', m'.labels = m.labels → m'.timestamp = m.timestamp := by
  intro text text'
  let sample (suffix : String) (labels : List Label) (value : String) (timestamp : Option String) : SampleLine :=
    ⟨"f" ++ suffix, labels, value, timestamp⟩
  let samples : List SampleLine :=
    [sample "_bucket" [("le", "2")] "3" none, sample "_bucket" [("le", "1")] "1" (some "5"),
      sample "_count" [] "3" none, sample "_sum" [("a", "x")] "1" none, sample "_count" [("a", "x")] "1" none]
  let samples' : List SampleLine :=
    [sample "_count" [("a", "x")] "1" none, sample "_bucket" [("le", "1")] "1" (some "5"),
      sample "_count" [] "3" none, sample "_sum" [("a", "x")] "1" none, sample "_bucket" [("le", "2")] "3" none]
  obtain ⟨families, hr⟩ : ∃ families, Exposition.read text = .ok families :=
    Exposition.exists_of_isOk (by decide +kernel)
  have hh : IsHistogram "f" samples (Text.lines text.toList) := by
    have hlines : Text.lines text.toList = "# TYPE f histogram".toList :: (Text.lines text.toList).tail := by
      decide +kernel
    rw [hlines]
    exact .intro (by decide +kernel) (by decide +kernel) (by decide +kernel)
  have hh' : IsHistogram "f" samples' (Text.lines text'.toList) := by
    have hlines : Text.lines text'.toList = "# TYPE f histogram".toList :: (Text.lines text'.toList).tail := by
      decide +kernel
    rw [hlines]
    exact .intro (by decide +kernel) (by decide +kernel) (by decide +kernel)
  have hs : Shuffled samples samples' := by
    refine ⟨samples', by decide +kernel, ?_⟩
    exact List.forall₂_same.mpr fun s _ ↦ ⟨rfl, .refl _⟩
  obtain ⟨metrics, metrics', rfl, hread, -, hlabels, hmetrics⟩ :=
    read_shuffled hr hh hh' hs (by decide) (by decide +kernel)
  exact ⟨metrics, metrics', hr, hread, hlabels, fun m hm m' hm' hl ↦ (hmetrics m hm m' hm' hl).1⟩

end MetricRelay.Translation
