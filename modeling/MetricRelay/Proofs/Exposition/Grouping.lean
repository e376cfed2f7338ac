import Mathlib.Data.List.Nodup
import MetricRelay.Proofs.Exposition.Written

namespace MetricRelay.Exposition

theorem name_le_trans (a b c : Label) (hab : decide (a.1 ≤ b.1) = true) (hbc : decide (b.1 ≤ c.1) = true) :
    decide (a.1 ≤ c.1) = true :=
  decide_eq_true (String.le_trans (of_decide_eq_true hab) (of_decide_eq_true hbc))

theorem name_le_total (a b : Label) : (decide (a.1 ≤ b.1) || decide (b.1 ≤ a.1)) = true := by
  simpa using String.le_total a.1 b.1

theorem pairwise_sortLabels (labels : List Label) : (sortLabels labels).Pairwise fun a b ↦ a.1 ≤ b.1 :=
  (List.pairwise_mergeSort name_le_trans name_le_total labels).imp of_decide_eq_true

theorem nodup_of_sorted {labels : List Label} (hs : labels.Pairwise fun a b ↦ a.1 < b.1) :
    (labels.map Prod.fst).Nodup := by
  refine List.pairwise_map.mpr (hs.imp fun h he ↦ ?_)
  rw [he] at h
  exact String.lt_irrefl _ h

theorem eq_of_perm_sorted {first second : List Label} (hn : (first.map Prod.fst).Nodup) (hp : second.Perm first)
    (hf : first.Pairwise fun a b ↦ a.1 ≤ b.1) (hs : second.Pairwise fun a b ↦ a.1 ≤ b.1) : second = first := by
  refine hp.eq_of_pairwise (fun a b ha hb hab hba ↦ ?_) hs hf
  exact List.inj_on_of_nodup_map hn (hp.subset ha) hb (String.le_antisymm hab hba)

theorem le_of_sorted {labels : List Label} (hs : labels.Pairwise fun a b ↦ a.1 < b.1) :
    labels.Pairwise fun a b ↦ a.1 ≤ b.1 :=
  hs.imp fun h ↦ String.not_lt.mp fun h' ↦ String.lt_irrefl _ (String.lt_trans h h')

theorem sortLabels_of_perm {labels written : List Label} (hs : labels.Pairwise fun a b ↦ a.1 < b.1)
    (hp : written.Perm labels) : sortLabels written = labels :=
  eq_of_perm_sorted (nodup_of_sorted hs) ((List.mergeSort_perm written _).trans hp) (le_of_sorted hs)
    (pairwise_sortLabels written)

theorem sortLabels_eq_of_perm {written written' : List Label} (hn : (written.map Prod.fst).Nodup)
    (hp : written'.Perm written) : sortLabels written' = sortLabels written := by
  have hsorted : (sortLabels written).Perm written := List.mergeSort_perm written _
  have hsorted' : (sortLabels written').Perm written' := List.mergeSort_perm written' _
  have hnodup : ((sortLabels written).map Prod.fst).Nodup := (hsorted.map Prod.fst).nodup_iff.mpr hn
  exact eq_of_perm_sorted hnodup (hsorted'.trans (hp.trans hsorted.symm)) (pairwise_sortLabels written)
    (pairwise_sortLabels written')

theorem takeLabel?_append {name value : String} {front rest : List Label} (h : name ∉ front.map Prod.fst) :
    takeLabel? name (front ++ (name, value) :: rest) = some (value, front ++ rest) := by
  induction front with
  | nil => simp [takeLabel?]
  | cons label front ih =>
    simp only [List.map_cons, List.mem_cons, not_or] at h
    simp [takeLabel?, Ne.symm h.1, ih h.2]

/-- The label of its own that a child carries is taken out, and the labels of the series remain. -/
theorem takeLabel?_sortLabels {name value : String} {labels written : List Label}
    (hs : labels.Pairwise fun a b ↦ a.1 < b.1) (hn : name ∉ labels.map Prod.fst)
    (hp : written.Perm ((name, value) :: labels)) :
    takeLabel? name (sortLabels written) = some (value, labels) := by
  have hsort : (sortLabels written).Perm ((name, value) :: labels) := (List.mergeSort_perm written _).trans hp
  have hle := pairwise_sortLabels written
  obtain ⟨front, rest, he⟩ := List.append_of_mem (hsort.symm.subset List.mem_cons_self)
  rw [he] at hsort hle ⊢
  have hperm : (front ++ rest).Perm labels := (List.perm_middle.symm.trans hsort).cons_inv
  have hfront : name ∉ front.map Prod.fst := fun hm ↦
    hn ((hperm.map Prod.fst).subset (by rw [List.map_append]; exact List.mem_append_left _ hm))
  rw [takeLabel?_append hfront]
  refine congrArg (fun others ↦ some (value, others)) ?_
  exact eq_of_perm_sorted (nodup_of_sorted hs) hperm (le_of_sorted hs)
    (hle.sublist ((List.sublist_cons_self _ _).append_left front))

theorem takeNumber?_sortLabels {name numeral : String} {x : Binary64} {labels written : List Label}
    (hx : Spells numeral x) (hnan : x.isNaN = false) (hs : labels.Pairwise fun a b ↦ a.1 < b.1)
    (hn : name ∉ labels.map Prod.fst) (hp : written.Perm ((name, numeral) :: labels)) :
    takeNumber? name (sortLabels written) = some (x, labels) := by
  unfold Spells at hx
  rw [takeNumber?, takeLabel?_sortLabels hs hn hp]
  dsimp only
  rw [hx]
  dsimp only
  rw [if_neg (by simp [hnan])]

/-- The state tells of the family all but its series, of which it has `done`; no other labels have a place. -/
structure FamilyState.Shows (state : FamilyState) (f : Family) (done : List Metric) : Prop where
  help : state.help = f.help
  kind : state.kind = f.kind
  metrics : state.metrics.toList = done
  fresh : ∀ labels, labels ∉ done.map Metric.labels → state.groups.get? labels = none

theorem modify_last (done : List Metric) (m : Metric) (g : Metric → Metric) :
    (done ++ [m]).modify done.length g = done ++ [g m] := by
  induction done with
  | nil => rfl
  | cons d done ih => simpa using ih

variable {state : FamilyState} {f : Family} {done : List Metric} {labels : List Label} {timestamp : Option Int64}

theorem kind_updateSeries (state : FamilyState) (labels : List Label) (timestamp : Option Int64)
    (change : MetricData → MetricData) : (state.updateSeries labels timestamp change).kind = state.kind := by
  unfold FamilyState.updateSeries FamilyState.openSeries
  cases state.groups.get? labels <;> rfl

theorem updateSeries_new (h : state.Shows f done) (hl : labels ∉ done.map Metric.labels)
    (change : MetricData → MetricData) :
    (state.updateSeries labels timestamp change).Shows f (done ++ [⟨labels, timestamp, change state.emptyData⟩]) ∧
      (state.updateSeries labels timestamp change).groups.get? labels = some done.length := by
  have hopen : state.openSeries labels = ({ state with
      groups := state.groups.insert labels state.metrics.size
      metrics := state.metrics.push ⟨labels, none, state.emptyData⟩ }, state.metrics.size) := by
    rw [FamilyState.openSeries, h.fresh labels hl]
  have hsize : state.metrics.size = done.length := by rw [← h.metrics, Array.length_toList]
  have hget (other : List Label) : (state.updateSeries labels timestamp change).groups.get? other =
      if labels = other then some done.length else state.groups.get? other := by
    rw [FamilyState.updateSeries, hopen]
    dsimp only
    rw [OrderedMap.get?_insert, hsize]
  refine ⟨⟨?_, ?_, ?_, fun other ho ↦ ?_⟩, by rw [hget, if_pos rfl]⟩
  · rw [FamilyState.updateSeries, hopen]; exact h.help
  · rw [FamilyState.updateSeries, hopen]; exact h.kind
  · rw [FamilyState.updateSeries, hopen]
    dsimp only
    rw [Array.toList_modify, Array.toList_push, h.metrics, hsize, modify_last]
    simp
  · simp only [List.map_append, List.map_cons, List.map_nil, List.mem_append, List.mem_singleton, not_or] at ho
    rw [hget, if_neg (Ne.symm ho.2), h.fresh other ho.1]

theorem updateSeries_last {data : MetricData} (h : state.Shows f (done ++ [⟨labels, timestamp, data⟩]))
    (hg : state.groups.get? labels = some done.length) (change : MetricData → MetricData) :
    (state.updateSeries labels timestamp change).Shows f (done ++ [⟨labels, timestamp, change data⟩]) ∧
      (state.updateSeries labels timestamp change).groups.get? labels = some done.length := by
  have hopen : state.openSeries labels = (state, done.length) := by rw [FamilyState.openSeries, hg]
  have hlabels : List.map Metric.labels (done ++ [⟨labels, timestamp, change data⟩]) =
      List.map Metric.labels (done ++ [⟨labels, timestamp, data⟩]) := by simp
  rw [FamilyState.updateSeries, hopen]
  refine ⟨⟨h.help, h.kind, ?_, fun other ho ↦ h.fresh other (hlabels ▸ ho)⟩, hg⟩
  dsimp only
  rw [Array.toList_modify, h.metrics, modify_last]
  cases timestamp <;> rfl

/-- The lines of one series make one metric, whatever changes they stand for. -/
theorem foldl_updateSeries_last (changes : List (MetricData → MetricData)) {data : MetricData}
    (h : state.Shows f (done ++ [⟨labels, timestamp, data⟩])) (hg : state.groups.get? labels = some done.length) :
    (changes.foldl (fun s change ↦ s.updateSeries labels timestamp change) state).Shows f
      (done ++ [⟨labels, timestamp, changes.foldl (fun d change ↦ change d) data⟩]) := by
  induction changes generalizing state data with
  | nil => exact h
  | cons change changes ih =>
    obtain ⟨hs, hp⟩ := updateSeries_last h hg change
    exact ih hs hp

theorem foldl_updateSeries {changes : List (MetricData → MetricData)} (hne : changes ≠ []) (h : state.Shows f done)
    (hl : labels ∉ done.map Metric.labels) :
    (changes.foldl (fun s change ↦ s.updateSeries labels timestamp change) state).Shows f
      (done ++ [⟨labels, timestamp, changes.foldl (fun d change ↦ change d) state.emptyData⟩]) := by
  obtain ⟨change, changes, rfl⟩ := List.exists_cons_of_ne_nil hne
  obtain ⟨hs, hp⟩ := updateSeries_new h hl change
  exact foldl_updateSeries_last changes hs hp

theorem addScalar_shows (h : state.Shows f done) (value : Binary64) :
    (state.addScalar labels timestamp value).Shows f (done ++ [⟨labels, timestamp, .scalar value⟩]) := by
  refine ⟨h.help, h.kind, ?_, fun other ho ↦ h.fresh other ?_⟩
  · simp [FamilyState.addScalar, h.metrics]
  · exact fun hm ↦ ho (by simp [hm])

theorem foldl_addQuantile (quantiles : List Quantile) (count sum : Binary64) (front : List Quantile) :
    (quantiles.map fun q (d : MetricData) ↦ d.addQuantile q).foldl (fun d change ↦ change d)
      (.summary count sum front) = .summary count sum (front ++ quantiles) := by
  induction quantiles generalizing front with
  | nil => simp
  | cons q quantiles ih => simpa [MetricData.addQuantile] using ih (front ++ [q])

theorem foldl_addBucket (buckets : List Bucket) (count sum : Binary64) (front : List Bucket) :
    (buckets.map fun b (d : MetricData) ↦ d.addBucket b).foldl (fun d change ↦ change d)
      (.histogram count sum front) = .histogram count sum (front ++ buckets) := by
  induction buckets generalizing front with
  | nil => simp
  | cons b buckets ih => simpa [MetricData.addBucket] using ih (front ++ [b])

end MetricRelay.Exposition
