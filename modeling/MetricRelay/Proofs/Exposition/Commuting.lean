import MetricRelay.Proofs.Exposition.Replay

namespace MetricRelay.Exposition

/-- Two histograms that differ at most in the order of their buckets. -/
inductive MetricData.Alike : MetricData → MetricData → Prop
  | histogram (count sum : Binary64) {buckets buckets' : List Bucket} :
    buckets'.Perm buckets → Alike (.histogram count sum buckets) (.histogram count sum buckets')

structure Metric.Alike (m m' : Metric) : Prop where
  labels : m'.labels = m.labels
  timestamp : m'.timestamp = m.timestamp
  data : m.data.Alike m'.data

theorem MetricData.Alike.trans {data data' data'' : MetricData} (h : data.Alike data') (h' : data'.Alike data'') :
    data.Alike data'' := by
  cases h with
  | histogram count sum hp =>
    cases h' with
    | histogram _ _ hp' => exact .histogram count sum (hp'.trans hp)

theorem MetricData.Alike.change {data data' : MetricData} (h : data.Alike data') (part : Part) (value : Binary64) :
    (part.change value data).Alike (part.change value data') := by
  cases h with
  | histogram count sum hp =>
    cases part with
    | scalar | quantile => exact .histogram count sum hp
    | bucket number => exact .histogram count sum (hp.append_right _)
    | sum => exact .histogram count value hp
    | count => exact .histogram value sum hp

theorem MetricData.Alike.right {data data' : MetricData} (h : data.Alike data') : data'.Alike data' := by
  cases h with
  | histogram count sum => exact .histogram count sum (.refl _)

/-- The changes of two different parts commute. -/
theorem MetricData.Alike.swap {data data' : MetricData} (h : data.Alike data') {part part' : Part}
    (hne : part ≠ part') (value value' : Binary64) :
    (part'.change value' (part.change value data)).Alike (part.change value (part'.change value' data')) := by
  refine MetricData.Alike.trans ?_ ((h.change part' value').change part value)
  cases h with
  | @histogram count sum buckets =>
    have hbuckets (b b' : Bucket) : (buckets ++ [b'] ++ [b]).Perm (buckets ++ [b] ++ [b']) := by
      rw [List.append_assoc, List.append_assoc]
      exact (List.Perm.swap b b' []).append_left buckets
    cases part <;> cases part' <;>
      first | exact absurd rfl hne | exact .histogram _ _ (.refl _) | exact .histogram _ _ (hbuckets _ _)

variable {m m' : Metric} {c d : Contribution} {contributions contributions' : List Contribution} {labels : List Label}

theorem Metric.Alike.trans {m'' : Metric} (h : m.Alike m') (h' : m'.Alike m'') : m.Alike m'' :=
  ⟨h'.labels.trans h.labels, h'.timestamp.trans h.timestamp, h.data.trans h'.data⟩

theorem Metric.Alike.right (h : m.Alike m') : m'.Alike m' := ⟨rfl, rfl, h.data.right⟩

/-- Lines of one series that have different parts, and no different timestamps. -/
def Contribution.Apart (c d : Contribution) : Prop :=
  c.labels = d.labels → c.part ≠ d.part ∧ c.timestamp.or d.timestamp = d.timestamp.or c.timestamp

instance : DecidableRel Contribution.Apart := fun c d ↦
  inferInstanceAs (Decidable (c.labels = d.labels → _ ∧ _))

theorem Contribution.Apart.symm (h : c.Apart d) : d.Apart c := by
  intro hl
  obtain ⟨hpart, hstamp⟩ := h hl.symm
  exact ⟨hpart.symm, hstamp.symm⟩

theorem Metric.Alike.onto (h : m.Alike m') (c : Contribution) : (c.onto (some m)).Alike (c.onto (some m')) := by
  refine ⟨h.labels, ?_, h.data.change c.part c.value⟩
  exact congrArg c.timestamp.or h.timestamp

theorem Metric.Alike.swap (h : m.Alike m') (hc : c.Apart d) (hl : c.labels = d.labels) :
    (d.onto (some (c.onto (some m)))).Alike (c.onto (some (d.onto (some m')))) := by
  obtain ⟨hpart, hstamp⟩ := hc hl
  refine ⟨h.labels, ?_, h.data.swap hpart c.value d.value⟩
  have hor : c.timestamp.or (d.timestamp.or m'.timestamp) = d.timestamp.or (c.timestamp.or m.timestamp) := by
    rw [← Option.or_assoc, hstamp, Option.or_assoc, h.timestamp]
  exact hor

def Metric.taking (m : Metric) (contributions : List Contribution) : Metric :=
  contributions.foldl (fun m c ↦ c.onto (some m)) m

theorem Metric.Alike.taking (h : m.Alike m') (contributions : List Contribution) :
    (m.taking contributions).Alike (m'.taking contributions) := by
  induction contributions generalizing m m' with
  | nil => exact h
  | cons c rest ih => exact ih (h.onto c)

/-- Contributions to one series make the same of it in any order. -/
theorem Metric.Alike.taking_of_perm (h : m.Alike m') (hp : contributions.Perm contributions')
    (hc : contributions.Pairwise Contribution.Apart) (hl : ∀ c ∈ contributions, c.labels = labels) :
    (m.taking contributions).Alike (m'.taking contributions') := by
  -- both metrics vary along the induction on the permutation, for they take what stands in front of the swapped pair
  induction hp generalizing m m' with
  | nil => exact h
  | cons c _ ih =>
    obtain ⟨-, hrest⟩ := List.pairwise_cons.mp hc
    exact ih (h.onto c) hrest fun d hd ↦ hl d (List.mem_cons_of_mem c hd)
  | swap c d rest =>
    have hapart : d.Apart c := (List.pairwise_cons.mp hc).1 c List.mem_cons_self
    have hlabels : d.labels = c.labels :=
      (hl d List.mem_cons_self).trans (hl c (List.mem_cons_of_mem d List.mem_cons_self)).symm
    exact (h.swap hapart hlabels).taking rest
  | trans hp _ ih ih' =>
    have hc' := (hp.pairwise_iff fun h ↦ h.symm).mp hc
    exact (ih h hc hl).trans (ih' h.right hc' fun c hmem ↦ hl c (hp.symm.subset hmem))

def Metric.fresh (labels : List Label) : Metric := ⟨labels, none, .histogram .zero .zero []⟩

def MetricData.buckets : MetricData → List Bucket
  | histogram _ _ buckets => buckets
  | _ => []

def Contribution.bucket? (c : Contribution) : Option Bucket :=
  match c.part with
  | .bucket number => some ⟨number, c.value⟩
  | _ => none

structure FeedsHistogram (labels : List Label) (contributions : List Contribution) : Prop where
  kind : ∀ c ∈ contributions, c.kind = .histogram
  labels : ∀ c ∈ contributions, c.labels = labels

theorem foldl_onto_some (contributions : List Contribution) (m : Metric) :
    contributions.foldl (fun prior c ↦ some (c.onto prior)) (some m) = some (m.taking contributions) := by
  induction contributions generalizing m with
  | nil => rfl
  | cons c rest ih => exact ih (c.onto (some m))

theorem FeedsHistogram.replay_eq (h : FeedsHistogram labels contributions) (hne : contributions ≠ []) :
    replay contributions = some ((Metric.fresh labels).taking contributions) := by
  obtain ⟨opener, rest, rfl⟩ := List.exists_cons_of_ne_nil hne
  have hopen : opener.onto none = opener.onto (some (.fresh labels)) := by
    rw [Contribution.onto, Option.getD_none, h.kind opener List.mem_cons_self, h.labels opener List.mem_cons_self]
    rfl
  rw [replay, List.foldl_cons, hopen, foldl_onto_some]
  rfl

theorem FeedsHistogram.alike_replay (h : FeedsHistogram labels contributions) (hp : contributions.Perm contributions')
    (hc : contributions.Pairwise Contribution.Apart) :
    Option.Rel Metric.Alike (replay contributions) (replay contributions') := by
  by_cases hne : contributions = []
  · subst hne
    obtain rfl := hp.nil_eq
    exact .none
  · have h' : FeedsHistogram labels contributions' :=
      ⟨fun c hmem ↦ h.kind c (hp.symm.subset hmem), fun c hmem ↦ h.labels c (hp.symm.subset hmem)⟩
    have hne' : contributions' ≠ [] := fun he ↦ hne (he ▸ hp).eq_nil
    have hfresh : (Metric.fresh labels).Alike (.fresh labels) := ⟨rfl, rfl, .histogram _ _ (.refl _)⟩
    rw [h.replay_eq hne, h'.replay_eq hne']
    exact .some (hfresh.taking_of_perm hp hc h.labels)

theorem buckets_onto {count sum : Binary64} {buckets : List Bucket} (hm : m.data = .histogram count sum buckets)
    (c : Contribution) :
    ∃ count' sum', (c.onto (some m)).data = .histogram count' sum' (buckets ++ c.bucket?.toList) := by
  have hdata : (c.onto (some m)).data = c.part.change c.value (.histogram count sum buckets) := by rw [← hm]; rfl
  rw [hdata, Contribution.bucket?]
  cases c.part with
  | scalar | quantile => exact ⟨count, sum, by rw [Option.toList_none, List.append_nil]; rfl⟩
  | bucket number => exact ⟨count, sum, rfl⟩
  | sum => exact ⟨count, c.value, by rw [Option.toList_none, List.append_nil]; rfl⟩
  | count => exact ⟨c.value, sum, by rw [Option.toList_none, List.append_nil]; rfl⟩

theorem buckets_taking {count sum : Binary64} {buckets : List Bucket} (hm : m.data = .histogram count sum buckets)
    (contributions : List Contribution) :
    (m.taking contributions).data.buckets = buckets ++ contributions.filterMap Contribution.bucket? := by
  induction contributions generalizing m count sum buckets with
  | nil =>
    rw [Metric.taking, List.foldl_nil, hm, List.filterMap_nil, List.append_nil]
    rfl
  | cons c rest ih =>
    obtain ⟨count', sum', hdata⟩ := buckets_onto hm c
    have hcons : m.taking (c :: rest) = (c.onto (some m)).taking rest := rfl
    rw [hcons, ih hdata, List.filterMap_cons, List.append_assoc]
    cases c.bucket? <;> rfl

/-- The bounds of the buckets differ, since the parts of a series do. -/
theorem FeedsHistogram.nodup_bounds (h : FeedsHistogram labels contributions)
    (hc : contributions.Pairwise Contribution.Apart) (hm : replay contributions = some m) :
    (m.data.buckets.map Bucket.upperBound).Nodup := by
  have hne : contributions ≠ [] := by
    rintro rfl
    cases hm
  rw [h.replay_eq hne] at hm
  obtain rfl := Option.some.inj hm
  rw [buckets_taking rfl, List.nil_append, List.Nodup, List.pairwise_map, List.pairwise_filterMap]
  refine hc.imp_of_mem fun {c d} hcm hdm hapart b hb b' hb' he ↦ ?_
  have hl : c.labels = d.labels := (h.labels c hcm).trans (h.labels d hdm).symm
  refine (hapart hl).1 ?_
  unfold Contribution.bucket? at hb hb'
  split at hb
  · next number hpart =>
    cases hb
    split at hb'
    · next number' hpart' =>
      cases hb'
      rw [hpart, hpart', show number = number' from he]
    · cases hb'
  · cases hb

end MetricRelay.Exposition
