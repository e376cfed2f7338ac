import MetricRelay.Exposition.Reader

namespace MetricRelay.Exposition

def MetricData.isGrouped : MetricData → Bool
  | .scalar _ => false
  | .summary .. => true
  | .histogram .. => true

def Metric.isSeriesOf (labels : List Label) (m : Metric) : Bool := m.data.isGrouped && decide (m.labels = labels)

theorem Metric.isSeriesOf_iff {labels : List Label} {m : Metric} :
    m.isSeriesOf labels ↔ m.data.isGrouped = true ∧ m.labels = labels := by
  simp [isSeriesOf]

theorem filter_eq_singleton {α : Type} {p : α → Bool} {l : List α} {a : α} {i : Nat} (ha : l[i]? = some a) (hp : p a)
    (hu : ∀ j b, l[j]? = some b → p b → j = i) : l.filter p = [a] := by
  induction l generalizing i with
  | nil => simp at ha
  | cons b l ih =>
    cases i with
    | zero =>
      obtain rfl : b = a := by simpa using ha
      have hrest : l.filter p = [] := by
        refine List.filter_eq_nil_iff.mpr fun c hc hpc ↦ ?_
        obtain ⟨j, hj⟩ := List.mem_iff_getElem?.mp hc
        cases hu (j + 1) c (by simpa using hj) hpc
      rw [List.filter_cons_of_pos hp, hrest]
    | succ i =>
      have hb : ¬p b := fun hpb ↦ by cases hu 0 b rfl hpb
      rw [List.filter_cons_of_neg hb]
      refine ih (by simpa using ha) fun j c hc hpc ↦ ?_
      exact Nat.succ.inj (hu (j + 1) c (by simpa using hc) hpc)

namespace FamilyState

variable {state : FamilyState} {labels : List Label} {timestamp : Option Int64} {place : Nat}

def series? (state : FamilyState) (labels : List Label) : Option Metric :=
  (state.groups.get? labels).bind fun place ↦ state.metrics[place]?

/-- The index leads to the metrics that are grouped, each under its own labels, and to no others. -/
structure Indexed (state : FamilyState) : Prop where
  metric : ∀ {labels place}, state.groups.get? labels = some place →
    ∃ m, state.metrics[place]? = some m ∧ m.isSeriesOf labels
  place : ∀ {labels place m}, state.metrics[place]? = some m → m.isSeriesOf labels →
    state.groups.get? labels = some place

theorem indexed_new : Indexed {} := by
  refine ⟨fun h ↦ ?_, fun h ↦ ?_⟩
  · cases h
  · simp at h

theorem Indexed.lt_size (h : state.Indexed) (hp : state.groups.get? labels = some place) :
    place < state.metrics.size := by
  obtain ⟨m, hm, -⟩ := h.metric hp
  exact (Array.getElem?_eq_some_iff.mp hm).1

theorem Indexed.getElem?_push (h : state.Indexed) (hp : state.groups.get? labels = some place) (m : Metric) :
    (state.metrics.push m)[place]? = state.metrics[place]? := by
  rw [Array.getElem?_push, if_neg (Nat.ne_of_lt (h.lt_size hp))]

theorem Indexed.eq_of_place (h : state.Indexed) {other : List Label} (hl : state.groups.get? labels = some place)
    (ho : state.groups.get? other = some place) : labels = other := by
  obtain ⟨m, hm, hs⟩ := h.metric hl
  obtain ⟨m', hm', hs'⟩ := h.metric ho
  obtain rfl := Option.some.inj (hm.symm.trans hm')
  exact (Metric.isSeriesOf_iff.mp hs).2.symm.trans (Metric.isSeriesOf_iff.mp hs').2

theorem series?_of_place (hp : state.groups.get? labels = some place) : state.series? labels = state.metrics[place]? := by
  rw [series?, hp, Option.bind_some]

theorem series?_of_none (hn : state.groups.get? labels = none) : state.series? labels = none := by
  rw [series?, hn, Option.bind_none]

theorem isGrouped_emptyData (state : FamilyState) : state.emptyData.isGrouped = true := by
  unfold emptyData
  split <;> rfl

theorem Indexed.addScalar (h : state.Indexed) (value : Binary64) : (state.addScalar labels timestamp value).Indexed := by
  refine ⟨fun {other place} hp ↦ ?_, fun {other place m} hm hs ↦ ?_⟩
  · obtain ⟨m, hm, hs⟩ := h.metric hp
    exact ⟨m, (h.getElem?_push hp _).trans hm, hs⟩
  · unfold FamilyState.addScalar at hm
    rw [Array.getElem?_push] at hm
    split at hm
    · obtain rfl := Option.some.inj hm
      cases hs
    · exact h.place hm hs

theorem series?_addScalar (h : state.Indexed) (value : Binary64) (other : List Label) :
    (state.addScalar labels timestamp value).series? other = state.series? other := by
  have hgroups : (state.addScalar labels timestamp value).groups = state.groups := rfl
  cases hp : state.groups.get? other with
  | none => rw [series?_of_none hp, series?_of_none (hgroups ▸ hp)]
  | some place =>
    rw [series?_of_place hp, series?_of_place (hgroups ▸ hp)]
    exact h.getElem?_push hp _

/-- What opening a series comes to: it has a place, and nothing else is changed. -/
structure Opens (state : FamilyState) (labels : List Label) (opened : FamilyState) (place : Nat) : Prop where
  indexed : opened.Indexed
  place : opened.groups.get? labels = some place
  series : opened.series? labels = some ((state.series? labels).getD ⟨labels, none, state.emptyData⟩)
  others : ∀ other, labels ≠ other → opened.series? other = state.series? other
  metrics : opened.metrics = state.metrics ∨
    state.series? labels = none ∧ opened.metrics = state.metrics.push ⟨labels, none, state.emptyData⟩

theorem opens_openSeries (h : state.Indexed) :
    state.Opens labels (state.openSeries labels).1 (state.openSeries labels).2 := by
  cases hp : state.groups.get? labels with
  | some place =>
    have hopen : state.openSeries labels = (state, place) := by rw [openSeries, hp]
    obtain ⟨m, hm, -⟩ := h.metric hp
    rw [hopen]
    refine ⟨h, hp, ?_, fun _ _ ↦ rfl, .inl rfl⟩
    rw [series?_of_place hp, hm, Option.getD_some]
  | none =>
    let opened : FamilyState := { state with
      groups := state.groups.insert labels state.metrics.size
      metrics := state.metrics.push ⟨labels, none, state.emptyData⟩ }
    have hopen : state.openSeries labels = (opened, state.metrics.size) := by rw [openSeries, hp]
    have hget (other : List Label) :
        opened.groups.get? other = if labels = other then some state.metrics.size else state.groups.get? other :=
      OrderedMap.get?_insert _ _ _ _
    have hmetric (place : Nat) : opened.metrics[place]? =
        if place = state.metrics.size then some ⟨labels, none, state.emptyData⟩ else state.metrics[place]? :=
      Array.getElem?_push
    have hplace : opened.groups.get? labels = some state.metrics.size := by rw [hget, if_pos rfl]
    rw [hopen]
    refine ⟨⟨fun {other place} ho ↦ ?_, fun {other place m} hm hs ↦ ?_⟩, hplace, ?_, fun other ho ↦ ?_,
      .inr ⟨series?_of_none hp, rfl⟩⟩
    · rw [hget] at ho
      split at ho
      · next he =>
        obtain rfl := Option.some.inj ho
        refine ⟨_, by rw [hmetric, if_pos rfl], Metric.isSeriesOf_iff.mpr ⟨isGrouped_emptyData state, he⟩⟩
      · obtain ⟨m, hm, hs⟩ := h.metric ho
        exact ⟨m, (h.getElem?_push ho _).trans hm, hs⟩
    · rw [hmetric] at hm
      split at hm
      · next he =>
        obtain rfl := Option.some.inj hm
        rw [hget, if_pos (Metric.isSeriesOf_iff.mp hs).2, he]
      · have ho := h.place hm hs
        rw [hget, if_neg, ho]
        rintro rfl
        rw [hp] at ho
        cases ho
    · rw [series?_of_place hplace, hmetric, if_pos rfl, series?_of_none hp, Option.getD_none]
    · have hother : opened.groups.get? other = state.groups.get? other := by rw [hget, if_neg ho]
      cases hq : state.groups.get? other with
      | none => rw [series?_of_none hq, series?_of_none (hother.trans hq)]
      | some place =>
        rw [series?_of_place hq, series?_of_place (hother.trans hq)]
        exact h.getElem?_push hq _

variable {g : Metric → Metric}

theorem Indexed.modify (h : state.Indexed) (place : Nat) (hg : ∀ labels m, (g m).isSeriesOf labels = m.isSeriesOf labels) :
    Indexed { state with metrics := state.metrics.modify place g } := by
  refine ⟨fun {labels i} hi ↦ ?_, fun {labels i m} hm hs ↦ ?_⟩
  · obtain ⟨m, hm, hs⟩ := h.metric hi
    dsimp only
    rw [Array.getElem?_modify, hm]
    split
    · exact ⟨g m, rfl, (hg labels m).trans hs⟩
    · exact ⟨m, rfl, hs⟩
  · dsimp only at hm ⊢
    rw [Array.getElem?_modify] at hm
    split at hm
    · obtain ⟨m', hm', rfl⟩ := Option.map_eq_some_iff.mp hm
      exact h.place hm' ((hg labels m').symm.trans hs)
    · exact h.place hm hs

theorem series?_modify (h : state.Indexed) (hp : state.groups.get? labels = some place) (other : List Label) :
    FamilyState.series? { state with metrics := state.metrics.modify place g } other =
      if labels = other then (state.series? other).map g else state.series? other := by
  cases hq : state.groups.get? other with
  | none =>
    have hne : labels ≠ other := by
      rintro rfl
      rw [hp] at hq
      cases hq
    rw [if_neg hne, series?_of_none hq]
    exact series?_of_none hq
  | some i =>
    have hseries : FamilyState.series? { state with metrics := state.metrics.modify place g } other =
        (state.metrics.modify place g)[i]? := series?_of_place hq
    rw [hseries, series?_of_place hq, Array.getElem?_modify]
    by_cases hl : labels = other
    · subst hl
      obtain rfl := Option.some.inj (hp.symm.trans hq)
      rw [if_pos rfl, if_pos rfl]
    · rw [if_neg hl, if_neg]
      rintro rfl
      exact hl (h.eq_of_place hp hq)

def updated (timestamp : Option Int64) (change : MetricData → MetricData) (m : Metric) : Metric :=
  { m with timestamp := timestamp.or m.timestamp, data := change m.data }

variable {change : MetricData → MetricData}

theorem Indexed.updateSeries (h : state.Indexed) (hc : ∀ data, (change data).isGrouped = data.isGrouped) :
    (state.updateSeries labels timestamp change).Indexed := by
  refine (opens_openSeries h).indexed.modify _ fun other m ↦ ?_
  simp only [Metric.isSeriesOf, hc]

theorem series?_updateSeries (h : state.Indexed) (other : List Label) :
    (state.updateSeries labels timestamp change).series? other =
      if labels = other then
        some (updated timestamp change ((state.series? labels).getD ⟨labels, none, state.emptyData⟩))
      else state.series? other := by
  have hopen : state.Opens labels _ _ := opens_openSeries h
  have hmodify := series?_modify (g := updated timestamp change) hopen.indexed hopen.place other
  refine Eq.trans hmodify ?_
  split
  · next he =>
    subst he
    rw [hopen.series, Option.map_some]
  · next hne => exact hopen.others other hne

theorem Indexed.filter_metrics (h : state.Indexed) {m : Metric} (hs : state.series? labels = some m) :
    state.metrics.toList.filter (Metric.isSeriesOf labels) = [m] := by
  obtain ⟨place, hp, hm⟩ := Option.bind_eq_some_iff.mp hs
  obtain ⟨m', hm', hseries⟩ := h.metric hp
  obtain rfl := Option.some.inj (hm'.symm.trans hm)
  refine filter_eq_singleton (i := place) ?_ hseries fun j b hj hb ↦ ?_
  · rwa [Array.getElem?_toList]
  · rw [Array.getElem?_toList] at hj
    exact Option.some.inj ((h.place hj hb).symm.trans hp)

theorem Indexed.nodup_labels (h : state.Indexed) :
    ((state.metrics.toList.filter fun m ↦ m.data.isGrouped).map Metric.labels).Nodup := by
  rw [List.Nodup, List.pairwise_map, List.pairwise_filter, List.pairwise_iff_getElem]
  intro i j hi hj hij hgrouped hgrouped' he
  rw [Array.length_toList] at hi hj
  rw [Array.getElem_toList] at hgrouped hgrouped' he
  have hplace := h.place (Array.getElem?_eq_getElem hi) (Metric.isSeriesOf_iff.mpr ⟨hgrouped, he⟩)
  have hplace' := h.place (Array.getElem?_eq_getElem hj) (Metric.isSeriesOf_iff.mpr ⟨hgrouped', rfl⟩)
  exact absurd (Option.some.inj (hplace.symm.trans hplace')) (Nat.ne_of_lt hij)

end FamilyState
end MetricRelay.Exposition
