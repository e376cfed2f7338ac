import MetricRelay.Proofs.Exposition.Contributions
import MetricRelay.Proofs.Exposition.Index

namespace MetricRelay.Exposition

/-- A value in the families that an exposition says, other than the sum and the count of a series. -/
structure Point where
  family : String
  labels : List Label
  part : Part
  value : Binary64
deriving DecidableEq, Repr

def MetricData.parts : MetricData → List (Part × Binary64)
  | scalar value => [(.scalar, value)]
  | summary _ _ quantiles => quantiles.map fun q ↦ (.quantile q.quantile, q.value)
  | histogram _ _ buckets => buckets.map fun b ↦ (.bucket b.upperBound, b.cumulativeCount)

def Metric.points (family : String) (m : Metric) : List Point :=
  m.data.parts.map fun (part, value) ↦ ⟨family, m.labels, part, value⟩

def Family.points (f : Family) : List Point := f.metrics.flatMap (Metric.points f.name)

def MetricData.tally? : Part → MetricData → Option Binary64
  | .sum, summary _ sum _ => some sum
  | .sum, histogram _ sum _ => some sum
  | .count, summary count _ _ => some count
  | .count, histogram count _ _ => some count
  | _, _ => none

def Contribution.point (c : Contribution) : Point := ⟨c.family, c.labels, c.part, c.value⟩

def Contribution.feeds (family : String) (labels : List Label) (c : Contribution) : Bool :=
  decide (c.part ≠ .scalar ∧ c.family = family ∧ c.labels = labels)

theorem Contribution.feeds_self {c : Contribution} (hc : c.part ≠ .scalar) : c.feeds c.family c.labels = true :=
  decide_eq_true ⟨hc, rfl, rfl⟩

theorem isGrouped_change (part : Part) (value : Binary64) (data : MetricData) :
    (part.change value data).isGrouped = data.isGrouped := by
  cases part <;> cases data <;> rfl

theorem tally?_change {part : Part} (hp : part.isPoint = false) {other : Part} (value : Binary64) {data : MetricData}
    (hd : data.isGrouped = true) :
    (other.change value data).tally? part = if other = part then some value else data.tally? part := by
  cases data with
  | scalar => cases hd
  | summary | histogram => cases part <;> cases other <;> first | rfl | cases hp

/-- What a contribution makes of its series, which it opens if there is none. -/
def Contribution.onto (c : Contribution) (prior : Option Metric) : Metric :=
  FamilyState.updated c.timestamp (c.part.change c.value)
    (prior.getD ⟨c.labels, none, FamilyState.emptyData { kind := c.kind }⟩)

def replay (contributions : List Contribution) : Option Metric :=
  contributions.foldl (fun prior c ↦ some (c.onto prior)) none

theorem replay_concat (contributions : List Contribution) (c : Contribution) :
    replay (contributions ++ [c]) = some (c.onto (replay contributions)) := by
  rw [replay, List.foldl_append]
  rfl

theorem foldl_onto {P : Metric → Prop} {m : Metric} (hm : P m) (contributions : List Contribution)
    (h : ∀ c ∈ contributions, ∀ m, P m → P (c.onto (some m))) :
    ∃ m', contributions.foldl (fun prior c ↦ some (c.onto prior)) (some m) = some m' ∧ P m' := by
  induction contributions generalizing m with
  | nil => exact ⟨m, rfl, hm⟩
  | cons c rest ih =>
    have hrest : ∀ d ∈ rest, ∀ m, P m → P (d.onto (some m)) := fun d hd ↦ h d (List.mem_cons_of_mem c hd)
    exact ih (h c List.mem_cons_self m hm) hrest

def MetricData.isSummary : MetricData → Bool
  | .summary .. => true
  | _ => false

theorem isSummary_change (part : Part) (value : Binary64) (data : MetricData) :
    (part.change value data).isSummary = data.isSummary := by
  cases part <;> cases data <;> rfl

theorem isSummary_emptyData (state : FamilyState) : state.emptyData.isSummary = decide (state.kind = .summary) := by
  unfold FamilyState.emptyData
  cases state.kind <;> rfl

/-- A series holds the data of the kind under which it was opened. -/
theorem exists_replay (opener : Contribution) (rest : List Contribution) :
    ∃ m, replay (opener :: rest) = some m ∧ m.data.isGrouped = true ∧
      m.data.isSummary = decide (opener.kind = .summary) := by
  let P (m : Metric) : Prop := m.data.isGrouped = true ∧ m.data.isSummary = decide (opener.kind = .summary)
  have hopen : P (opener.onto none) :=
    ⟨(isGrouped_change _ _ _).trans (FamilyState.isGrouped_emptyData _),
      (isSummary_change _ _ _).trans (isSummary_emptyData _)⟩
  refine foldl_onto hopen rest fun c _ m hm ↦ ?_
  exact ⟨(isGrouped_change _ _ _).trans hm.1, (isSummary_change _ _ _).trans hm.2⟩

/-- The last contribution to the sum of a series is its sum, and likewise for the count. -/
theorem tally?_replay (before : List Contribution) {after : List Contribution} {c : Contribution}
    (hc : c.part.isPoint = false) (hafter : ∀ d ∈ after, d.part ≠ c.part) :
    ∃ m, replay (before ++ c :: after) = some m ∧ m.data.tally? c.part = some c.value := by
  have hprior : ((replay before).getD ⟨c.labels, none, FamilyState.emptyData { kind := c.kind }⟩).data.isGrouped := by
    cases before with
    | nil => exact FamilyState.isGrouped_emptyData _
    | cons opener rest =>
      obtain ⟨m, hm, hg, -⟩ := exists_replay opener rest
      rw [hm]
      exact hg
  let P (m : Metric) : Prop := m.data.isGrouped = true ∧ m.data.tally? c.part = some c.value
  have hm : P (c.onto (replay before)) := by
    refine ⟨(isGrouped_change _ _ _).trans hprior, (tally?_change hc _ hprior).trans ?_⟩
    rw [if_pos rfl]
  obtain ⟨m, hr, hP⟩ := foldl_onto hm after fun d hd m hm ↦ by
    refine ⟨(isGrouped_change _ _ _).trans hm.1, (tally?_change hc _ hm.1).trans ?_⟩
    rw [if_neg (hafter d hd), hm.2]
  refine ⟨m, ?_, hP.2⟩
  rw [replay, List.foldl_append]
  exact hr

theorem parts_change {kind : MetricKind} {part : Part} (hf : part.Fits kind) (hp : part ≠ .scalar) (value : Binary64)
    {data : MetricData} (hd : data.isGrouped = true) :
    (part.change value data).parts = data.parts ++
      if part.isPoint = true ∧ data.isSummary = decide (kind = .summary) then [(part, value)] else [] := by
  cases data with
  | scalar => cases hd
  | summary | histogram =>
    cases part with
    | scalar => exact absurd rfl hp
    | quantile | bucket =>
      cases hf
      simp [Part.change, MetricData.addQuantile, MetricData.addBucket, MetricData.parts, MetricData.isSummary,
        Part.isPoint]
    | sum | count => exact (List.append_nil _).symm

theorem flatMap_modify_perm {α β : Type} {p : α → List β} {g : α → α} {extra : List β} {l : List α} {i : Nat} {a : α}
    (ha : l[i]? = some a) (h : (p (g a)).Perm (p a ++ extra)) :
    ((l.modify i g).flatMap p).Perm (l.flatMap p ++ extra) := by
  induction l generalizing i with
  | nil => simp at ha
  | cons b l ih =>
    cases i with
    | zero =>
      obtain rfl : b = a := by simpa using ha
      simp only [List.modify_zero_cons, List.flatMap_cons, List.append_assoc]
      refine (h.append_right _).trans ?_
      rw [List.append_assoc]
      exact List.perm_append_comm.append_left _
    | succ i =>
      simp only [List.modify_succ_cons, List.flatMap_cons, List.append_assoc]
      exact (ih (by simpa using ha)).append_left _

def FamilyState.points (name : String) (state : FamilyState) : List Point :=
  state.metrics.toList.flatMap (Metric.points name)

namespace FamilyState

variable {state : FamilyState} {c : Contribution}

theorem Indexed.take (h : state.Indexed) (c : Contribution) : (state.take c).Indexed := by
  unfold FamilyState.take
  split
  · exact h.addScalar _
  · exact h.updateSeries (isGrouped_change _ _)

theorem take_of_ne_scalar (hc : c.part ≠ .scalar) :
    state.take c = state.updateSeries c.labels c.timestamp (c.part.change c.value) := by
  unfold FamilyState.take
  split
  · next he => exact absurd he hc
  · rfl

theorem take_of_scalar (hc : c.part = .scalar) : state.take c = state.addScalar c.labels c.timestamp c.value := by
  unfold FamilyState.take
  rw [hc]

theorem Indexed.series?_take (h : state.Indexed) (hk : c.kind = state.kind) (labels : List Label) :
    (state.take c).series? labels =
      if c.part ≠ .scalar ∧ c.labels = labels then some (c.onto (state.series? labels)) else state.series? labels := by
  by_cases hc : c.part = .scalar
  · rw [take_of_scalar hc, series?_addScalar h, if_neg fun hn ↦ hn.1 hc]
  · rw [take_of_ne_scalar hc, series?_updateSeries h]
    by_cases hl : c.labels = labels
    · have hempty : state.emptyData = emptyData { kind := c.kind } := by rw [hk]; rfl
      subst hl
      rw [if_pos rfl, if_pos ⟨hc, rfl⟩, hempty]
      rfl
    · rw [if_neg hl, if_neg fun hn ↦ hl hn.2]

/-- The series of a contribution, if there is one, holds the data of its kind. -/
def suits (state : FamilyState) (c : Contribution) : Bool :=
  decide (c.part = .scalar) || (state.series? c.labels).all fun m ↦ m.data.isSummary = decide (c.kind = .summary)

theorem Indexed.points_take (h : state.Indexed) (hk : c.kind = state.kind) (hf : c.part.Fits c.kind) (name : String) :
    ((state.take c).points name).Perm
      (state.points name ++ if c.part.isPoint && state.suits c then [⟨name, c.labels, c.part, c.value⟩] else []) := by
  by_cases hc : c.part = .scalar
  · have hsuits : state.suits c = true := by rw [suits, decide_eq_true hc, Bool.true_or]
    have hpoint : (Part.scalar.isPoint && true) = true := rfl
    rw [take_of_scalar hc, hsuits, hc, if_pos hpoint]
    simp only [points, FamilyState.addScalar, Array.toList_push, List.flatMap_append, List.flatMap_singleton]
    exact .refl _
  -- opening a series adds no point, and the change of its metric adds the one of the contribution
  have hopen : state.Opens c.labels _ _ := opens_openSeries h
  generalize hprior : (state.series? c.labels).getD ⟨c.labels, none, state.emptyData⟩ = prior
  have hplace : (state.openSeries c.labels).1.metrics[(state.openSeries c.labels).2]? = some prior := by
    rw [← series?_of_place hopen.place, hopen.series, hprior]
  have hpoints : (state.openSeries c.labels).1.points name = state.points name := by
    rcases hopen.metrics with he | ⟨-, he⟩
    · rw [points, he, points]
    · rw [points, he, Array.toList_push, List.flatMap_append, List.flatMap_singleton, points]
      unfold emptyData
      split <;> exact List.append_nil _
  obtain ⟨m, hm, hseries⟩ := hopen.indexed.metric hopen.place
  obtain rfl := Option.some.inj (hm.symm.trans hplace)
  obtain ⟨hgrouped, hlabels⟩ := Metric.isSeriesOf_iff.mp hseries
  have hsuits : state.suits c = decide (m.data.isSummary = decide (c.kind = .summary)) := by
    rw [suits, decide_eq_false hc, Bool.false_or, ← hprior]
    cases state.series? c.labels with
    | none => simp [isSummary_emptyData, hk]
    | some m => rfl
  have hadd : ((updated c.timestamp (c.part.change c.value) m).points name).Perm
      (m.points name ++ if c.part.isPoint && state.suits c then [⟨name, c.labels, c.part, c.value⟩] else []) := by
    rw [Metric.points, updated, parts_change hf hc _ hgrouped, List.map_append, Metric.points, hlabels, hsuits]
    simp only [Bool.and_eq_true, decide_eq_true_eq]
    split <;> exact .refl _
  have hmodify := flatMap_modify_perm (p := Metric.points name) (Array.getElem?_toList ▸ hplace) hadd
  rw [take_of_ne_scalar hc, ← hpoints]
  unfold FamilyState.updateSeries points
  rw [Array.toList_modify]
  exact hmodify

end FamilyState

end MetricRelay.Exposition
