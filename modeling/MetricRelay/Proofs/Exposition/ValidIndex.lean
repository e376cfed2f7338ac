import MetricRelay.Proofs.Exposition.Grouping
import MetricRelay.Proofs.Exposition.Keeping
import MetricRelay.Proofs.Insertions

namespace MetricRelay.Exposition

def SortedByName (labels : List Label) : Prop := labels.Pairwise fun a b ↦ a.1 ≤ b.1

variable {labels others : List Label} {name : String}

theorem sublist_of_takeLabel? {text : String} (h : takeLabel? name labels = some (text, others)) :
    others.Sublist labels := by
  induction labels generalizing others with
  | nil => cases h
  | cons label rest ih =>
    rw [takeLabel?] at h
    split at h
    · cases h
      exact List.sublist_cons_self _ _
    · obtain ⟨⟨found, behind⟩, htake, he⟩ := Option.map_eq_some_iff.mp h
      cases he
      exact (ih htake).cons_cons _

theorem sublist_of_takeNumber? {number : Binary64} (h : takeNumber? name labels = some (number, others)) :
    others.Sublist labels := by
  rw [takeNumber?] at h
  split at h
  · next htake =>
    apply sublist_of_takeLabel?
    split at h
    · split at h <;> cases h
      exact htake
    · cases h
  · cases h

theorem sublist_of_part? {role : SampleRole} {part : Part} (h : role.part? labels = some (part, others)) :
    others.Sublist labels := by
  cases role with
  | scalar | sum | count =>
    cases h
    exact List.Sublist.refl _
  | quantile | bucket =>
    obtain ⟨⟨number, behind⟩, htake, he⟩ := Option.map_eq_some_iff.mp h
    cases he
    exact sublist_of_takeNumber? htake

theorem sorted_of_contribution? {families : Families} {line : List Char} {c : Contribution}
    (h : families.contribution? line = some c) : SortedByName c.labels := by
  simp only [Families.contribution?, Option.bind_eq_bind, Option.bind_eq_some_iff] at h
  obtain ⟨sample, -, value, -, timestamp, -, ⟨family, role⟩, -, ⟨part, others⟩, hpart, h⟩ := h
  cases h
  exact (pairwise_sortLabels sample.labels).sublist (sublist_of_part? hpart)

namespace FamilyState

variable {state : FamilyState} {timestamp : Option Int64}

def IsSorted (state : FamilyState) : Prop := ∀ m ∈ state.metrics, SortedByName m.labels

theorem IsSorted.openSeries (h : state.IsSorted) (hl : SortedByName labels) : (state.openSeries labels).1.IsSorted := by
  unfold FamilyState.openSeries
  split
  · exact h
  · intro m hm
    rcases Array.mem_push.mp hm with hm | rfl
    · exact h m hm
    · exact hl

theorem IsSorted.updateSeries (h : state.IsSorted) (hl : SortedByName labels) (change : MetricData → MetricData) :
    (state.updateSeries labels timestamp change).IsSorted := by
  have hopen := h.openSeries hl
  intro m hm
  obtain ⟨place, hplace⟩ := Array.mem_iff_getElem?.mp hm
  unfold FamilyState.updateSeries at hplace
  dsimp only at hplace
  rw [Array.getElem?_modify] at hplace
  split at hplace
  · obtain ⟨m', hm', rfl⟩ := Option.map_eq_some_iff.mp hplace
    exact hopen m' (Array.mem_of_getElem? hm')
  · exact hopen m (Array.mem_of_getElem? hplace)

theorem IsSorted.take (h : state.IsSorted) {c : Contribution} (hl : SortedByName c.labels) :
    (state.take c).IsSorted := by
  by_cases hc : c.part = .scalar
  · rw [take_of_scalar hc]
    intro m hm
    rcases Array.mem_push.mp hm with hm | rfl
    · exact h m hm
    · exact hl
  · rw [take_of_ne_scalar hc]
    exact h.updateSeries hl _

end FamilyState

namespace Families

variable {families next : Families}

def IsSorted (families : Families) : Prop := ∀ name, (families.stateOf name).IsSorted

theorem IsSorted.change (h : families.IsSorted) {f : FamilyState → FamilyState}
    (hf : ∀ state : FamilyState, state.IsSorted → (f state).IsSorted) : (families.change name f).IsSorted := by
  intro other
  rw [stateOf_change]
  split
  · exact hf _ (h name)
  · exact h other

theorem IsSorted.readLine (h : families.IsSorted) {line : List Char} (hr : families.readLine line = .ok next) :
    next.IsSorted := by
  by_cases hs : isSample line = true
  · obtain ⟨c, hc, rfl⟩ := readLine_of_isSample hs hr
    exact h.change fun state hstate ↦ hstate.take (sorted_of_contribution? hc)
  · rcases readLine_of_not_isSample (Bool.eq_false_iff.mpr hs) hr with rfl | ⟨name, f, rfl, hf⟩
    · exact h
    · apply h.change
      intro state hstate
      unfold FamilyState.IsSorted
      rw [(hf state).1]
      exact hstate

theorem isSorted_empty : IsSorted .empty := by
  intro name m hm
  cases Array.not_mem_empty m hm

end Families

/-- What the reader relies on: each entry of the index leads to a summary or a histogram of exactly its labels, no two
lead to the same one, and no summary or histogram is missing. -/
structure FamilyState.IndexIsValid (state : FamilyState) : Prop where
  lt_size : ∀ entry ∈ state.groups.entries, entry.2 < state.metrics.size
  metric : ∀ entry ∈ state.groups.entries, ∃ m, state.metrics[entry.2]? = some m ∧ m.labels = entry.1 ∧
    m.data.isGrouped = true
  injective : ∀ entry ∈ state.groups.entries, ∀ other ∈ state.groups.entries, entry.2 = other.2 → entry.1 = other.1
  indexed : ∀ place m, state.metrics[place]? = some m → m.data.isGrouped = true →
    (m.labels, place) ∈ state.groups.entries
  sorted : ∀ m ∈ state.metrics, SortedByName m.labels

variable {state : FamilyState}

theorem FamilyState.Indexed.isValid (h : state.Indexed) (hs : state.IsSorted) : state.IndexIsValid := by
  refine ⟨fun entry he ↦ ?_, fun entry he ↦ ?_, fun entry he other ho hplace ↦ ?_, fun place m hm hg ↦ ?_, hs⟩
  · exact h.lt_size (OrderedMap.get?_eq_some_iff.mpr he)
  · obtain ⟨m, hm, hseries⟩ := h.metric (OrderedMap.get?_eq_some_iff.mpr he)
    obtain ⟨hgrouped, hlabels⟩ := Metric.isSeriesOf_iff.mp hseries
    exact ⟨m, hm, hlabels, hgrouped⟩
  · apply h.eq_of_place (OrderedMap.get?_eq_some_iff.mpr he)
    rw [hplace]
    exact OrderedMap.get?_eq_some_iff.mpr ho
  · exact OrderedMap.get?_eq_some_iff.mp (h.place hm (Metric.isSeriesOf_iff.mpr ⟨hg, rfl⟩))

theorem FamilyState.Indexed.exists_opened (h : state.Indexed) (labels : List Label) :
    ∃ m, (state.openSeries labels).1.metrics[(state.openSeries labels).2]? = some m ∧ m.labels = labels ∧
      m.data.isGrouped = true := by
  have hopen : state.Opens labels _ _ := opens_openSeries h
  obtain ⟨m, hm, hseries⟩ := hopen.indexed.metric hopen.place
  obtain ⟨hgrouped, hlabels⟩ := Metric.isSeriesOf_iff.mp hseries
  exact ⟨m, hm, hlabels, hgrouped⟩

/-- Behind any lines, the ones that change the kind of a family between its samples among them, the index of every
family is valid. So a sample always finds the metric of its series, a metric that is no scalar, and no two summaries or
histograms of a family have the same labels. -/
theorem readLines_index {lines : List (List Char)} {families : Families}
    (h : Families.readLines .empty 1 lines = .ok families) :
    (∀ entry ∈ families.entries, entry.2.IndexIsValid) ∧
    (∀ name labels, ∃ m,
      let opened := (families.stateOf name).openSeries labels
      opened.1.metrics[opened.2]? = some m ∧ m.labels = labels ∧ m.data.isGrouped = true) ∧
    ∀ f ∈ families.toList, ((f.metrics.filter fun m ↦ m.data.isGrouped).map Metric.labels).Nodup := by
  have hindexed (name : String) : (families.stateOf name).Indexed := (Families.keeps_empty.readLines h).indexed name
  have hsorted : families.IsSorted := Families.invariant_of_readLines (P := Families.IsSorted)
    (fun hs hl ↦ hs.readLine hl) Families.isSorted_empty h
  have hstate : ∀ entry ∈ families.entries, families.stateOf entry.1 = entry.2 := by
    intro entry he
    rw [Families.stateOf, OrderedMap.get?_eq_some_iff.mpr he, Option.getD_some]
  refine ⟨fun entry he ↦ ?_, fun name labels ↦ (hindexed name).exists_opened labels, fun f hf ↦ ?_⟩
  · rw [← hstate entry he]
    exact (hindexed entry.1).isValid (hsorted entry.1)
  · obtain ⟨entry, he, rfl⟩ := List.mem_map.mp hf
    have hentry := hindexed entry.1
    rw [hstate entry he] at hentry
    exact hentry.nodup_labels

/-- A family that is a summary, then of no type, then a histogram: its scalar stands between two series. -/
theorem readLines_index_retyped :
    let lines := Text.lines ("# TYPE f summary\nf_sum 1\n# TYPE f untyped\nf 2\n# TYPE f histogram\n" ++
      "f_count\x7ba=\"x\"\x7d 3\nf_sum 4\n").toList
    ∃ families, Families.readLines .empty 1 lines = .ok families ∧ ∃ state, ("f", state) ∈ families.entries ∧
      state.groups.entries = [([], 0), ([("a", "x")], 2)] ∧ state.IndexIsValid := by
  intro lines
  have hview : (Families.readLines .empty 1 lines).map (fun families ↦
      (families.get? "f").map fun state ↦ state.groups.entries) =
      .ok (some [([], 0), ([("a", "x")], 2)]) := by decide +kernel
  cases hr : Families.readLines .empty 1 lines with
  | error e =>
    rw [hr] at hview
    cases hview
  | ok families =>
    rw [hr] at hview
    obtain ⟨state, hstate, hgroups⟩ := Option.map_eq_some_iff.mp (Except.ok.inj hview)
    have hmem := OrderedMap.get?_eq_some_iff.mp hstate
    exact ⟨families, rfl, state, hmem, hgroups, (readLines_index hr).1 _ hmem⟩

end MetricRelay.Exposition
