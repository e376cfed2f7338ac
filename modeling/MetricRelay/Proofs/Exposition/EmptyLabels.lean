import MetricRelay.Proofs.Exposition.Grouping
import MetricRelay.Proofs.Exposition.Samples

namespace MetricRelay.Exposition

def valued (labels : List Label) : List Label := labels.filter fun label ↦ label.2 ≠ ""

/-- The label has a value, or its name is the one that gives the sample its place. -/
def isTelling (own : Option String) (label : Label) : Bool := label.2 ≠ "" || own = some label.1

/-- The label without which a sample of this role has no part. -/
def SampleRole.ownLabel? : SampleRole → Option String
  | quantile => some quantileLabel
  | bucket => some boundLabel
  | scalar | sum | count => none

theorem sortLabels_cons (label : Label) (labels : List Label) :
    ∃ front back, sortLabels labels = front ++ back ∧ sortLabels (label :: labels) = front ++ label :: back ∧
      (∀ l ∈ front, l.1 < label.1) ∧ ∀ l ∈ back, label.1 ≤ l.1 := by
  obtain ⟨front, back, hcons, hrest, hfront⟩ := List.mergeSort_cons name_le_trans name_le_total label labels
  refine ⟨front, back, hrest, hcons, fun l hl ↦ ?_, fun l hl ↦ ?_⟩
  · have hnot : ¬label.1 ≤ l.1 := by simpa using hfront l hl
    exact String.not_le.mp hnot
  · have hsorted : (front ++ label :: back).Pairwise fun a b ↦ a.1 ≤ b.1 := by
      have h := pairwise_sortLabels (label :: labels)
      rwa [sortLabels, hcons] at h
    exact (List.pairwise_cons.mp (List.pairwise_append.mp hsorted).2.1).1 l hl

theorem append_unique {name : String} {front back front' back' : List Label} (h : front ++ back = front' ++ back')
    (hfront : ∀ l ∈ front, l.1 < name) (hback : ∀ l ∈ back, name ≤ l.1) (hfront' : ∀ l ∈ front', l.1 < name)
    (hback' : ∀ l ∈ back', name ≤ l.1) : front = front' ∧ back = back' := by
  have hfilter {front back : List Label} (hf : ∀ l ∈ front, l.1 < name) (hb : ∀ l ∈ back, name ≤ l.1) :
      (front ++ back).filter (fun l ↦ decide (l.1 < name)) = front := by
    have hnone : back.filter (fun l ↦ decide (l.1 < name)) = [] := by
      refine List.filter_eq_nil_iff.mpr fun l hl ↦ ?_
      rw [decide_eq_true_eq]
      exact String.not_lt.mpr (hb l hl)
    rw [List.filter_append, hnone, List.append_nil, List.filter_eq_self.mpr fun l hl ↦ decide_eq_true (hf l hl)]
  have hfronts : front = front' := by rw [← hfilter hfront hback, h, hfilter hfront' hback']
  subst hfronts
  exact ⟨rfl, List.append_cancel_left h⟩

theorem filter_sortLabels (p : Label → Bool) (labels : List Label) :
    (sortLabels labels).filter p = sortLabels (labels.filter p) := by
  induction labels with
  | nil => simp [sortLabels]
  | cons label labels ih =>
    obtain ⟨front, back, hrest, hcons, hfront, hback⟩ := sortLabels_cons label labels
    rw [hrest, List.filter_append] at ih
    rw [hcons, List.filter_append]
    by_cases hp : p label
    · obtain ⟨front', back', hrest', hcons', hfront', hback'⟩ := sortLabels_cons label (labels.filter p)
      rw [List.filter_cons_of_pos hp, List.filter_cons_of_pos hp, hcons']
      obtain ⟨hf, hb⟩ := append_unique (ih.trans hrest') (fun l hl ↦ hfront l (List.mem_of_mem_filter hl))
        (fun l hl ↦ hback l (List.mem_of_mem_filter hl)) hfront' hback'
      rw [hf, hb]
    · rw [List.filter_cons_of_neg hp, List.filter_cons_of_neg hp, ih]

theorem valued_filter_isTelling (own : Option String) (labels : List Label) :
    valued (labels.filter (isTelling own)) = valued labels := by
  rw [valued, List.filter_filter, valued]
  refine List.filter_congr fun label _ ↦ ?_
  cases hv : decide (label.2 ≠ "") <;> simp_all [isTelling]

theorem takeLabel?_filter {name : String} {p : Label → Bool} (hp : ∀ label : Label, label.1 = name → p label = true)
    (labels : List Label) :
    takeLabel? name (labels.filter p) =
      (takeLabel? name labels).map fun (value, others) ↦ (value, others.filter p) := by
  induction labels with
  | nil => rfl
  | cons label labels ih =>
    obtain ⟨n, value⟩ := label
    by_cases hn : n = name
    · subst hn
      rw [List.filter_cons_of_pos (hp _ rfl), takeLabel?, if_pos rfl, takeLabel?, if_pos rfl]
      rfl
    · rw [takeLabel?, if_neg hn]
      by_cases hl : p (n, value)
      · rw [List.filter_cons_of_pos hl, takeLabel?, if_neg hn, ih, Option.map_map, Option.map_map]
        refine congrArg (Option.map · _) (funext fun found ↦ ?_)
        simp [List.filter_cons_of_pos hl]
      · rw [List.filter_cons_of_neg hl, ih, Option.map_map]
        refine congrArg (Option.map · _) (funext fun found ↦ ?_)
        simp [List.filter_cons_of_neg hl]

variable {labels labels' others : List Label} {name : String}

theorem takeNumber?_of_filter_eq (h : labels'.filter (isTelling (some name)) = labels.filter (isTelling (some name)))
    {number : Binary64} (ht : takeNumber? name labels = some (number, others)) :
    ∃ others', takeNumber? name labels' = some (number, others') ∧ valued others' = valued others := by
  have htelling : ∀ label : Label, label.1 = name → isTelling (some name) label = true := by
    rintro ⟨n, value⟩ rfl
    simp [isTelling]
  have hfilter := takeLabel?_filter htelling labels
  rw [← h, takeLabel?_filter htelling labels'] at hfilter
  unfold takeNumber? at ht ⊢
  cases hl : takeLabel? name labels with
  | none => rw [hl] at ht; cases ht
  | some found =>
    obtain ⟨text, rest⟩ := found
    rw [hl] at ht hfilter
    obtain ⟨⟨text', rest'⟩, hl', he⟩ := Option.map_eq_some_iff.mp hfilter
    obtain ⟨rfl, hrest⟩ := Prod.mk.inj he
    rw [hl']
    dsimp only at ht ⊢
    split at ht
    · next x hx =>
      split at ht
      · cases ht
      · next hnan =>
        cases ht
        refine ⟨rest', if_neg hnan, ?_⟩
        rw [← valued_filter_isTelling (some name) rest', hrest, valued_filter_isTelling]
    · cases ht

/-- Labels that agree in what they tell make the same part, of series that agree in their values. -/
theorem SampleRole.part?_of_filter_eq {role : SampleRole} {part : Part}
    (h : labels'.filter (isTelling role.ownLabel?) = labels.filter (isTelling role.ownLabel?))
    (hp : role.part? labels = some (part, others)) :
    ∃ others', role.part? labels' = some (part, others') ∧ valued others' = valued others := by
  have hvalued : valued labels' = valued labels := by
    rw [← valued_filter_isTelling role.ownLabel? labels', h, valued_filter_isTelling]
  cases role with
  | scalar | sum | count =>
    cases hp
    exact ⟨labels', rfl, hvalued⟩
  | quantile | bucket =>
    obtain ⟨⟨number, rest⟩, ht, he⟩ := Option.map_eq_some_iff.mp hp
    cases he
    obtain ⟨others', ht', hothers⟩ := takeNumber?_of_filter_eq h ht
    exact ⟨others', by rw [SampleRole.part?, ht']; rfl, hothers⟩

structure Contribution.Matches (c c' : Contribution) : Prop where
  eq : c' = { c with labels := c'.labels }
  valued : valued c'.labels = valued c.labels

/-- Of two expositions, lines that contribute to one series in the first do so in the second, and conversely. -/
def KeepsSeries (pairs : List (Contribution × Contribution)) : Prop :=
  ∀ p ∈ pairs, ∀ q ∈ pairs, p.1.part ≠ .scalar → q.1.part ≠ .scalar → p.1.family = q.1.family →
    (p.1.labels = q.1.labels ↔ p.2.labels = q.2.labels)

instance (pairs : List (Contribution × Contribution)) : Decidable (KeepsSeries pairs) :=
  inferInstanceAs (Decidable (∀ p ∈ pairs, ∀ q ∈ pairs, _ → _ → _ → _))

theorem SampleLine.contribution?_of_filter_eq {family : String} {kind : MetricKind} {role : SampleRole}
    {s : SampleLine} {c : Contribution} {written : List Label}
    (h : written.filter (isTelling role.ownLabel?) = s.labels.filter (isTelling role.ownLabel?))
    (hc : s.contribution? family kind role = some c) :
    ∃ c', SampleLine.contribution? family kind role { s with labels := written } = some c' ∧ c.Matches c' := by
  obtain ⟨hvalue, hstamp, hpart, hfamily, hkind⟩ := SampleLine.contribution?_eq_some.mp hc
  have hsorted : (sortLabels written).filter (isTelling role.ownLabel?) =
      (sortLabels s.labels).filter (isTelling role.ownLabel?) := by
    rw [filter_sortLabels, h, filter_sortLabels]
  obtain ⟨others, hpart', hvalued⟩ := SampleRole.part?_of_filter_eq hsorted hpart
  exact ⟨{ c with labels := others }, SampleLine.contribution?_eq_some.mpr ⟨hvalue, hstamp, hpart', hfamily, hkind⟩,
    rfl, hvalued⟩

end MetricRelay.Exposition
