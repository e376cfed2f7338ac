import MetricRelay.Proofs.Exposition.Contributions

namespace MetricRelay.Exposition

def Named (families : Families) : Prop := ∀ name ∈ families.keys, IsMetricName name

theorem IsMetricName.ne_empty {name : String} (h : IsMetricName name) : name ≠ "" := by
  rintro rfl
  exact h

theorem eq_append_of_name? {start more : Char → Bool} {s rest : List Char} {name : String}
    (h : name? start more s = some (name, rest)) : IsName start more name.toList ∧ s = name.toList ++ rest := by
  cases s with
  | nil => cases h
  | cons c s =>
    rw [name?] at h
    split at h
    · next hc =>
      cases h
      rw [String.toList_ofList]
      refine ⟨⟨hc, List.all_eq_true.mp List.all_takeWhile⟩, ?_⟩
      rw [List.cons_append, List.takeWhile_append_dropWhile]
    · cases h

theorem isMetricName_of_metricName? {s rest : List Char} {name : String} (h : metricName? s = some (name, rest)) :
    IsMetricName name := (eq_append_of_name? h).1

variable {families next : Families}

theorem Named.change (h : Named families) {name : String} (hn : IsMetricName name)
    (g : FamilyState → FamilyState) : Named (families.change name g) := by
  intro other ho
  rw [Families.change, OrderedMap.keys_upsert] at ho
  split at ho
  · exact h other ho
  · rcases List.mem_append.mp ho with ho | ho
    · exact h other ho
    · rwa [List.mem_singleton.mp ho]

theorem mem_keys_of_get? {name : String} {state : FamilyState} (h : families.get? name = some state) :
    name ∈ families.keys := by
  by_contra hn
  rw [OrderedMap.get?, Entries.get?_eq_none_iff.mpr hn] at h
  cases h

theorem Named.parent? (h : Named families) {name base : String} {suffix : String × SampleRole} {role : SampleRole}
    (hp : families.parent? name suffix = some (base, role)) : IsMetricName base := by
  rw [Families.parent?] at hp
  split at hp
  · split at hp
    · next hg =>
      split at hp
      · cases hp
        exact h base (mem_keys_of_get? hg)
      · cases hp
    · cases hp
  · cases hp

theorem Named.resolve (h : Named families) {name family : String} {role : SampleRole} (hn : IsMetricName name)
    (hr : families.resolve name = .ok (family, role)) : IsMetricName family := by
  rw [Families.resolve] at hr
  split at hr
  · split at hr
    · cases hr; exact hn
    · cases hr
    · cases hr; exact hn
  · cases hp : childSuffixes.findSome? (families.parent? name) with
    | none => rw [hp] at hr; cases hr; exact hn
    | some parent =>
      rw [hp] at hr
      cases hr
      obtain ⟨suffix, -, hs⟩ := List.exists_of_findSome?_eq_some hp
      exact h.parent? hs

theorem Named.addSample (h : Named families) {name : String} {labels : List Label} {timestamp : Option Int64}
    {value : Binary64} (hn : IsMetricName name)
    (hr : families.addSample name labels timestamp value = .ok next) : Named next := by
  rw [Families.addSample] at hr
  cases hf : families.resolve name with
  | error e => rw [hf] at hr; cases hr
  | ok found =>
    obtain ⟨family, role⟩ := found
    have hfamily := h.resolve hn hf
    rw [hf] at hr
    dsimp only [bind, Except.bind] at hr
    cases role with
    | scalar | sum | count => cases hr; exact h.change hfamily _
    | quantile | bucket =>
      dsimp only at hr
      split at hr
      · cases hr; exact h.change hfamily _
      · cases hr

theorem isMetricName_of_sample {s : List Char} {sample : SampleLine} (h : SampleLine.read? s = some sample) :
    IsMetricName sample.name := by
  rw [SampleLine.read?] at h
  simp only [Option.bind_eq_bind, Option.bind_eq_some_iff] at h
  obtain ⟨⟨name, rest⟩, hn, h⟩ := h
  have hname := isMetricName_of_metricName? hn
  split at h
  all_goals
    simp only [Option.bind_eq_some_iff] at h
    obtain ⟨_, -, _, -, h⟩ := h
    split at h
    · cases h
      exact hname
    · cases h

def Metadata.name : Metadata → String
  | .help name _ => name
  | .kind name _ => name

theorem isMetricName_of_helpBody? {s : List Char} {metadata : Metadata} (h : helpBody? s = some metadata) :
    IsMetricName metadata.name := by
  rw [helpBody?] at h
  split at h
  · simp only [Option.bind_eq_bind, Option.bind_eq_some_iff] at h
    obtain ⟨_, -, _, -, ⟨name, rest⟩, hn, h⟩ := h
    have hname := isMetricName_of_metricName? hn
    split at h
    · cases h
      exact hname
    · split at h
      · cases h
        exact hname
      · cases h
  · cases h

theorem isMetricName_of_kindBody? {s : List Char} {metadata : Metadata} (h : kindBody? s = some metadata) :
    IsMetricName metadata.name := by
  rw [kindBody?] at h
  split at h
  · simp only [Option.bind_eq_bind, Option.bind_eq_some_iff] at h
    obtain ⟨_, -, _, -, ⟨name, rest⟩, hn, _, -, _, -, h⟩ := h
    split at h
    · cases h
      exact isMetricName_of_metricName? hn
    · cases h
  · cases h

theorem isMetricName_of_metadata {s : List Char} {metadata : Metadata} (h : Metadata.read? s = some metadata) :
    IsMetricName metadata.name := by
  rw [Metadata.read?] at h
  simp only [Option.bind_eq_bind, Option.bind_eq_some_iff] at h
  obtain ⟨_, -, h⟩ := h
  split at h
  · next hh =>
    cases h
    exact isMetricName_of_helpBody? hh
  · exact isMetricName_of_kindBody? h

theorem Named.readComment (h : Named families) {s : List Char} (hr : families.readComment s = .ok next) :
    Named next := by
  rw [Families.readComment] at hr
  split at hr
  · next hm =>
    cases hr
    exact h.change (isMetricName_of_metadata hm) _
  · next hm =>
    split at hr
    · cases hr
      exact h.change (isMetricName_of_metadata hm) _
    · cases hr
  · split at hr
    · cases hr
    · cases hr
      exact h

theorem Named.readSample (h : Named families) {s : List Char} (hr : families.readSample s = .ok next) :
    Named next := by
  rw [Families.readSample] at hr
  cases hs : SampleLine.read? s with
  | none => rw [hs] at hr; cases hr
  | some sample =>
    rw [hs] at hr
    dsimp only at hr
    cases hv : Decimal.float? sample.value.toList with
    | none => rw [hv] at hr; cases hr
    | some value =>
      rw [hv] at hr
      dsimp only at hr
      have hname := isMetricName_of_sample hs
      split at hr
      · exact h.addSample hname hr
      · split at hr
        · exact h.addSample hname hr
        · cases hr

theorem Named.readLine (h : Named families) {line : List Char} (hr : families.readLine line = .ok next) :
    Named next := by
  rw [Families.readLine] at hr
  split at hr
  · cases hr
    exact h
  · exact h.readComment hr
  · exact h.readSample hr

theorem isMetricName_of_read {text : String} {families : List Family} (hr : read text = .ok families) :
    ∀ f ∈ families, IsMetricName f.name := by
  obtain ⟨last, hl, rfl⟩ := read_eq_ok_iff.mp hr
  have hempty : Named .empty := fun name hn ↦ absurd hn List.not_mem_nil
  have hlast : Named last := Families.invariant_of_readLines (P := Named) (fun h hl ↦ h.readLine hl) hempty hl
  intro f hf
  obtain ⟨entry, he, rfl⟩ := List.mem_map.mp hf
  exact hlast entry.1 (List.mem_map_of_mem he)

end MetricRelay.Exposition
