import Mathlib.Data.List.Perm.Basic
import MetricRelay.Proofs.Exposition.Commuting
import MetricRelay.Proofs.Exposition.Keeping
import MetricRelay.Proofs.Exposition.Samples
import MetricRelay.Proofs.Exposition.Series

namespace MetricRelay.Exposition

variable {m m' : Metric} {c : Contribution} {contributions contributions' : List Contribution} {labels : List Label}

/-- The lines of one histogram: its type, and one line for each of the samples, which are children of it. -/
inductive IsHistogram (name : String) (samples : List SampleLine) : List (List Char) → Prop
  | intro {head : List Char} {lines : List (List Char)} :
    Metadata.read? (Text.trim head) = some (.kind name "histogram") →
    lines.map (fun line ↦ SampleLine.read? (Text.trim line)) = samples.map some →
    (∀ s ∈ samples, ∃ suffix ∈ childSuffixes, s.name = name ++ suffix.1) →
    IsHistogram name samples (head :: lines)

/-- The same samples in another order, and so the labels of each. -/
def Shuffled (samples samples' : List SampleLine) : Prop :=
  ∃ moved, moved.Perm samples ∧
    List.Forall₂ (fun s s' ↦ s' = { s with labels := s'.labels } ∧ s'.labels.Perm s.labels) moved samples'

/-- What the child of a histogram contributes, wherever its line stands. -/
def SampleLine.Contributes (name : String) (s : SampleLine) (c : Contribution) : Prop :=
  ∃ suffix ∈ childSuffixes, s.name = name ++ suffix.1 ∧ s.contribution? name .histogram suffix.2 = some c

variable {name : String} {s s' : SampleLine} {samples samples' : List SampleLine}

theorem SampleLine.Contributes.of_perm (h : s.Contributes name c) (hn : (s.labels.map Prod.fst).Nodup)
    (hs : s' = { s with labels := s'.labels }) (hp : s'.labels.Perm s.labels) : s'.Contributes name c := by
  obtain ⟨suffix, hm, hname, hc⟩ := h
  have hlabels : sortLabels s'.labels = sortLabels s.labels := sortLabels_eq_of_perm hn hp
  have hname' : s'.name = s.name := by rw [hs]
  have hvalue : s'.value = s.value := by rw [hs]
  have hstamp : s'.timestamp = s.timestamp := by rw [hs]
  refine ⟨suffix, hm, hname'.trans hname, ?_⟩
  rw [← hc, SampleLine.contribution?, SampleLine.contribution?, hlabels, hvalue, hstamp]

theorem Shuffled.contributes (h : Shuffled samples samples') (hn : ∀ s ∈ samples, (s.labels.map Prod.fst).Nodup)
    (hf : List.Forall₂ (SampleLine.Contributes name) samples contributions) :
    ∃ contributions', contributions.Perm contributions' ∧
      List.Forall₂ (SampleLine.Contributes name) samples' contributions' := by
  obtain ⟨moved, hmoved, hlabels⟩ := h
  obtain ⟨contributions', hf', hp⟩ := List.perm_comp_forall₂ hmoved hf
  have hn' : ∀ s ∈ moved, (s.labels.map Prod.fst).Nodup := fun s hm ↦ hn s (hmoved.subset hm)
  refine ⟨contributions', hp.symm, ?_⟩
  clear hp hmoved
  induction hlabels generalizing contributions' with
  | nil =>
    cases hf'
    exact .nil
  | cons hs _ ih =>
    cases hf' with
    | cons hhead htail =>
      obtain ⟨hnhead, hntail⟩ := List.forall_mem_cons.mp hn'
      exact .cons (hhead.of_perm hnhead hs.1 hs.2) (ih _ htail hntail)

variable {f : Family} {families next : Families} {state : FamilyState} {line : List Char}

theorem Inside.kindOf {before : List (String × FamilyState)} (h : Inside families f before state) :
    families.kindOf f.name = f.kind := by
  rw [Families.kindOf, Families.stateOf, h.get?_name]
  exact h.kind

theorem Inside.contribution?_of_contributes (h : Inside families f [] state) (hk : f.kind = .histogram)
    (hs : SampleLine.read? (Text.trim line) = some s) (hf : s.Contributes f.name c) :
    families.contribution? line = some c := by
  obtain ⟨suffix, hm, hname, hc⟩ := hf
  have hfamily : c.family = f.name := (SampleLine.contribution?_eq_some.mp hc).2.2.2.1
  refine Families.contribution?_iff.mpr ⟨s, suffix.2, hs, ?_, ?_⟩
  · have htakes : f.kind.takesChild suffix.2 = true := by rw [hk]; rfl
    rw [hname, hfamily]
    exact h.resolve_child (.inr hk) hm htakes
  · rw [hfamily, h.kindOf, hk]
    exact hc

theorem Inside.contributes_of_contribution? (h : Inside families f [] state) (hk : f.kind = .histogram)
    (hs : SampleLine.read? (Text.trim line) = some s)
    (hname : ∃ suffix ∈ childSuffixes, s.name = f.name ++ suffix.1) (hc : families.contribution? line = some c) :
    s.Contributes f.name c := by
  obtain ⟨suffix, hm, hname⟩ := hname
  obtain ⟨s', role, hs', hresolve, hc⟩ := Families.contribution?_iff.mp hc
  obtain rfl := Option.some.inj (hs.symm.trans hs')
  have htakes : f.kind.takesChild suffix.2 = true := by rw [hk]; rfl
  rw [hname, h.resolve_child (.inr hk) hm htakes] at hresolve
  obtain ⟨hfamily, rfl⟩ := Prod.mk.inj (Except.ok.inj hresolve)
  rw [← hfamily, h.kindOf, hk] at hc
  exact ⟨suffix, hm, hname, hc⟩

theorem kind_take (state : FamilyState) (c : Contribution) : (state.take c).kind = state.kind := by
  unfold FamilyState.take
  split
  · rfl
  · exact kind_updateSeries _ _ _ _

theorem help_take (state : FamilyState) (c : Contribution) : (state.take c).help = state.help := by
  unfold FamilyState.take FamilyState.updateSeries FamilyState.openSeries
  split
  · rfl
  · cases state.groups.get? c.labels <;> rfl

theorem Inside.take (h : Inside families f [] state) (hc : c.family = f.name) :
    Inside (families.change c.family (·.take c)) f [] (state.take c) := by
  rw [hc]
  exact h.change (kind_take state c)

theorem SampleLine.Contributes.family (h : s.Contributes name c) : c.family = name ∧ c.kind = .histogram ∧ c.part ≠ .scalar := by
  obtain ⟨suffix, hm, -, hc⟩ := h
  obtain ⟨-, -, hpart, hfamily, hkind⟩ := SampleLine.contribution?_eq_some.mp hc
  refine ⟨hfamily, hkind, fun hscalar ↦ ?_⟩
  rw [hscalar] at hpart
  simp only [childSuffixes, List.mem_cons, List.not_mem_nil, or_false] at hm
  rcases hm with rfl | rfl | rfl
  · obtain ⟨_, -, he⟩ := Option.map_eq_some_iff.mp hpart
    cases he
  · cases hpart
  · cases hpart

/-- Lines that can be read are lines of contributions, whatever stands before them. -/
theorem Inside.exists_contributes (h : Inside families f [] state) (hk : f.kind = .histogram) {lines : List (List Char)}
    (hs : List.Forall₂ (fun line s ↦ SampleLine.read? (Text.trim line) = some s) lines samples)
    (hnames : ∀ s ∈ samples, ∃ suffix ∈ childSuffixes, s.name = f.name ++ suffix.1) {number : Nat}
    (hr : families.readLines number lines = .ok next) :
    ∃ contributions, List.Forall₂ (SampleLine.Contributes f.name) samples contributions := by
  induction hs generalizing families state number with
  | nil => exact ⟨[], .nil⟩
  | @cons line s lines samples hline _ ih =>
    rw [Families.readLines] at hr
    cases hl : families.readLine line with
    | error e => rw [hl] at hr; cases hr
    | ok middle =>
      rw [hl] at hr
      obtain ⟨c, hc, rfl⟩ := Families.readLine_of_isSample (Families.isSample_of_read? hline) hl
      obtain ⟨hname, hnames⟩ := List.forall_mem_cons.mp hnames
      have hcontributes := h.contributes_of_contribution? hk hline hname hc
      obtain ⟨rest, hrest⟩ := ih (h.take hcontributes.family.1) hnames hr
      exact ⟨c :: rest, .cons hcontributes hrest⟩

theorem Inside.readLines (h : Inside families f [] state) (hk : f.kind = .histogram) {lines : List (List Char)}
    (hs : List.Forall₂ (fun line s ↦ SampleLine.read? (Text.trim line) = some s) lines samples)
    (hf : List.Forall₂ (SampleLine.Contributes f.name) samples contributions) (number : Nat) :
    ∃ last, families.readLines number lines = .ok last ∧ families.contributions lines = contributions ∧
      Inside last f [] (contributions.foldl (fun state c ↦ state.take c) state) := by
  induction hs generalizing families state contributions number with
  | nil =>
    cases hf
    exact ⟨families, rfl, rfl, h⟩
  | @cons line s lines samples hline _ ih =>
    cases hf with
    | @cons _ c _ rest hhead htail =>
      have hc := h.contribution?_of_contributes hk hline hhead
      have hl := Families.readLine_of_contribution? hc
      obtain ⟨last, hr, hcontributions, hlast⟩ := ih (h.take hhead.family.1) htail (number + 1)
      refine ⟨last, ?_, ?_, hlast⟩
      · rw [Families.readLines, hl]
        exact hr
      · rw [Families.contributions, hl, hc]
        dsimp only
        rw [hcontributions]
        rfl

theorem FamilyState.Indexed.series?_of_mem (h : state.Indexed) (hm : m ∈ state.metrics.toList)
    (hg : m.data.isGrouped = true) : state.series? m.labels = some m := by
  obtain ⟨place, hplace⟩ := List.mem_iff_getElem?.mp hm
  rw [Array.getElem?_toList] at hplace
  rw [FamilyState.series?_of_place (h.place hplace (Metric.isSeriesOf_iff.mpr ⟨hg, rfl⟩)), hplace]

theorem FamilyState.Indexed.mem_of_series? (h : state.Indexed) (hs : state.series? labels = some m) :
    m ∈ state.metrics.toList ∧ m.labels = labels := by
  obtain ⟨place, hplace, hm⟩ := Option.bind_eq_some_iff.mp hs
  obtain ⟨m', hm', hseries⟩ := h.metric hplace
  obtain rfl := Option.some.inj (hm'.symm.trans hm)
  rw [← Array.getElem?_toList] at hm
  exact ⟨List.mem_of_getElem? hm, (Metric.isSeriesOf_iff.mp hseries).2⟩

theorem Families.Keeps.isGrouped_of_mem (h : families.Keeps contributions) (hc : ∀ c ∈ contributions, c.part ≠ .scalar)
    (he : (name, state) ∈ families.entries) (hm : m ∈ state.metrics.toList) : m.data.isGrouped = true := by
  by_contra hg
  obtain ⟨value, hdata⟩ : ∃ value, m.data = .scalar value := by
    cases hd : m.data with
    | scalar value => exact ⟨value, rfl⟩
    | summary | histogram =>
      rw [hd] at hg
      exact absurd rfl hg
  have hpoint : (⟨name, m.labels, .scalar, value⟩ : Point) ∈ m.points name := by
    rw [Metric.points, hdata]
    exact List.mem_singleton_self _
  have hmem : (⟨name, m.labels, .scalar, value⟩ : Point) ∈ families.points :=
    List.mem_flatMap.mpr ⟨(name, state), he, List.mem_flatMap.mpr ⟨m, hm, hpoint⟩⟩
  obtain ⟨c, hkept, hpoint⟩ := List.mem_map.mp (h.points.subset hmem)
  exact hc c (List.mem_of_mem_filter hkept) (congrArg Point.part hpoint)

theorem readLine_of_kind {text : String} {kind : MetricKind}
    (hm : Metadata.read? (Text.trim line) = some (.kind name text)) (hk : MetricKind.ofText? text = some kind)
    (families : Families) :
    isSample line = false ∧ families.readLine line = .ok (families.change name ({ · with kind })) := by
  obtain ⟨rest, ht⟩ : ∃ rest, Text.trim line = '#' :: rest := by
    cases ht : Text.trim line with
    | nil => rw [ht] at hm; cases hm
    | cons d rest =>
      by_cases hd : d = '#'
      · exact ⟨rest, by rw [hd]⟩
      · rw [ht, Metadata.read?, char?, if_neg hd] at hm
        cases hm
  refine ⟨by rw [isSample, ht]; rfl, ?_⟩
  rw [readLine_comment families ht, Families.readComment, ← ht, hm]
  dsimp only
  rw [hk]

theorem help_foldl_take (contributions : List Contribution) (state : FamilyState) :
    (contributions.foldl (fun state c ↦ state.take c) state).help = state.help := by
  induction contributions generalizing state with
  | nil => rfl
  | cons c rest ih => exact (ih _).trans (help_take state c)

theorem forall_of_contributes (hf : List.Forall₂ (SampleLine.Contributes name) samples contributions) :
    ∀ c ∈ contributions, c.family = name ∧ c.kind = .histogram ∧ c.part ≠ .scalar := by
  induction hf with
  | nil => exact fun _ hc ↦ absurd hc List.not_mem_nil
  | cons hhead _ ih => exact List.forall_mem_cons.mpr ⟨hhead.family, ih⟩

theorem IsHistogram.opens {lines : List (List Char)} (hh : IsHistogram name samples lines) :
    ∃ head rest first, lines = head :: rest ∧ isSample head = false ∧ Families.readLine .empty head = .ok first ∧
      Inside first ⟨name, none, .histogram, []⟩ [] { kind := .histogram } ∧
      List.Forall₂ (fun line s ↦ SampleLine.read? (Text.trim line) = some s) rest samples ∧
      ∀ s ∈ samples, ∃ suffix ∈ childSuffixes, s.name = name ++ suffix.1 := by
  cases hh with
  | @intro head rest hhead hsamples hnames =>
    have hkind : MetricKind.ofText? "histogram" = some .histogram := by decide
    obtain ⟨hnot, hl⟩ := readLine_of_kind hhead hkind .empty
    rw [← List.forall₂_eq_eq_eq, List.forall₂_map_left_iff, List.forall₂_map_right_iff] at hsamples
    exact ⟨head, rest, _, rfl, hnot, hl, ⟨rfl, rfl, fun _ _ _ ↦ List.not_mem_nil⟩, hsamples, hnames⟩

theorem IsHistogram.exists_contributes {text : String} {families : List Family}
    (hh : IsHistogram name samples (Text.lines text.toList)) (hr : read text = .ok families) :
    ∃ contributions, List.Forall₂ (SampleLine.Contributes name) samples contributions := by
  obtain ⟨head, rest, first, hlines, -, hl, hinside, hreads, hnames⟩ := hh.opens
  rw [read, hlines, Families.readLines, hl] at hr
  dsimp only at hr
  cases hrest : first.readLines 2 rest with
  | error e => rw [hrest] at hr; cases hr
  | ok last => exact hinside.exists_contributes rfl hreads hnames hrest

theorem read_of_contributes {text : String} (hh : IsHistogram name samples (Text.lines text.toList))
    (hf : List.Forall₂ (SampleLine.Contributes name) samples contributions) :
    Families.contributions .empty (Text.lines text.toList) = contributions ∧
      ∃ metrics, read text = .ok [⟨name, none, .histogram, metrics⟩] ∧ (metrics.map Metric.labels).Nodup ∧
        ∀ labels m, m ∈ metrics ∧ m.labels = labels ↔
          replay (contributions.filter (Contribution.feeds name labels)) = some m := by
  obtain ⟨head, rest, first, hlines, hnot, hl, hinside, hreads, -⟩ := hh.opens
  obtain ⟨last, hr, hcontributions, hlast⟩ := hinside.readLines rfl hreads hf 2
  have hall : Families.contributions .empty (Text.lines text.toList) = contributions := by
    rw [hlines, Families.contributions, hl, Families.contribution?_of_not_isSample hnot]
    exact hcontributions
  have hread : Families.readLines .empty 1 (Text.lines text.toList) = .ok last := by
    rw [hlines, Families.readLines, hl]
    exact hr
  have hkeeps : last.Keeps contributions := by
    have h := Families.keeps_empty.readLines hread
    rwa [hall] at h
  let state : FamilyState := contributions.foldl (fun state c ↦ state.take c) { kind := .histogram }
  have hstate : last.stateOf name = state := by
    rw [Families.stateOf, show last.get? name = some state from hlast.get?_name]
    rfl
  have hindexed : state.Indexed := hstate ▸ hkeeps.indexed name
  have hgrouped : ∀ m ∈ state.metrics.toList, m.data.isGrouped = true := by
    intro m hm
    have hentry : (name, state) ∈ last.entries := hlast.entries ▸ List.mem_cons_self
    exact hkeeps.isGrouped_of_mem (fun c hc ↦ (forall_of_contributes hf c hc).2.2) hentry hm
  have hnodup : (state.metrics.toList.map Metric.labels).Nodup := by
    rw [← List.filter_eq_self.mpr hgrouped]
    exact hindexed.nodup_labels
  refine ⟨hall, state.metrics.toList, ?_, hnodup, fun labels m ↦ ?_⟩
  · have hlist : last.toList = [⟨name, state.help, state.kind, state.metrics.toList⟩] := by
      rw [Families.toList, hlast.entries]
      rfl
    have hhelp : state.help = none := help_foldl_take contributions _
    have hkind : state.kind = .histogram := hlast.kind
    rw [read, hread, Except.map, hlist, hhelp, hkind]
  · rw [← hkeeps.series, hstate]
    refine ⟨?_, hindexed.mem_of_series?⟩
    rintro ⟨hm, hl⟩
    rw [← hl]
    exact hindexed.series?_of_mem hm (hgrouped m hm)

/-- The lines of a histogram may stand in any order, and so may the labels of a line. If the lines of a series have
different parts and no different timestamps, the same series are read, alike but for the order of their buckets. -/
theorem read_of_shuffled {text text' : String} {families : List Family} (hr : read text = .ok families)
    (hh : IsHistogram name samples (Text.lines text.toList)) (hh' : IsHistogram name samples' (Text.lines text'.toList))
    (hs : Shuffled samples samples') (hn : ∀ s ∈ samples, (s.labels.map Prod.fst).Nodup)
    (hc : (Families.contributions .empty (Text.lines text.toList)).Pairwise Contribution.Apart) :
    ∃ metrics metrics', families = [⟨name, none, .histogram, metrics⟩] ∧
      read text' = .ok [⟨name, none, .histogram, metrics'⟩] ∧ (metrics.map Metric.labels).Nodup ∧
      (metrics'.map Metric.labels).Perm (metrics.map Metric.labels) ∧
      ∀ m ∈ metrics, ∀ m' ∈ metrics', m'.labels = m.labels →
        m.Alike m' ∧ (m.data.buckets.map Bucket.upperBound).Nodup := by
  obtain ⟨contributions, hf⟩ := hh.exists_contributes hr
  obtain ⟨contributions', hp, hf'⟩ := hs.contributes hn hf
  obtain ⟨hcontributions, metrics, hread, hnodup, hmetrics⟩ := read_of_contributes hh hf
  obtain ⟨-, metrics', hread', hnodup', hmetrics'⟩ := read_of_contributes hh' hf'
  rw [hcontributions] at hc
  -- the contributions to each series are a permutation too
  have hfeed (labels : List Label) : FeedsHistogram labels (contributions.filter (Contribution.feeds name labels)) := by
    refine ⟨fun c hm ↦ ?_, fun c hm ↦ (of_decide_eq_true (List.mem_filter.mp hm).2).2.2⟩
    exact (forall_of_contributes hf c (List.mem_filter.mp hm).1).2.1
  have hapart (labels : List Label) :
      (contributions.filter (Contribution.feeds name labels)).Pairwise Contribution.Apart :=
    hc.sublist List.filter_sublist
  have hrel (labels : List Label) : Option.Rel Metric.Alike
      (replay (contributions.filter (Contribution.feeds name labels)))
      (replay (contributions'.filter (Contribution.feeds name labels))) :=
    (hfeed labels).alike_replay (hp.filter _) (hapart labels)
  refine ⟨metrics, metrics', Except.ok.inj (hr.symm.trans hread), hread', hnodup, ?_, fun m hm m' hm' hl ↦ ?_⟩
  · refine (List.perm_ext_iff_of_nodup hnodup' hnodup).mpr fun labels ↦ ?_
    rw [List.mem_map, List.mem_map]
    simp only [hmetrics, hmetrics']
    have h := hrel labels
    generalize replay (contributions.filter (Contribution.feeds name labels)) = series at h
    generalize replay (contributions'.filter (Contribution.feeds name labels)) = series' at h
    cases h with
    | none => simp
    | some => simp
  · have hseries := (hmetrics m.labels m).mp ⟨hm, rfl⟩
    have hseries' := (hmetrics' m.labels m').mp ⟨hm', hl⟩
    have h := hrel m.labels
    rw [hseries, hseries'] at h
    obtain ⟨halike⟩ := h
    exact ⟨halike, (hfeed m.labels).nodup_bounds (hapart m.labels) hseries⟩

end MetricRelay.Exposition
