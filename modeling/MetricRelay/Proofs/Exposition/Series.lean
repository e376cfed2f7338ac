import MetricRelay.Proofs.Exposition.Grouping
import MetricRelay.Proofs.Exposition.Layout
import MetricRelay.Proofs.Exposition.WrittenSample
import MetricRelay.Proofs.Text.Cutting

namespace MetricRelay.Exposition

/-- The family being read stands behind those read before, and none of these bears the name of one of its children. -/
structure Inside (families : Families) (f : Family) (before : List (String × FamilyState)) (state : FamilyState) :
    Prop where
  entries : families.entries = before ++ [(f.name, state)]
  kind : state.kind = f.kind
  noChild : f.kind.IsGrouped → ∀ suffix ∈ childSuffixes, f.name ++ suffix.1 ∉ before.map Prod.fst

variable {families : Families} {f : Family} {before : List (String × FamilyState)} {state : FamilyState}

theorem Inside.name_not_mem (h : Inside families f before state) : f.name ∉ before.map Prod.fst := by
  have hn := families.nodup
  rw [h.entries, List.map_append, List.map_cons, List.nodup_middle, List.nodup_cons] at hn
  exact fun hm ↦ hn.1 (List.mem_append_left _ hm)

theorem Inside.get?_name (h : Inside families f before state) : families.get? f.name = some state := by
  rw [OrderedMap.get?, h.entries, Entries.get?_append h.name_not_mem]
  simp [Entries.get?]

theorem entries_change_last {name : String} (h : name ∉ before.map Prod.fst)
    (he : families.entries = before ++ [(name, state)]) (g : FamilyState → FamilyState) :
    (families.change name g).entries = before ++ [(name, g state)] := by
  have hu : (families.change name g).entries =
      Entries.upsert name (fun state ↦ g (state.getD {})) families.entries := rfl
  rw [hu, he, Entries.upsert_append h]
  simp [Entries.upsert]

theorem Inside.change (h : Inside families f before state) {g : FamilyState → FamilyState}
    (hk : (g state).kind = state.kind) : Inside (families.change f.name g) f before (g state) :=
  ⟨entries_change_last h.name_not_mem h.entries g, hk.trans h.kind, h.noChild⟩

theorem Inside.get?_child (h : Inside families f before state) (hg : f.kind.IsGrouped)
    {suffix : String × SampleRole} (hs : suffix ∈ childSuffixes) : families.get? (f.name ++ suffix.1) = none := by
  -- a child's name is longer than that of its family
  have hne : f.name ++ suffix.1 ≠ f.name := fun he ↦ by
    have hl := congrArg (fun s : String ↦ s.toList.length) he
    simp only [String.toList_append, List.length_append] at hl
    have : suffix.1.toList = [] := List.eq_nil_of_length_eq_zero (by omega)
    simp only [childSuffixes, List.mem_cons, List.not_mem_nil, or_false] at hs
    rcases hs with rfl | rfl | rfl <;> cases this
  rw [OrderedMap.get?, h.entries, Entries.get?_append (h.noChild hg suffix hs)]
  simp [Entries.get?, Ne.symm hne]

theorem stripSuffix?_append (name suffix : String) : stripSuffix? suffix (name ++ suffix) = some name := by
  rw [stripSuffix?, String.toList_append, Text.dropEnd?_append, Option.map_some, String.ofList_toList]

theorem stripSuffix?_of_not_suffix {name suffix : String} (h : suffix.toList.isSuffixOf name.toList = false) :
    stripSuffix? suffix name = none := by
  rw [stripSuffix?, Text.dropEnd?, if_neg (by simp [h])]
  rfl

theorem Inside.parent? (h : Inside families f before state) {suffix : String × SampleRole}
    (ht : f.kind.takesChild suffix.2) :
    families.parent? (f.name ++ suffix.1) suffix = some (f.name, suffix.2) := by
  rw [Families.parent?, stripSuffix?_append]
  dsimp only
  rw [h.get?_name]
  dsimp only
  rw [h.kind, if_pos ht]

theorem parent?_of_not_suffix {name : String} {suffix : String × SampleRole}
    (h : suffix.1.toList.isSuffixOf name.toList = false) : families.parent? name suffix = none := by
  rw [Families.parent?, stripSuffix?_of_not_suffix h]

theorem not_isSuffixOf_append {name first second : String}
    (h : ∀ s : List Char, first.toList.reverse.isPrefixOf (second.toList.reverse ++ s) = false) :
    first.toList.isSuffixOf (name ++ second).toList = false := by
  rw [String.toList_append, List.isSuffixOf, List.reverse_append]
  exact h _

/-- No two of the suffixes end alike, so a child is found under its own suffix alone. -/
theorem Inside.findSome?_child (h : Inside families f before state) {suffix : String × SampleRole}
    (hs : suffix ∈ childSuffixes) (ht : f.kind.takesChild suffix.2) :
    childSuffixes.findSome? (families.parent? (f.name ++ suffix.1)) = some (f.name, suffix.2) := by
  have hp := h.parent? ht
  simp only [childSuffixes, List.mem_cons, List.not_mem_nil, or_false] at hs
  rcases hs with rfl | rfl | rfl
  · rw [childSuffixes, List.findSome?_cons, hp]
  · have hbucket : families.parent? (f.name ++ "_sum") ("_bucket", .bucket) = none :=
      parent?_of_not_suffix (not_isSuffixOf_append fun _ ↦ rfl)
    rw [childSuffixes, List.findSome?_cons, hbucket, List.findSome?_cons, hp]
  · have hbucket : families.parent? (f.name ++ "_count") ("_bucket", .bucket) = none :=
      parent?_of_not_suffix (not_isSuffixOf_append fun _ ↦ rfl)
    have hsum : families.parent? (f.name ++ "_count") ("_sum", .sum) = none :=
      parent?_of_not_suffix (not_isSuffixOf_append fun _ ↦ rfl)
    rw [childSuffixes, List.findSome?_cons, hbucket, List.findSome?_cons, hsum, List.findSome?_cons, hp]

theorem Inside.resolve_child (h : Inside families f before state) {suffix : String × SampleRole}
    (hg : f.kind.IsGrouped) (hs : suffix ∈ childSuffixes) (ht : f.kind.takesChild suffix.2) :
    families.resolve (f.name ++ suffix.1) = .ok (f.name, suffix.2) := by
  rw [Families.resolve, h.get?_child hg hs, h.findSome?_child hs ht]
  rfl

theorem Inside.resolve_quantile (h : Inside families f before state) (hk : f.kind = .summary) :
    families.resolve f.name = .ok (f.name, .quantile) := by
  rw [Families.resolve, h.get?_name]
  dsimp only
  rw [h.kind, hk]

theorem Inside.resolve_scalar (h : Inside families f before state) (hk : ¬f.kind.IsGrouped) :
    families.resolve f.name = .ok (f.name, .scalar) := by
  rw [Families.resolve, h.get?_name]
  dsimp only
  rw [h.kind]
  cases hf : f.kind with
  | summary => exact absurd (.inl hf) hk
  | histogram => exact absurd (.inr hf) hk
  | counter | gauge | untyped => rfl

theorem readSample_writeSample {name numeral : String} {labels : List Label} {x : Binary64} (hn : IsMetricName name)
    (hl : ∀ l ∈ labels, IsLabelName l.1) (hx : Spells numeral x) (timestamp : Option Int64) (families : Families) :
    families.readSample (writeSample name labels numeral timestamp) = families.addSample name labels timestamp x := by
  rw [Families.readSample, read?_writeSample hn hl hx]
  dsimp only
  rw [show Decimal.float? numeral.toList = some x from hx]
  dsimp only
  cases timestamp with
  | none => rfl
  | some t =>
    dsimp only [Option.map_some]
    rw [Decimal.int64?_toString]
    rfl

theorem readLine_writeSample {name numeral : String} {labels : List Label} {x : Binary64} (hn : IsMetricName name)
    (hl : ∀ l ∈ labels, IsLabelName l.1) (hx : Spells numeral x) (timestamp : Option Int64) (families : Families) :
    families.readLine (writeSample name labels numeral timestamp) = families.addSample name labels timestamp x := by
  have ht := Text.trim_of_isTrimmed (isLine_writeSample hn hl hx timestamp).1
  rw [← readSample_writeSample hn hl hx timestamp families]
  unfold IsMetricName at hn
  cases he : name.toList with
  | nil => rw [he] at hn; exact hn.elim
  | cons c s =>
    rw [he] at hn
    have hw : writeSample name labels numeral timestamp =
        c :: (s ++ writeLabels labels ++ ' ' :: (numeral.toList ++ writeTimestamp timestamp)) := by
      simp [writeSample, he]
    rw [hw] at ht ⊢
    refine readLine_sample families ht ?_
    rintro rfl
    cases hn.1

variable {labels : List Label} {timestamp : Option Int64}

theorem labelNames_of_perm {first second : List Label} (hp : first.Perm second)
    (hl : ∀ l ∈ second, IsLabelName l.1) : ∀ l ∈ first, IsLabelName l.1 :=
  fun l hm ↦ hl l (hp.subset hm)

theorem IsSample.readLine {name : String} {value : Binary64} {line : List Char} (hn : IsMetricName name)
    (hl : ∀ l ∈ labels, IsLabelName l.1) (h : IsSample name labels value timestamp line) :
    ∃ written, written.Perm labels ∧
      ∀ families : Families, families.readLine line = families.addSample name written timestamp value := by
  obtain ⟨numeral, written, hx, hp, rfl⟩ := h
  exact ⟨written, hp, readLine_writeSample hn (labelNames_of_perm hp hl) hx timestamp⟩

theorem isLabelName_quantileLabel : IsLabelName quantileLabel := by decide

theorem isLabelName_boundLabel : IsLabelName boundLabel := by decide

/-- The label of its own is found whatever its place, and the others are those of the series. -/
theorem IsChild.readLine {name label : String} {position value : Binary64} {line : List Char}
    (hn : IsMetricName name) (hlabel : IsLabelName label) (hl : ∀ l ∈ labels, IsLabelName l.1)
    (hs : labels.Pairwise fun a b ↦ a.1 < b.1) (hnew : label ∉ labels.map Prod.fst)
    (hnan : position.isNaN = false) (h : IsChild name labels timestamp label position value line) :
    ∃ written, takeNumber? label (sortLabels written) = some (position, labels) ∧
      ∀ families : Families, families.readLine line = families.addSample name written timestamp value := by
  obtain ⟨numeral, hposition, h⟩ := h
  obtain ⟨written, hp, hread⟩ := h.readLine hn (List.forall_mem_cons.mpr ⟨hlabel, hl⟩)
  exact ⟨written, takeNumber?_sortLabels hposition hnan hs hnew hp, hread⟩

/-- What reading the line does, wherever its family is the one being read. -/
def Effect (f : Family) (labels : List Label) (timestamp : Option Int64) (line : List Char)
    (change : MetricData → MetricData) : Prop :=
  ∀ ⦃families before state⦄, Inside families f before state →
    families.readLine line = .ok (families.change f.name (·.updateSeries labels timestamp change))

theorem run_effects {lines : List (List Char)} {changes : List (MetricData → MetricData)}
    (he : List.Forall₂ (Effect f labels timestamp) lines changes) (h : Inside families f before state) :
    ∃ next, families.run lines = .ok next ∧
      Inside next f before (changes.foldl (fun s change ↦ s.updateSeries labels timestamp change) state) := by
  -- each line is read in the state that those before it leave, so the state varies along the induction
  induction he generalizing families state with
  | nil => exact ⟨families, rfl, h⟩
  | @cons line change _ _ hline _ ih =>
    have hi : Inside (families.change f.name (·.updateSeries labels timestamp change)) f before
        (state.updateSeries labels timestamp change) :=
      h.change (g := fun s ↦ s.updateSeries labels timestamp change) (kind_updateSeries state labels timestamp change)
    obtain ⟨next, hr, hi⟩ := ih hi
    exact ⟨next, (run_cons (hline h)).trans hr, hi⟩

theorem isMetricName_append {name suffix : String} (hn : IsMetricName name)
    (hs : suffix.toList.all isMetricNameChar) : IsMetricName (name ++ suffix) := by
  unfold IsMetricName at *
  rw [String.toList_append]
  cases he : name.toList with
  | nil => rw [he] at hn; exact hn.elim
  | cons c s =>
    rw [he] at hn
    refine ⟨hn.1, fun d hd ↦ ?_⟩
    rcases List.mem_append.mp hd with hd | hd
    · exact hn.2 d hd
    · exact List.all_eq_true.mp hs d hd

theorem isMetricName_child {name : String} (hn : IsMetricName name) {suffix : String × SampleRole}
    (hs : suffix ∈ childSuffixes) : IsMetricName (name ++ suffix.1) := by
  refine isMetricName_append hn ?_
  simp only [childSuffixes, List.mem_cons, List.not_mem_nil, or_false] at hs
  rcases hs with rfl | rfl | rfl <;> decide

theorem effect_tally {suffix : String × SampleRole} {change : MetricData → MetricData} {value : Binary64}
    {line : List Char} (hm : suffix ∈ childSuffixes) (ht : f.kind.takesChild suffix.2)
    (hadd : ∀ {families : Families} {written : List Label},
      families.resolve (f.name ++ suffix.1) = .ok (f.name, suffix.2) →
      families.addSample (f.name ++ suffix.1) written timestamp value =
        .ok (families.change f.name (·.updateSeries (sortLabels written) timestamp change)))
    (hn : IsMetricName f.name) (hg : f.kind.IsGrouped) (hl : ∀ l ∈ labels, IsLabelName l.1)
    (hs : labels.Pairwise fun a b ↦ a.1 < b.1) (h : IsSample (f.name ++ suffix.1) labels value timestamp line) :
    Effect f labels timestamp line change := by
  intro families before state hi
  obtain ⟨written, hp, hread⟩ := h.readLine (isMetricName_child hn hm) hl
  rw [hread, hadd (hi.resolve_child hg hm ht), sortLabels_of_perm hs hp]

theorem effect_sum {value : Binary64} {line : List Char} (hn : IsMetricName f.name) (hg : f.kind.IsGrouped)
    (hl : ∀ l ∈ labels, IsLabelName l.1) (hs : labels.Pairwise fun a b ↦ a.1 < b.1)
    (h : IsSample (f.name ++ "_sum") labels value timestamp line) :
    Effect f labels timestamp line (·.withSum value) := by
  have hm : (("_sum", .sum) : String × SampleRole) ∈ childSuffixes := by simp [childSuffixes]
  have ht : f.kind.takesChild .sum := by rcases hg with hk | hk <;> rw [hk] <;> rfl
  refine effect_tally hm ht ?_ hn hg hl hs h
  intro families written hr
  rw [Families.addSample, hr]
  rfl

theorem effect_count {value : Binary64} {line : List Char} (hn : IsMetricName f.name) (hg : f.kind.IsGrouped)
    (hl : ∀ l ∈ labels, IsLabelName l.1) (hs : labels.Pairwise fun a b ↦ a.1 < b.1)
    (h : IsSample (f.name ++ "_count") labels value timestamp line) :
    Effect f labels timestamp line (·.withCount value) := by
  have hm : (("_count", .count) : String × SampleRole) ∈ childSuffixes := by simp [childSuffixes]
  have ht : f.kind.takesChild .count := by rcases hg with hk | hk <;> rw [hk] <;> rfl
  refine effect_tally hm ht ?_ hn hg hl hs h
  intro families written hr
  rw [Families.addSample, hr]
  rfl

theorem effect_quantile {quantile : Quantile} {line : List Char} (hn : IsMetricName f.name) (hk : f.kind = .summary)
    (hl : ∀ l ∈ labels, IsLabelName l.1) (hs : labels.Pairwise fun a b ↦ a.1 < b.1)
    (hq : quantileLabel ∉ labels.map Prod.fst) (hnan : quantile.quantile.isNaN = false)
    (h : IsChild f.name labels timestamp quantileLabel quantile.quantile quantile.value line) :
    Effect f labels timestamp line (·.addQuantile quantile) := by
  intro families before state hi
  obtain ⟨written, htake, hread⟩ := h.readLine hn isLabelName_quantileLabel hl hs hq hnan
  rw [hread, Families.addSample, hi.resolve_quantile hk]
  dsimp only [bind, Except.bind]
  rw [htake]
  rfl

theorem effect_bucket {bucket : Bucket} {line : List Char} (hn : IsMetricName f.name) (hk : f.kind = .histogram)
    (hl : ∀ l ∈ labels, IsLabelName l.1) (hs : labels.Pairwise fun a b ↦ a.1 < b.1)
    (hq : boundLabel ∉ labels.map Prod.fst) (hnan : bucket.upperBound.isNaN = false)
    (h : IsChild (f.name ++ "_bucket") labels timestamp boundLabel bucket.upperBound bucket.cumulativeCount line) :
    Effect f labels timestamp line (·.addBucket bucket) := by
  intro families before state hi
  have hm : (("_bucket", .bucket) : String × SampleRole) ∈ childSuffixes := by simp [childSuffixes]
  have ht : f.kind.takesChild .bucket := by rw [hk]; rfl
  obtain ⟨written, htake, hread⟩ :=
    h.readLine (isMetricName_child hn hm) isLabelName_boundLabel hl hs hq hnan
  rw [hread, Families.addSample, hi.resolve_child (.inr hk) hm ht]
  dsimp only [bind, Except.bind]
  rw [htake]
  rfl

theorem forall₂_flip_map {α : Type} {r : α → List Char → Prop} {effect : α → MetricData → MetricData}
    {items : List α} {lines : List (List Char)} (h : List.Forall₂ r items lines)
    (he : ∀ a ∈ items, ∀ line, r a line → Effect f labels timestamp line (effect a)) :
    List.Forall₂ (Effect f labels timestamp) lines (items.map effect) := by
  induction h with
  | nil => exact .nil
  | cons hr _ ih =>
    obtain ⟨ha, hrest⟩ := List.forall_mem_cons.mp he
    exact .cons (ha _ hr) (ih hrest)

theorem run_grouped {m : Metric} {lines : List (List Char)} {changes : List (MetricData → MetricData)}
    {done : List Metric} {sum count : Binary64} {sumLine countLine : List Char} (hn : IsMetricName f.name)
    (hg : f.kind.IsGrouped) (hm : m.WellFormed f.kind)
    (he : List.Forall₂ (Effect f m.labels m.timestamp) lines changes)
    (hsum : IsSample (f.name ++ "_sum") m.labels sum m.timestamp sumLine)
    (hcount : IsSample (f.name ++ "_count") m.labels count m.timestamp countLine)
    (hd : ((changes.foldl (fun d change ↦ change d) state.emptyData).withSum sum).withCount count = m.data)
    (hi : Inside families f before state) (hs : state.Shows f done) (hl : m.labels ∉ done.map Metric.labels) :
    ∃ next state', families.run (lines ++ [sumLine, countLine]) = .ok next ∧ Inside next f before state' ∧
      state'.Shows f (done ++ [m]) := by
  obtain ⟨labels, timestamp, data⟩ := m
  have htallies : List.Forall₂ (Effect f labels timestamp) [sumLine, countLine]
      [MetricData.withSum sum, MetricData.withCount count] :=
    .cons (effect_sum hn hg hm.labelNames hm.sorted hsum)
      (.cons (effect_count hn hg hm.labelNames hm.sorted hcount) .nil)
  have hdata : (changes ++ [MetricData.withSum sum, MetricData.withCount count]).foldl (fun d change ↦ change d)
      state.emptyData = data := by
    rw [List.foldl_append]
    exact hd
  have hne : changes ++ [MetricData.withSum sum, MetricData.withCount count] ≠ [] := by simp
  obtain ⟨next, hr, hi'⟩ := run_effects (List.rel_append he htallies) hi
  exact ⟨next, _, hr, hi', hdata ▸ foldl_updateSeries hne hs hl⟩

theorem run_isSeries {m : Metric} {lines : List (List Char)} {done : List Metric} (hn : IsMetricName f.name)
    (hm : m.WellFormed f.kind) (hw : IsSeries f.name m.labels m.timestamp m.data lines)
    (hi : Inside families f before state) (hs : state.Shows f done)
    (hl : f.kind.IsGrouped → m.labels ∉ done.map Metric.labels) :
    ∃ next state', families.run lines = .ok next ∧ Inside next f before state' ∧ state'.Shows f (done ++ [m]) := by
  obtain ⟨labels, timestamp, data⟩ := m
  cases hw with
  | @scalar value line hline =>
    obtain ⟨written, hp, hread⟩ := hline.readLine hn hm.labelNames
    have hline : families.readLine line = .ok (families.change f.name (·.addScalar labels timestamp value)) := by
      rw [hread, Families.addSample, hi.resolve_scalar hm.admitted, sortLabels_of_perm hm.sorted hp]
      rfl
    exact ⟨_, _, run_cons hline, hi.change (g := (·.addScalar labels timestamp value)) rfl, addScalar_shows hs value⟩
  | summary hq hsum hcount =>
    obtain ⟨hk, hlabel, hnan⟩ := hm.admitted
    have hempty : state.emptyData = .summary .zero .zero [] := by rw [FamilyState.emptyData, hi.kind, hk]
    have he := forall₂_flip_map hq fun q hmem _ h ↦
      effect_quantile hn hk hm.labelNames hm.sorted hlabel (hnan q hmem) h
    refine run_grouped hn (.inl hk) hm he hsum hcount ?_ hi hs (hl (.inl hk))
    rw [hempty, foldl_addQuantile]
    rfl
  | histogram hb hsum hcount =>
    obtain ⟨hk, hlabel, hnan⟩ := hm.admitted
    have hempty : state.emptyData = .histogram .zero .zero [] := by rw [FamilyState.emptyData, hi.kind, hk]
    have he := forall₂_flip_map hb fun b hmem _ h ↦
      effect_bucket hn hk hm.labelNames hm.sorted hlabel (hnan b hmem) h
    refine run_grouped hn (.inr hk) hm he hsum hcount ?_ hi hs (hl (.inr hk))
    rw [hempty, foldl_addBucket]
    rfl

end MetricRelay.Exposition
