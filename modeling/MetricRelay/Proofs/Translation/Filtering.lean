import MetricRelay.Proofs.Exposition.Names
import MetricRelay.Proofs.Filter.BareName
import MetricRelay.Proofs.Translation.Run

namespace MetricRelay

namespace MetricWriter

variable {w : MetricWriter} {f g : MetricFilter} {points : List Point}

def filteredBy (w : MetricWriter) (f : MetricFilter) : MetricWriter := { w with filter := f }

theorem denies_filteredBy {p : Point} (hd : (!p.dynamic || w.filterDynamic) = true) :
    (w.filteredBy f).denies p = !f.isAllowed p.name := by
  rw [denies, filteredBy, hd, Bool.true_and]

theorem isAllowed_of_taggedName? {p : Point} {name : String} (h : w.taggedName? p = some name) :
    f.isAllowed name = f.isAllowed p.name := isAllowed_taggedName? f h

theorem insertions_filteredBy (hg : ∀ name, g.isAllowed name = true)
    (hd : ∀ p ∈ points, (!p.dynamic || w.filterDynamic) = true) :
    points.filterMap (w.filteredBy f).insertion? =
      (points.filterMap (w.filteredBy g).insertion?).filter fun item ↦ f.isAllowed item.1 := by
  induction points with
  | nil => rfl
  | cons p points ih =>
    obtain ⟨hp, hrest⟩ := List.forall_mem_cons.mp hd
    have hopen : (w.filteredBy g).insertion? p =
        (w.taggedName? p).map fun name ↦ (name, .of p.value p.timestamp) := by
      rw [insertion?, denies_filteredBy hp, hg]
      rfl
    have hfiltered : (w.filteredBy f).insertion? p =
        if f.isAllowed p.name then (w.taggedName? p).map fun name ↦ (name, .of p.value p.timestamp) else none := by
      rw [insertion?, denies_filteredBy hp]
      cases f.isAllowed p.name <;> rfl
    -- one filter sees the bare name and the other the tagged one: they decide alike
    rw [List.filterMap_cons, List.filterMap_cons, hopen, hfiltered, ih hrest]
    cases hn : w.taggedName? p with
    | none => cases f.isAllowed p.name <;> rfl
    | some name =>
      rw [← isAllowed_of_taggedName? (f := f) hn]
      cases ha : f.isAllowed name <;> simp [ha]

end MetricWriter

namespace Translation

open Exposition (Family Metric MetricData)

variable {w : MetricWriter} {f g : MetricFilter} {options : Options} {base : TagList}

/-- The points of some families: all that is tried, numbers that have no value of their type left out. -/
def points (options : Options) (base : TagList) (families : List Family) : List Point :=
  (attempts options base families).filterMap id

def hasForm (p : Point) : Bool :=
  match p.value.validate with
  | .ok () => true
  | .error _ => false

def Emission.name : Emission → String
  | .number name _ _ _ => name
  | .entries name _ _ => name

theorem point?_spec {timestamp : UInt64} {e : Emission} {p : Point} (h : e.point? options timestamp = some p) :
    p.name = e.name ∧ p.type = p.value.type ∧ p.dynamic = options.dynamic := by
  cases e with
  | number name type value tags =>
    obtain ⟨_, -, rfl⟩ := Option.map_eq_some_iff.mp h
    exact ⟨rfl, rfl, rfl⟩
  | entries name texts tags =>
    cases h
    exact ⟨rfl, rfl, rfl⟩

theorem name_of_mem_emissions {mode : HistogramMode} {name : String} {tags : TagList} {data : MetricData}
    {e : Emission} (h : e ∈ emissions mode name tags data) :
    e.name ∈ ["", "_count", "_sum", "_avg"].map (name ++ ·) := by
  cases data with
  | scalar value =>
    rw [List.mem_singleton.mp h]
    simp [Emission.name]
  | summary count sum quantiles =>
    simp only [emissions, List.mem_append, List.mem_cons, List.not_mem_nil, or_false, List.mem_map] at h
    obtain (rfl | rfl) | ⟨q, -, rfl⟩ := h <;> simp [Emission.name]
  | histogram count sum buckets =>
    simp only [emissions, List.mem_append, List.mem_cons, List.not_mem_nil, or_false] at h
    obtain ((rfl | rfl) | haverage) | hbuckets := h
    · simp [Emission.name]
    · simp [Emission.name]
    · split at haverage
      · rw [List.mem_singleton.mp haverage]
        simp [Emission.name]
      · cases haverage
    · split at hbuckets
      · split at hbuckets
        · cases hbuckets
        · rw [List.mem_singleton.mp hbuckets]
          simp [Emission.name]
      · obtain ⟨b, -, rfl⟩ := List.mem_map.mp hbuckets
        simp [Emission.name]

theorem ne_empty_of_mem_emissions {mode : HistogramMode} {name : String} {tags : TagList} {data : MetricData}
    {e : Emission} (hn : name ≠ "") (h : e ∈ emissions mode name tags data) : e.name ≠ "" := by
  obtain ⟨suffix, -, hs⟩ := List.mem_map.mp (name_of_mem_emissions h)
  rw [← hs]
  exact fun he ↦ hn (String.append_eq_empty_iff.mp he).1

theorem exists_emission {families : List Family} {p : Point} (h : some p ∈ attempts options base families) :
    ∃ f ∈ families, ∃ tags data timestamp, ∃ e ∈ emissions options.histogramMode f.name tags data,
      e.point? options timestamp = some p := by
  obtain ⟨f, hf, h⟩ := List.mem_flatMap.mp h
  obtain ⟨metric, -, h⟩ := List.mem_flatMap.mp h
  obtain ⟨e, he, hp⟩ := List.mem_map.mp h
  exact ⟨f, hf, _, _, _, e, he, hp⟩

theorem isWritable_of_mem_attempts {families : List Family} {p : Point} (hn : ∀ f ∈ families, f.name ≠ "")
    (h : some p ∈ attempts options base families) : MetricWriter.isWritable p = hasForm p := by
  obtain ⟨f, hf, _, _, _, e, he, hp⟩ := exists_emission h
  obtain ⟨hname, htype, -⟩ := point?_spec hp
  have hne : p.name ≠ "" := by
    rw [hname]
    exact ne_empty_of_mem_emissions (hn f hf) he
  rw [MetricWriter.isWritable, MetricWriter.check, if_neg hne, hasForm]
  cases p.value.validate with
  | error cause => rfl
  | ok =>
    dsimp only
    rw [if_pos htype.symm]

theorem writable_attempts {families : List Family} (hn : ∀ f ∈ families, f.name ≠ "") :
    writable (attempts options base families) = (points options base families).filter hasForm := by
  rw [points, List.filter_filterMap, writable]
  refine List.filterMap_congr fun attempt h ↦ ?_
  cases attempt with
  | none => rfl
  | some p =>
    have hp := isWritable_of_mem_attempts hn h
    simp [Option.filter, hp]

theorem dynamic_of_mem_writable {families : List Family} {p : Point}
    (h : p ∈ writable (attempts options base families)) : p.dynamic = options.dynamic := by
  obtain ⟨attempt, ha, hp⟩ := List.mem_filterMap.mp h
  rw [(Option.filter_eq_some_iff.mp hp).1] at ha
  obtain ⟨_, _, _, _, _, e, _, he⟩ := exists_emission ha
  exact (point?_spec he).2.2

/-- What a summary says that a filter has no part in. -/
def Summary.outline (s : Summary) : Summary := { s with written := 0, skipped := 0 }

theorem write_filteredBy (hw : w.filterDynamic = false) {point : Point} (hp : point.dynamic = true) (p : Progress) :
    p.write (w.filteredBy f) point = p.write (w.filteredBy g) point := by
  have hdenies (f : MetricFilter) : (w.filteredBy f).denies point = false := by
    rw [MetricWriter.denies, MetricWriter.filteredBy, hp, hw]
    rfl
  have hwrite : (w.filteredBy f).write p.ledger point = (w.filteredBy g).write p.ledger point := by
    rw [MetricWriter.write, MetricWriter.write, hdenies, hdenies]
    rfl
  rw [Progress.write, hwrite, Progress.write]

theorem emit_filteredBy (hw : w.filterDynamic = false) (ho : options.dynamic = true) :
    Progress.emit (w.filteredBy f) options = Progress.emit (w.filteredBy g) options := by
  funext timestamp p e
  cases e with
  | number name type value tags =>
    rw [Progress.emit, Progress.emit]
    cases MetricValue.ofFloat type value with
    | error cause => rfl
    | ok value => exact write_filteredBy hw ho p
  | entries name texts tags => exact write_filteredBy hw ho p

theorem families_filteredBy (hw : w.filterDynamic = false) (ho : options.dynamic = true) (cancelled : Nat → Bool)
    (place : Nat) (p : Progress) (families : List Family) :
    p.families (w.filteredBy f) options base cancelled place families =
      p.families (w.filteredBy g) options base cancelled place families := by
  have hfamily : Progress.family (w.filteredBy f) options base = Progress.family (w.filteredBy g) options base := by
    funext p family
    rw [Progress.family, Progress.family]
    refine congrArg (fun step ↦ family.metrics.foldl step p) ?_
    funext p metric
    rw [Progress.series, Progress.series, emit_filteredBy hw ho]
  induction families generalizing place p with
  | nil => rfl
  | cons family rest ih => rw [Progress.families, Progress.families, hfamily, ih]

theorem translate_congr (hw : w.filterDynamic = false) (ho : options.dynamic = true) (base : TagList)
    (cancelled : Nat → Bool) (text : String) (ledger : Ledger) :
    translate (w.filteredBy f) options base cancelled text ledger =
      translate (w.filteredBy g) options base cancelled text ledger := by
  have hrun (p : Progress) (families : List Family) :
      p.families (w.filteredBy f) options base cancelled 0 families =
        p.families (w.filteredBy g) options base cancelled 0 families :=
    families_filteredBy hw ho cancelled 0 p families
  rw [translate, translate]
  cases Exposition.read text with
  | error e => rfl
  | ok families =>
    dsimp only
    rw [hrun]

def pointsOf (options : Options) (base : TagList) (cancelled : Nat → Bool) (text : String) : List Point :=
  match Exposition.read text with
  | .ok families => points options base (visited cancelled 0 families)
  | .error _ => []

theorem mem_of_mem_visited {cancelled : Nat → Bool} {place : Nat} {families : List Family} {f : Family}
    (h : f ∈ visited cancelled place families) : f ∈ families := by
  induction families generalizing place with
  | nil => exact h
  | cons other rest ih =>
    rw [visited] at h
    split at h
    · cases h
    · rcases List.mem_cons.mp h with rfl | h
      · exact List.mem_cons_self
      · exact List.mem_cons_of_mem _ (ih h)

theorem countP_denies {families : List Family} (hn : ∀ f ∈ families, f.name ≠ "")
    (hd : (!options.dynamic || w.filterDynamic) = true) :
    (writable (attempts options base families)).countP (w.filteredBy f).denies =
      (points options base families).countP fun p ↦ hasForm p && !f.isAllowed p.name := by
  have hdenies : ∀ p ∈ writable (attempts options base families), (w.filteredBy f).denies p = !f.isAllowed p.name :=
    fun p hp ↦ MetricWriter.denies_filteredBy (by rw [dynamic_of_mem_writable hp]; exact hd)
  rw [List.countP_congr (q := fun p ↦ !f.isAllowed p.name) fun p hp ↦ by rw [hdenies p hp], writable_attempts hn,
    List.countP_filter]
  exact List.countP_congr fun p _ ↦ by rw [Bool.and_comm]

/-- Translated with a filter, an exposition leaves in an empty batch what the filter allows of the batch of an open
filter, and what it denies is counted; but where discovered endpoints are not filtered, no filter matters. -/
theorem translate_filteredBy (w : MetricWriter) (f g : MetricFilter) (options : Options) (base : TagList)
    (cancelled : Nat → Bool) (text : String) (ledger : Ledger) :
    let filtered := translate (w.filteredBy f) options base cancelled text ledger
    let reference := translate (w.filteredBy g) options base cancelled text ledger
    ((options.dynamic = false ∨ w.filterDynamic = true) → (∀ name, g.isAllowed name = true) →
      ledger.batch = .empty →
      filtered.ledger.batch = reference.ledger.batch.filter (fun name _ ↦ f.isAllowed name) ∧
      filtered.result.map Summary.outline = reference.result.map Summary.outline ∧
      filtered.ledger.stats = ledger.stats.addFiltered
        (.ofNat ((pointsOf options base cancelled text).countP fun p ↦ hasForm p && !f.isAllowed p.name))) ∧
    (options.dynamic = true → w.filterDynamic = false → filtered = reference) := by
  intro filtered reference
  refine ⟨fun hd hg hb ↦ ?_, fun ho hw ↦ ?_⟩
  · have hd : (!options.dynamic || w.filterDynamic) = true := by
      rcases hd with hd | hd <;> simp [hd]
    have hempty : (OrderedMap.empty : Batch).filter (fun name _ ↦ f.isAllowed name) = .empty := rfl
    cases hr : Exposition.read text with
    | error e =>
      have hnone : pointsOf options base cancelled text = [] := by rw [pointsOf, hr]
      dsimp only [filtered, reference]
      rw [translate, translate, hr, hnone]
      exact ⟨by rw [hb, hempty], rfl, by simp [Stats.addFiltered]⟩
    | ok families =>
      have hn : ∀ f ∈ visited cancelled 0 families, f.name ≠ "" := fun f hf ↦
        (Exposition.isMetricName_of_read hr f (mem_of_mem_visited hf)).ne_empty
      have hpoints : pointsOf options base cancelled text = points options base (visited cancelled 0 families) := by
        rw [pointsOf, hr]
      -- both runs make the same attempts, so they differ in their insertions alone
      obtain ⟨q, hq, hresult, -, hbatch, hstats⟩ :=
        translate_after hr (w.filteredBy f) options base cancelled ledger
      obtain ⟨q', hq', hresult', -, hbatch', -⟩ := translate_after hr (w.filteredBy g) options base cancelled ledger
      refine ⟨?_, ?_, ?_⟩
      · have hdynamic : ∀ p ∈ writable (attempts options base (visited cancelled 0 families)),
            (!p.dynamic || w.filterDynamic) = true := fun p hp ↦ by rw [dynamic_of_mem_writable hp]; exact hd
        have hitems := MetricWriter.insertions_filteredBy (f := f) hg hdynamic
        rw [hbatch, hbatch', hq.batch, hq'.batch, hb, hitems, OrderedMap.filter_insertAll, hempty]
      · rw [hresult, hresult', hq.summary, hq'.summary, apply_ite (Except.map Summary.outline),
          apply_ite (Except.map Summary.outline)]
        rfl
      · rw [hstats, hq.stats, hpoints, countP_denies hn hd]
  · exact translate_congr hw ho base cancelled text ledger

/-- A label holds a marker: the filter still sees the name in front of the tags alone. -/
theorem translate_filteredBy_marker :
    let w : MetricWriter := { encoder := {}, filter := ⟨[]⟩ }
    let onlyX : MetricFilter := ⟨[⟨.allow, "x", true, fun name ↦ name = "x"⟩]⟩
    let all : MetricFilter := ⟨[⟨.allow, ".*", true, fun _ ↦ true⟩]⟩
    let run (filter : MetricFilter) :=
      translate (w.filteredBy filter) {} .empty (fun _ ↦ false) "x\x7ba=\"|MT[\"\x7d 1\ny 2\n" {}
    (run all).ledger.batch.keys = ["x|ST[a:|MT[]", "y"] ∧
      (run onlyX).ledger.batch = (run all).ledger.batch.filter (fun name _ ↦ onlyX.isAllowed name) ∧
      (run onlyX).ledger.stats.filtered = 1 := by
  intro w onlyX all run
  have hkeys : (run all).ledger.batch.keys = ["x|ST[a:|MT[]", "y"] := by decide +kernel
  obtain ⟨hbatch, -, hstats⟩ := (translate_filteredBy w onlyX all {} .empty (fun _ ↦ false)
    "x\x7ba=\"|MT[\"\x7d 1\ny 2\n" {}).1 (.inl rfl) (fun _ ↦ rfl) rfl
  have hdenied : ((pointsOf {} .empty (fun _ ↦ false) "x\x7ba=\"|MT[\"\x7d 1\ny 2\n").countP fun p ↦
      hasForm p && !onlyX.isAllowed p.name) = 1 := by decide +kernel
  rw [hdenied] at hstats
  exact ⟨hkeys, hbatch, congrArg Stats.filtered hstats⟩

end Translation
end MetricRelay
