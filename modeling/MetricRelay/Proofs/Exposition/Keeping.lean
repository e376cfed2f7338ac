import MetricRelay.Proofs.Exposition.Replay
import MetricRelay.Proofs.Insertions

namespace MetricRelay.Exposition

/-- Among these contributions a point finds its series opened under another kind than its own. -/
def Contribution.isMisfit (contributions : List Contribution) (c : Contribution) : Bool :=
  c.part.isPoint && decide (c.part ≠ .scalar) &&
    (contributions.find? (Contribution.feeds c.family c.labels)).any (·.kind ≠ c.kind)

def Contribution.isKept (contributions : List Contribution) (c : Contribution) : Bool :=
  c.part.isPoint && !c.isMisfit contributions

theorem flatMap_upsert_perm {κ α β : Type} [DecidableEq κ] {p : κ × α → List β} {key : κ} {f : Option α → α}
    {extra : List β} {entries : List (κ × α)}
    (h : (p (key, f (Entries.get? key entries))).Perm
      ((Entries.get? key entries).elim [] (fun a ↦ p (key, a)) ++ extra)) :
    ((Entries.upsert key f entries).flatMap p).Perm (entries.flatMap p ++ extra) := by
  induction entries with
  | nil => simpa [Entries.upsert, Entries.get?] using h
  | cons entry rest ih =>
    obtain ⟨k, a⟩ := entry
    by_cases hk : k = key
    · subst hk
      have hget : Entries.get? k ((k, a) :: rest) = some a := by simp [Entries.get?]
      rw [hget] at h
      rw [Entries.upsert, if_pos rfl, List.flatMap_cons, List.flatMap_cons, List.append_assoc]
      refine (h.append_right _).trans ?_
      rw [Option.elim_some, List.append_assoc]
      exact List.perm_append_comm.append_left _
    · have hget : Entries.get? key ((k, a) :: rest) = Entries.get? key rest := by simp [Entries.get?, hk]
      rw [hget] at h
      rw [Entries.upsert, if_neg hk, List.flatMap_cons, List.flatMap_cons, List.append_assoc]
      exact (ih h).append_left _

namespace Families

variable {families next : Families}

theorem stateOf_change (name other : String) (g : FamilyState → FamilyState) :
    (families.change name g).stateOf other =
      if name = other then g (families.stateOf name) else families.stateOf other := by
  rw [stateOf, change, OrderedMap.get?_upsert]
  split <;> rfl

def points (families : Families) : List Point := families.entries.flatMap fun (name, state) ↦ state.points name

theorem points_toList (families : Families) : families.toList.flatMap Family.points = families.points := by
  rw [toList, List.flatMap_map]
  rfl

theorem mem_toList_of_series? {name : String} {labels : List Label} {m : Metric}
    (h : (families.stateOf name).series? labels = some m) :
    ⟨name, (families.stateOf name).help, (families.stateOf name).kind, (families.stateOf name).metrics.toList⟩ ∈
      families.toList := by
  unfold stateOf at h ⊢
  cases hg : families.get? name with
  | none => rw [hg] at h; cases h
  | some state => exact List.mem_map_of_mem (OrderedMap.get?_eq_some_iff.mp hg)

theorem points_change {name : String} {g : FamilyState → FamilyState} {extra : List Point}
    (h : ((g (families.stateOf name)).points name).Perm ((families.stateOf name).points name ++ extra)) :
    (families.change name g).points.Perm (families.points ++ extra) := by
  refine flatMap_upsert_perm ?_
  rw [stateOf, OrderedMap.get?] at h
  cases hg : Entries.get? name families.entries with
  | none => rw [hg] at h; exact h
  | some state => rw [hg] at h; exact h

/-- The account of the contributions made so far. -/
structure Keeps (families : Families) (contributions : List Contribution) : Prop where
  fits : ∀ c ∈ contributions, c.part.Fits c.kind
  indexed : ∀ name, (families.stateOf name).Indexed
  series : ∀ name labels,
    (families.stateOf name).series? labels = replay (contributions.filter (Contribution.feeds name labels))
  points : families.points.Perm ((contributions.filter (Contribution.isKept contributions)).map Contribution.point)

theorem keeps_empty : Keeps .empty [] :=
  ⟨fun _ hc ↦ absurd hc List.not_mem_nil, fun _ ↦ FamilyState.indexed_new, fun _ _ ↦ rfl, .refl _⟩

variable {contributions : List Contribution}

theorem Keeps.change (h : families.Keeps contributions) {name : String} {g : FamilyState → FamilyState}
    (hg : ∀ state, (g state).metrics = state.metrics ∧ (g state).groups = state.groups) :
    (families.change name g).Keeps contributions := by
  have hindexed {state : FamilyState} (hs : state.Indexed) : (g state).Indexed := by
    constructor <;> rw [(hg state).1, (hg state).2]
    · exact hs.metric
    · exact hs.place
  have hseries (state : FamilyState) (labels : List Label) : (g state).series? labels = state.series? labels := by
    rw [FamilyState.series?, (hg state).1, (hg state).2, FamilyState.series?]
  refine ⟨h.fits, fun other ↦ ?_, fun other labels ↦ ?_, ?_⟩
  · rw [stateOf_change]
    split
    · exact hindexed (h.indexed name)
    · exact h.indexed other
  · rw [stateOf_change, ← h.series]
    split
    · next he => rw [hseries, he]
    · rfl
  · have hpoints : (families.change name g).points.Perm (families.points ++ []) := by
      refine points_change ?_
      rw [FamilyState.points, (hg _).1, List.append_nil, FamilyState.points]
    rw [List.append_nil] at hpoints
    exact hpoints.trans h.points

/-- Misfits are told by the contributions in front of them. -/
theorem isKept_append {c : Contribution} (hc : c ∈ contributions) (more : List Contribution) :
    c.isKept (contributions ++ more) = c.isKept contributions := by
  unfold Contribution.isKept Contribution.isMisfit
  by_cases hp : c.part = .scalar
  · simp [hp]
  · -- the contribution feeds its own series, so the one that opened the series is among them
    have hfind : (contributions.find? (Contribution.feeds c.family c.labels)).isSome := by
      rw [List.find?_isSome]
      exact ⟨c, hc, Contribution.feeds_self hp⟩
    obtain ⟨opener, ho⟩ := Option.isSome_iff_exists.mp hfind
    rw [List.find?_append, ho, Option.some_or]

theorem Keeps.isKept_concat (h : families.Keeps contributions) {c : Contribution} (hf : c.part.Fits c.kind) :
    c.isKept (contributions ++ [c]) = (c.part.isPoint && (families.stateOf c.family).suits c) := by
  unfold Contribution.isKept Contribution.isMisfit FamilyState.suits
  by_cases hc : c.part = .scalar
  · simp [hc]
  rw [h.series, List.find?_append, ← List.head?_filter]
  cases hs : contributions.filter (Contribution.feeds c.family c.labels) with
  | nil => simp [replay, Contribution.feeds_self hc]
  | cons opener rest =>
    obtain ⟨m, hm, -, hsummary⟩ := exists_replay opener rest
    have hopener : opener ∈ contributions.filter (Contribution.feeds c.family c.labels) := hs ▸ List.mem_cons_self
    obtain ⟨hmem, hf'⟩ := List.mem_filter.mp hopener
    have hne : opener.part ≠ .scalar := (of_decide_eq_true hf').1
    rw [hm]
    rcases (h.fits opener hmem).isGrouped hne with hk | hk <;> rcases hf.isGrouped hc with hk' | hk' <;>
      simp [hsummary, hk, hk', hc]

theorem Keeps.take (h : families.Keeps contributions) {c : Contribution} (hk : c.kind = families.kindOf c.family)
    (hf : c.part.Fits c.kind) : (families.change c.family (·.take c)).Keeps (contributions ++ [c]) := by
  have hstate := h.indexed c.family
  refine ⟨?_, fun other ↦ ?_, fun other labels ↦ ?_, ?_⟩
  · exact List.forall_mem_append.mpr ⟨h.fits, List.forall_mem_singleton.mpr hf⟩
  · rw [stateOf_change]
    split
    · exact hstate.take c
    · exact h.indexed other
  · have hfilter : (contributions ++ [c]).filter (Contribution.feeds other labels) =
        contributions.filter (Contribution.feeds other labels) ++ if c.feeds other labels then [c] else [] := by
      rw [List.filter_append, List.filter_cons, List.filter_nil]
    rw [stateOf_change, hfilter]
    by_cases ho : c.family = other
    · subst ho
      rw [if_pos rfl, hstate.series?_take hk, h.series]
      by_cases hl : c.part ≠ .scalar ∧ c.labels = labels
      · have hfeeds : c.feeds c.family labels = true := decide_eq_true ⟨hl.1, rfl, hl.2⟩
        rw [if_pos hl, if_pos hfeeds, replay_concat]
      · have hfeeds : ¬c.feeds c.family labels = true := fun hd ↦ by
          have hd := of_decide_eq_true hd
          exact hl ⟨hd.1, hd.2.2⟩
        rw [if_neg hl, if_neg hfeeds, List.append_nil]
    · have hfeeds : ¬c.feeds other labels = true := fun hd ↦ ho (of_decide_eq_true hd).2.1
      rw [if_neg ho, if_neg hfeeds, List.append_nil, h.series]
  · have hfilter : (contributions ++ [c]).filter (Contribution.isKept (contributions ++ [c])) =
        contributions.filter (Contribution.isKept contributions) ++
          if c.part.isPoint && (families.stateOf c.family).suits c then [c] else [] := by
      rw [List.filter_append, List.filter_congr fun d hd ↦ isKept_append hd [c], List.filter_cons, List.filter_nil,
        h.isKept_concat hf]
    have hpoints := points_change (hstate.points_take hk hf c.family)
    rw [hfilter, List.map_append, apply_ite (List.map Contribution.point)]
    exact hpoints.trans (h.points.append_right _)

theorem Keeps.readLines (h : families.Keeps contributions) {number : Nat} {lines : List (List Char)}
    (hr : families.readLines number lines = .ok next) :
    next.Keeps (contributions ++ families.contributions lines) := by
  induction lines generalizing families contributions number with
  | nil =>
    cases hr
    rw [Families.contributions, List.append_nil]
    exact h
  | cons line others ih =>
    rw [Families.readLines] at hr
    rw [Families.contributions]
    cases hl : families.readLine line with
    | error e => rw [hl] at hr; cases hr
    | ok middle =>
      rw [hl] at hr
      dsimp only at hr ⊢
      rw [← List.append_assoc]
      by_cases hs : isSample line = true
      · obtain ⟨c, hc, rfl⟩ := readLine_of_isSample hs hl
        obtain ⟨hk, hf⟩ := contribution?_eq_some hc
        rw [hc]
        exact ih (h.take hk hf) hr
      · have hs : isSample line = false := Bool.eq_false_iff.mpr hs
        rw [contribution?_of_not_isSample hs, Option.toList_none, List.append_nil]
        rcases readLine_of_not_isSample hs hl with rfl | ⟨name, g, rfl, hg⟩
        · exact ih h hr
        · exact ih (h.change hg) hr

end Families

theorem countP_isKept (contributions others : List Contribution) :
    contributions.countP (Contribution.isKept others) + contributions.countP (Contribution.isMisfit others) =
      contributions.countP (·.part.isPoint) := by
  rw [List.countP_eq_countP_filter_add contributions (·.part.isPoint) (Contribution.isMisfit others),
    List.countP_filter, List.countP_filter, Nat.add_comm]
  congr 1
  refine List.countP_congr fun c _ ↦ ?_
  simp only [Contribution.isMisfit, Bool.and_eq_true]
  tauto

/-- An exposition is read with one account of all its samples. Each line of a sample makes one contribution. The
scalars, quantiles and buckets of the families are those that the lines contribute, each once and in the family that
the line was resolved to, but for the misfits: lines whose series was opened while the family had another kind. The last
line of the sum of a series gives its sum, and the last one of its count gives its count. -/
theorem read_keeps {text : String} {families : List Family} (h : read text = .ok families) :
    let lines := Text.lines text.toList
    let contributions := Families.contributions .empty lines
    let points := families.flatMap Family.points
    contributions.length = lines.countP isSample ∧ (families.map Family.name).Nodup ∧
      points.Perm ((contributions.filter (Contribution.isKept contributions)).map Contribution.point) ∧
      points.length + contributions.countP (Contribution.isMisfit contributions) =
        contributions.countP (·.part.isPoint) ∧
      ∀ before c after, contributions = before ++ c :: after → c.part.isPoint = false →
        (∀ d ∈ after, d.feeds c.family c.labels → d.part ≠ c.part) →
          ∃ f ∈ families, f.name = c.family ∧ ∃ m, f.metrics.filter (Metric.isSeriesOf c.labels) = [m] ∧
            m.data.tally? c.part = some c.value := by
  intro lines contributions points
  rw [read] at h
  cases hr : Families.readLines .empty 1 lines with
  | error e => rw [hr] at h; cases h
  | ok last =>
    rw [hr] at h
    obtain rfl : last.toList = families := Except.ok.inj h
    have hkeeps : last.Keeps contributions := Families.keeps_empty.readLines hr
    have hpoints : points.Perm ((contributions.filter (Contribution.isKept contributions)).map Contribution.point) := by
      have heq : points = last.points := last.points_toList
      rw [heq]
      exact hkeeps.points
    refine ⟨Families.length_contributions hr, ?_, hpoints, ?_, fun before c after he hc hlast ↦ ?_⟩
    · rw [Families.toList, List.map_map]
      exact last.nodup
    · rw [hpoints.length_eq, List.length_map, ← List.countP_eq_length_filter, countP_isKept]
    · -- of the contributions to the series of `c`, those behind it leave the sum or the count alone
      have hscalar : c.part ≠ .scalar := fun hs ↦ by rw [hs] at hc; cases hc
      have hseries := hkeeps.series c.family c.labels
      rw [he, List.filter_append, List.filter_cons_of_pos (Contribution.feeds_self hscalar)] at hseries
      obtain ⟨m, hm, htally⟩ := tally?_replay (before.filter (Contribution.feeds c.family c.labels)) hc fun d hd ↦
        hlast d (List.mem_filter.mp hd).1 (List.mem_filter.mp hd).2
      rw [hm] at hseries
      exact ⟨_, Families.mem_toList_of_series? hseries, rfl, m, (hkeeps.indexed c.family).filter_metrics hseries, htally⟩

/-- A summary, the sum of which is given twice, and a scalar behind it. -/
theorem read_keeps_summary :
    let text := "# TYPE f summary\nf\x7bquantile=\"0.5\"\x7d 1\nf_sum 2\n# HELP f late\nf_sum 3\nup 1\n"
    ∃ families, read text = .ok families ∧ (families.flatMap Family.points).length = 2 ∧
      ∃ f ∈ families, f.name = "f" ∧ ∃ m, f.metrics.filter (Metric.isSeriesOf []) = [m] ∧
        m.data.tally? .sum = some ⟨0x4008000000000000⟩ := by
  intro text
  let contributions := Families.contributions .empty (Text.lines text.toList)
  let sum (value : Binary64) : Contribution := ⟨"f", .summary, [], none, .sum, value⟩
  let point (number value : Binary64) : Contribution := ⟨"f", .summary, [], none, .quantile number, value⟩
  let up : Contribution := ⟨"up", .untyped, [], none, .scalar, ⟨0x3FF0000000000000⟩⟩
  have hcontributions : contributions = [point ⟨0x3FE0000000000000⟩ ⟨0x3FF0000000000000⟩, sum ⟨0x4000000000000000⟩] ++
      sum ⟨0x4008000000000000⟩ :: [up] := by decide +kernel
  have hok : ∃ families, read text = .ok families := by
    have hread : (read text).isOk = true := by decide +kernel
    cases hr : read text with
    | ok families => exact ⟨families, rfl⟩
    | error e => rw [hr] at hread; cases hread
  obtain ⟨families, hr⟩ := hok
  obtain ⟨-, -, -, hcount, htally⟩ := read_keeps hr
  have hmisfits : contributions.countP (Contribution.isMisfit contributions) = 0 := by decide +kernel
  have hpoints : contributions.countP (·.part.isPoint) = 2 := by decide +kernel
  refine ⟨families, hr, ?_, ?_⟩
  · rw [hmisfits, hpoints] at hcount
    exact hcount
  · exact htally _ _ _ hcontributions rfl (by decide)

/-- A bucket is lost if the summary of its labels was opened before the family became a histogram. -/
theorem read_loses_bucket :
    let text := "# TYPE f summary\nf\x7bquantile=\"0.5\"\x7d 1\n# TYPE f histogram\nf_bucket\x7ble=\"1\"\x7d 2\n"
    let contributions := Families.contributions .empty (Text.lines text.toList)
    ∃ families, read text = .ok families ∧ contributions.countP (·.part.isPoint) = 2 ∧
      (families.flatMap Family.points).length = 1 := by
  intro text contributions
  have hpoints : (read text).map (fun families ↦ (families.flatMap Family.points).length) = .ok 1 := by decide +kernel
  cases hr : read text with
  | error e => rw [hr] at hpoints; cases hpoints
  | ok families =>
    rw [hr] at hpoints
    exact ⟨families, rfl, by decide +kernel, Except.ok.inj hpoints⟩

end MetricRelay.Exposition
