import Mathlib.Control.Monad.Basic
import Mathlib.Data.List.Basic
import MetricRelay.Proofs.Batch.Run
import MetricRelay.Proofs.Binary64.Order
import MetricRelay.Proofs.Decimal.Numeral
import MetricRelay.Proofs.Text.Scanning

namespace MetricRelay.Translation

open Exposition (Bucket Metric MetricData)
open Binary64 (unitsPerOne unitsPerOne_pos)

variable {x y : Binary64} {total reached : Nat} {buckets : List Bucket}

theorem nearest_eq (units : Nat) {one : Nat} (h : 0 < one) :
    (2 * units + one) / (2 * one) = units / one + if one ≤ 2 * (units % one) then 1 else 0 := by
  have hrest : units % one < one := Nat.mod_lt _ h
  have hsplit : 2 * units + one = 2 * (units % one) + one + 2 * one * (units / one) := by
    have hunits := Nat.div_add_mod units one
    rw [Nat.mul_assoc]
    omega
  rw [hsplit, Nat.add_mul_div_left _ _ (by omega), Nat.add_comm]
  congr 1
  split
  · exact Nat.div_eq_of_lt_le (by omega) (by omega)
  · exact Nat.div_eq_of_lt (by omega)

theorem toCount_le (x : Binary64) : toCount x ≤ UInt64.size - 1 := by
  unfold toCount
  split
  · exact Nat.zero_le _
  split
  · split
    · exact Nat.zero_le _
    · exact Nat.le_refl _
  · exact Nat.min_le_right _ _

theorem toCount_of_isNegative (h : x.isNegative = true) : toCount x = 0 := by
  unfold toCount
  split
  · rfl
  rw [Binary64.roundAway, h]
  simp only [if_true]
  split
  · rfl
  · rw [Int.toNat_neg_natCast]
    exact Nat.zero_min _

theorem toCount_of_isFinite (hf : x.isFinite = true) (hn : x.isNegative = false) :
    toCount x = min ((2 * x.units + unitsPerOne) / (2 * unitsPerOne)) (UInt64.size - 1) := by
  have hmagnitude : x.magnitudeBits < Binary64.infinityBits := of_decide_eq_true hf
  have hnan : x.isNaN = false := decide_eq_false (Nat.lt_asymm hmagnitude)
  have hinfinite : x.isInfinite = false := decide_eq_false (Nat.ne_of_lt hmagnitude)
  rw [toCount, hnan, hinfinite, Binary64.roundAway, hn, if_neg Bool.false_ne_true, if_neg Bool.false_ne_true,
    if_neg Bool.false_ne_true, Int.toNat_natCast]

theorem toCount_of_units_eq_zero (h : x.magnitudeBits = 0) : toCount x = 0 := by
  cases hn : x.isNegative with
  | true => exact toCount_of_isNegative hn
  | false =>
    have hf : x.isFinite = true := by
      rw [Binary64.isFinite, h]
      rfl
    have hhalf : (2 * 0 + unitsPerOne) / (2 * unitsPerOne) = 0 := Nat.div_eq_of_lt (by
      have := unitsPerOne_pos
      omega)
    rw [toCount_of_isFinite hf hn, Binary64.units_of_magnitudeBits_eq_zero h, hhalf]
    exact Nat.zero_min _

theorem toCount_eq (hf : x.isFinite = true) (hn : x.lt .zero = false) :
    toCount x = min ((2 * x.units + unitsPerOne) / (2 * unitsPerOne)) (UInt64.size - 1) := by
  cases hneg : x.isNegative with
  | false => exact toCount_of_isFinite hf hneg
  | true =>
    have hnan : x.isNaN = false := decide_eq_false (Nat.lt_asymm (of_decide_eq_true hf))
    have hzero := Binary64.isZero_of_not_lt_zero hneg hnan hn
    have hhalf : (2 * 0 + unitsPerOne) / (2 * unitsPerOne) = 0 := Nat.div_eq_of_lt (by
      have := unitsPerOne_pos
      omega)
    rw [toCount_of_isNegative hneg, Binary64.units_of_magnitudeBits_eq_zero hzero, hhalf]
    exact (Nat.zero_min _).symm

theorem toCount_mono (hy : y.isNaN = false) (h : x.rank ≤ y.rank) : toCount x ≤ toCount y := by
  unfold Binary64.rank at h
  cases hxn : x.isNegative with
  | true =>
    rw [toCount_of_isNegative hxn]
    exact Nat.zero_le _
  | false =>
    cases hyn : y.isNegative with
    | true =>
      rw [hxn, hyn] at h
      simp only [Bool.false_eq_true, if_false, if_true] at h
      rw [toCount_of_units_eq_zero (by omega)]
      exact Nat.zero_le _
    | false =>
      rw [hxn, hyn] at h
      simp only [Bool.false_eq_true, if_false] at h
      have hle : x.magnitudeBits ≤ y.magnitudeBits := by omega
      cases hyf : y.isFinite with
      | true =>
        have hxf : x.isFinite = true := decide_eq_true (Nat.lt_of_le_of_lt hle (of_decide_eq_true hyf))
        have hunits := Binary64.units_mono hle
        rw [toCount_of_isFinite hxf hxn, toCount_of_isFinite hyf hyn]
        refine Nat.le_min_of_le_of_le ((Nat.min_le_left _ _).trans ?_) (Nat.min_le_right _ _)
        exact Nat.div_le_div_right (by omega)
      | false =>
        have hyi : y.isInfinite = true := by
          unfold Binary64.isFinite at hyf
          unfold Binary64.isNaN at hy
          simp only [decide_eq_false_iff_not] at hyf hy
          exact decide_eq_true (by omega)
        have htop : toCount y = UInt64.size - 1 := by
          rw [toCount, hy, hyi, hyn]
          rfl
        rw [htop]
        exact toCount_le x

/-- The number is the greatest among the cumulative counts of some buckets; those that are not a number have none. -/
structure IsGreatestCount (count : Binary64) (buckets : List Bucket) : Prop where
  reached : ∃ b ∈ buckets, b.cumulativeCount.numEq count = true
  bound : ∀ b ∈ buckets, count.lt b.cumulativeCount = false

theorem IsGreatestCount.toCount_le (h : IsGreatestCount x buckets) (hx : x.isNaN = false) :
    ∀ b ∈ buckets, toCount b.cumulativeCount ≤ toCount x := by
  intro b hb
  cases hnan : b.cumulativeCount.isNaN with
  | true =>
    rw [toCount, hnan]
    exact Nat.zero_le _
  | false => exact toCount_mono hx (Binary64.rank_le_of_not_lt hx hnan (h.bound b hb))

theorem IsGreatestCount.exists_toCount_eq (h : IsGreatestCount x buckets) :
    ∃ b ∈ buckets, toCount b.cumulativeCount = toCount x := by
  obtain ⟨b, hb, he⟩ := h.reached
  rw [Binary64.numEq] at he
  simp only [Bool.and_eq_true, Bool.not_eq_true', decide_eq_true_eq] at he
  obtain ⟨⟨hnan, hx⟩, hrank⟩ := he
  have hle : toCount b.cumulativeCount ≤ toCount x := toCount_mono hx hrank.le
  have hge : toCount x ≤ toCount b.cumulativeCount := toCount_mono hnan hrank.ge
  exact ⟨b, hb, Nat.le_antisymm hle hge⟩

/-- While the entries hold all that has been reached, those to come hold what is missing to the total. -/
theorem sum_entriesFrom (hle : ∀ b ∈ buckets, toCount b.cumulativeCount ≤ total) (hr : reached ≤ total)
    (hmax : reached = total ∨ ∃ b ∈ buckets, toCount b.cumulativeCount = total) :
    reached + ((entriesFrom total reached reached buckets).map Entry.count).sum = total := by
  induction buckets generalizing reached with
  | nil =>
    have hreached : reached = total := hmax.resolve_right (by simp)
    exact hreached
  | cons b rest ih =>
    obtain ⟨hb, hrest⟩ := List.forall_mem_cons.mp hle
    rw [List.exists_mem_cons_iff] at hmax
    rw [entriesFrom]
    split
    · next hzero =>
      -- the bucket adds nothing, so it is not the one that reaches the total
      have hgreatest : max reached (toCount b.cumulativeCount) = reached := by omega
      rw [hgreatest]
      refine ih hrest hr ?_
      rcases hmax with hmax | hmax | hmax
      · exact .inl hmax
      · exact .inl (by omega)
      · exact .inr hmax
    · next hpos =>
      split
      · next hlast =>
        rw [List.map_singleton, List.sum_singleton]
        dsimp only
        omega
      · next hmore =>
        have hgreatest : max reached (toCount b.cumulativeCount) = toCount b.cumulativeCount := by omega
        have hrunning : reached + (toCount b.cumulativeCount - reached) = toCount b.cumulativeCount := by omega
        rw [hgreatest, hrunning, List.map_cons, List.sum_cons, ← Nat.add_assoc, hrunning]
        refine ih hrest hb ?_
        rcases hmax with hmax | hmax | hmax
        · omega
        · omega
        · exact .inr hmax

theorem sum_entries (h : IsGreatestCount x buckets) (hx : x.isNaN = false) :
    ((entries buckets (toCount x)).map Entry.count).sum = toCount x := by
  have hmem (b : Bucket) : b ∈ sortBuckets buckets ↔ b ∈ buckets := (List.mergeSort_perm buckets _).mem_iff
  unfold entries
  split
  · next hzero => exact hzero.symm
  · have hle : ∀ b ∈ sortBuckets buckets, toCount b.cumulativeCount ≤ toCount x :=
      fun b hb ↦ h.toCount_le hx b ((hmem b).mp hb)
    obtain ⟨b, hb, heq⟩ := h.exists_toCount_eq
    have hsum := sum_entriesFrom hle (Nat.zero_le _) (.inr ⟨b, (hmem b).mpr hb, heq⟩)
    rwa [Nat.zero_add] at hsum

def countIn (entry : String) : Nat := Decimal.value (entry.toList.reverse.takeWhile Char.isDigit).reverse

theorem countIn_text (e : Entry) : countIn e.text = e.count := by
  have hdigits : ∀ c ∈ (Nat.toDigits 10 e.count).reverse, c.isDigit := fun c hc ↦
    Nat.isDigit_of_mem_toDigits (by decide) (by decide) (List.mem_reverse.mp hc)
  have htext : e.text.toList.reverse = (Nat.toDigits 10 e.count).reverse ++
      '=' :: (']' :: ("H[" ++ formatFloat (scaledBound e.bound)).toList.reverse) := by
    have hcount : (toString e.count).toList = Nat.toDigits 10 e.count := Nat.toList_repr
    rw [Entry.text, String.toList_append, hcount, List.reverse_append, String.toList_append, List.reverse_append]
    rfl
  rw [countIn, htext, Text.takeWhile_run hdigits (Text.stopsAt_cons.mpr rfl), List.reverse_reverse, Decimal.value_toDigits]

def observed : MetricValue → Nat
  | .cumulativeHistogram entries => (entries.map countIn).sum
  | _ => 0

def observations (points : List Point) : Nat := (points.map fun p ↦ observed p.value).sum

def valuesOf (name : String) (points : List Point) : List MetricValue :=
  (points.filter fun p ↦ p.name = name).map Point.value

def seriesPoints (options : Options) (base : TagList) (name : String) (metric : Metric) : List Point :=
  (seriesAttempts options base name metric).filterMap id

def roundsAway (x : Binary64) : Bool := unitsPerOne ≤ 2 * (x.units % unitsPerOne)

def Emission.observed : Emission → Nat
  | .number .. => 0
  | .entries _ texts _ => (texts.map countIn).sum

variable {options : Options} {base : TagList} {name : String} {timestamp : UInt64}

theorem Emission.observed_point? (e : Emission) :
    (e.point? options timestamp).elim 0 (fun p ↦ Translation.observed p.value) = e.observed := by
  cases e with
  | number name type value tags =>
    rw [Emission.point?]
    cases hv : MetricValue.ofFloat type value with
    | error cause => rfl
    | ok v =>
      obtain ⟨htype, hcarries⟩ := MetricValue.type_ofFloat hv
      rw [← htype] at hcarries
      cases v <;> first | rfl | cases hcarries
  | entries name texts tags => rfl

theorem observations_filterMap (es : List Emission) :
    observations (es.filterMap (Emission.point? options timestamp)) = (es.map Emission.observed).sum := by
  induction es with
  | nil => rfl
  | cons e es ih =>
    have he : (e.point? options timestamp).elim 0 (fun p ↦ Translation.observed p.value) = e.observed :=
      e.observed_point?
    rw [List.filterMap_cons, List.map_cons, List.sum_cons, ← ih, ← he]
    cases e.point? options timestamp with
    | none => exact (Nat.zero_add _).symm
    | some p => rfl

theorem valuesOf_filterMap (es : List Emission) :
    valuesOf name (es.filterMap (Emission.point? options timestamp)) =
      ((es.filter fun e ↦ e.name = name).filterMap (Emission.point? options timestamp)).map Point.value := by
  rw [valuesOf, List.filter_filterMap, List.filterMap_filter]
  congr 1
  refine List.filterMap_congr fun e _ ↦ ?_
  cases hp : e.point? options timestamp with
  | none => simp
  | some p =>
    obtain ⟨hname, -⟩ := point?_spec hp
    by_cases he : e.name = name <;> simp [Option.filter, hname, he]

theorem ofFloat_uint64 (hf : x.isFinite = true) (hn : x.lt .zero = false) :
    MetricValue.ofFloat .uint64 x = .ok (.uint64 (UInt64.ofNat (min (x.units / unitsPerOne) (UInt64.size - 1)))) := by
  have hnan : x.isNaN = false := decide_eq_false (Nat.lt_asymm (of_decide_eq_true hf))
  have hsigned : x.signedUnits = x.units := by
    rw [Binary64.signedUnits]
    split
    · next hneg =>
      rw [Binary64.units_of_magnitudeBits_eq_zero (Binary64.isZero_of_not_lt_zero hneg hnan hn)]
      rfl
    · rfl
  have htrunc : x.trunc? = some ((x.units / unitsPerOne : Nat) : Int) := by
    rw [Binary64.trunc?, if_pos hf, hsigned, Int.ofNat_tdiv]
  rw [MetricValue.ofFloat, hnan, if_neg Bool.false_ne_true, htrunc]
  dsimp only
  rw [if_pos (Int.natCast_nonneg _), Int.toNat_natCast]

theorem seriesPoints_eq (options : Options) (base : TagList) (name : String) (metric : Metric) :
    seriesPoints options base name metric =
      (emissions options.histogramMode name (seriesTags base metric) metric.data).filterMap
        (Emission.point? options (seriesTimestamp options metric)) := by
  rw [seriesPoints, seriesAttempts, List.filterMap_map]
  rfl

variable {metric : Metric} {count sum : Binary64}

theorem valuesOf_count (hdata : metric.data = .histogram count sum buckets) {n : UInt64}
    (hn : MetricValue.ofFloat .uint64 count = .ok (.uint64 n)) :
    valuesOf (name ++ "_count") (seriesPoints options base name metric) = [.uint64 n] := by
  have hself : name ≠ name ++ "_count" := fun he ↦ absurd (String.append_eq_left_iff.mp he.symm) (by decide)
  have hsum : name ++ "_sum" ≠ name ++ "_count" := fun he ↦
    absurd ((String.append_right_inj name).mp he) (by decide)
  have haverage : name ++ "_avg" ≠ name ++ "_count" := fun he ↦
    absurd ((String.append_right_inj name).mp he) (by decide)
  have hfilter : (emissions options.histogramMode name (seriesTags base metric) metric.data).filter
      (fun e ↦ e.name = name ++ "_count") = [.number (name ++ "_count") .uint64 count (seriesTags base metric)] := by
    rw [hdata]
    dsimp only [emissions]
    rw [List.filter_append, List.filter_append]
    have hfirst : ([.number (name ++ "_count") .uint64 count (seriesTags base metric),
        .number (name ++ "_sum") .float64 sum (seriesTags base metric)] : List Emission).filter
          (fun e ↦ e.name = name ++ "_count") =
        [.number (name ++ "_count") .uint64 count (seriesTags base metric)] := by
      simp [Emission.name, hsum]
    rw [hfirst, List.append_assoc]
    refine congrArg _ (List.append_eq_nil_iff.mpr ⟨?_, ?_⟩)
    · split
      · simp [Emission.name, haverage]
      · rfl
    · refine List.filter_eq_nil_iff.mpr fun e he ↦ ?_
      have hname : e.name = name := by
        split at he
        · split at he
          · cases he
          · rw [List.mem_singleton.mp he]
            rfl
        · obtain ⟨b, -, rfl⟩ := List.mem_map.mp he
          rfl
      rw [hname]
      exact fun hd ↦ hself (of_decide_eq_true hd)
  rw [seriesPoints_eq, valuesOf_filterMap, hfilter, List.filterMap_cons, Emission.point?, hn]
  rfl

theorem observations_entries (hdata : metric.data = .histogram count sum buckets)
    (hmode : options.histogramMode = .cumulative) :
    observations (seriesPoints options base name metric) =
      ((entries buckets (toCount count)).map Entry.count).sum := by
  have haverage : ((if Binary64.zero.lt count then
      [Emission.number (name ++ "_avg") .float64 (sum.div count) (seriesTags base metric)] else []).map
        Emission.observed).sum = 0 := by
    split <;> rfl
  have htexts : (entries buckets (toCount count)).map Entry.count =
      (reduceHistogram buckets (toCount count)).map countIn := by
    rw [reduceHistogram, List.map_map]
    exact List.map_congr_left fun e _ ↦ (countIn_text e).symm
  rw [seriesPoints_eq, observations_filterMap, hdata, hmode, emissions, List.map_append, List.sum_append,
    List.map_append, List.sum_append, haverage, htexts]
  cases reduceHistogram buckets (toCount count) with
  | nil => rfl
  | cons text texts => exact Nat.zero_add _

/-- What a histogram tells of its observations, if its count is the greatest of its buckets: its sample holds the integer
part of the count, and its entries add up to the nearest integer. They agree unless the fraction is a half or more. -/
theorem observations_eq (hdata : metric.data = .histogram count sum buckets)
    (hmode : options.histogramMode = .cumulative) (hfinite : count.isFinite = true) (hzero : count.lt .zero = false)
    (hgreatest : IsGreatestCount count buckets) :
    let points := seriesPoints options base name metric
    ∃ n : UInt64, valuesOf (name ++ "_count") points = [.uint64 n] ∧
      observations points = n.toNat + (roundsAway count).toNat := by
  intro points
  have hnan : count.isNaN = false := decide_eq_false (Nat.lt_asymm (of_decide_eq_true hfinite))
  refine ⟨_, valuesOf_count hdata (ofFloat_uint64 hfinite hzero), ?_⟩
  have hpart : (UInt64.ofNat (min (count.units / unitsPerOne) (UInt64.size - 1))).toNat =
      min (count.units / unitsPerOne) (UInt64.size - 1) := by
    refine UInt64.toNat_ofNat_of_lt (Nat.lt_of_le_of_lt (Nat.min_le_right _ _) ?_)
    decide
  rw [observations_entries hdata hmode, sum_entries hgreatest hnan, hpart, toCount_eq hfinite hzero,
    nearest_eq _ unitsPerOne_pos, roundsAway]
  -- a count that has a fraction is far from the greatest integer
  by_cases hr : unitsPerOne ≤ 2 * (count.units % unitsPerOne)
  · have hfraction : count.units % unitsPerOne ≠ 0 := by
      have := unitsPerOne_pos
      omega
    have hsmall := Binary64.units_lt_of_fraction hfraction
    rw [if_pos hr, decide_eq_true hr, Nat.min_eq_left, Nat.min_eq_left]
    · rfl
    · exact hsmall.le.trans (by decide)
    · exact Nat.succ_le_of_lt (hsmall.trans_le (by decide))
  · rw [if_neg hr, decide_eq_false hr]
    rfl

/-- The buckets are not sorted, the greatest holds 5.25 observations, and five are told by both. -/
theorem observations_eq_quarter :
    let count : Binary64 := ⟨0x4015000000000000⟩
    let buckets : List Bucket := [⟨⟨0x4000000000000000⟩, count⟩, ⟨⟨0x3FF0000000000000⟩, ⟨0x4008000000000000⟩⟩]
    let points := seriesPoints {} .empty "f" ⟨[], none, .histogram count .zero buckets⟩
    IsGreatestCount count buckets ∧ valuesOf "f_count" points = [.uint64 5] ∧ observations points = 5 := by
  intro count buckets points
  have hgreatest : IsGreatestCount count buckets := ⟨by decide, by decide⟩
  have hvalue : MetricValue.ofFloat .uint64 count = .ok (.uint64 5) := by decide +kernel
  have hfraction : roundsAway count = false := by decide +kernel
  obtain ⟨n, hn, hobserved⟩ : ∃ n : UInt64, valuesOf ("f" ++ "_count") points = [.uint64 n] ∧
      observations points = n.toNat + (roundsAway count).toNat :=
    observations_eq rfl rfl (by decide) (by decide) hgreatest
  have hfive : valuesOf ("f" ++ "_count") points = [.uint64 5] := valuesOf_count rfl hvalue
  obtain rfl : n = 5 := MetricValue.uint64.inj (List.singleton_inj.mp (hn.symm.trans hfive))
  rw [hfraction] at hobserved
  exact ⟨hgreatest, hfive, hobserved⟩

/-- Of 2.5 observations the sample of the count tells two and the entries tell three. -/
theorem observations_disagree :
    let buckets : List Bucket := [⟨⟨0x3FF0000000000000⟩, ⟨0x4004000000000000⟩⟩]
    let points := seriesPoints {} .empty "f" ⟨[], none, .histogram ⟨0x4004000000000000⟩ .zero buckets⟩
    IsGreatestCount ⟨0x4004000000000000⟩ buckets ∧ Binary64.isFinite ⟨0x4004000000000000⟩ = true ∧
      Binary64.lt ⟨0x4004000000000000⟩ .zero = false ∧ valuesOf "f_count" points = [.uint64 2] ∧
      observations points = 3 := by
  intro buckets points
  exact ⟨⟨by decide, by decide⟩, by decide, by decide, by decide +kernel, by decide +kernel⟩

end MetricRelay.Translation
