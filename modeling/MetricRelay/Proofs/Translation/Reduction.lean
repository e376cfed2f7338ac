import MetricRelay.Proofs.Translation.LineOrder
import MetricRelay.Proofs.Translation.Observations

namespace MetricRelay.Translation

open Exposition (Bucket)

def countOf (b : Bucket) : Nat := toCount b.cumulativeCount

/-- The greatest of `reached` and the counts of some buckets. -/
def peak (reached : Nat) (buckets : List Bucket) : Nat := (buckets.map countOf).foldl max reached

def places (total reached : Nat) (sorted : List Bucket) : List (Fin sorted.length) :=
  (List.finRange sorted.length).filter fun i ↦
    peak reached (sorted.take i) < countOf sorted[i] ∧ peak reached (sorted.take i) < total

def entryAt (reached : Nat) (sorted : List Bucket) (i : Fin sorted.length) : Entry :=
  ⟨sorted[i].upperBound, countOf sorted[i] - peak reached (sorted.take i)⟩

/-- The buckets by their bounds, those of one bound in the order in which they stood. -/
structure IsStableSort (buckets sorted : List Bucket) : Prop where
  ordered : sorted.Pairwise fun a b ↦ a.upperBound.totalLE b.upperBound
  stable : ∀ bound, sorted.filter (fun b ↦ b.upperBound = bound) = buckets.filter fun b ↦ b.upperBound = bound

/-- The loop on words of 64 bits, with a subtraction that stops at zero. An addition that does not fit has no result. -/
def wordEntries? (total : UInt64) : UInt64 → UInt64 → List Bucket → Option (List Entry)
  | _, _, [] => some []
  | previous, running, bucket :: rest =>
    let cumulative := UInt64.ofNat (countOf bucket)
    let count := if previous ≤ cumulative then cumulative - previous else 0
    let greatest := if previous ≤ cumulative then cumulative else previous
    if count = 0 then wordEntries? total greatest running rest
    else if UInt64.size ≤ running.toNat + count.toNat then none
    else if total ≤ running + count then some [⟨bucket.upperBound, count.toNat⟩]
    else (wordEntries? total greatest (running + count) rest).map (⟨bucket.upperBound, count.toNat⟩ :: ·)

variable {buckets sorted : List Bucket} {total reached : Nat}

theorem filter_sortBuckets (buckets : List Bucket) (bound : Binary64) :
    (sortBuckets buckets).filter (fun b ↦ b.upperBound = bound) = buckets.filter fun b ↦ b.upperBound = bound := by
  have hequal : (buckets.filter fun b ↦ b.upperBound = bound).Pairwise fun a b ↦ a.upperBound.totalLE b.upperBound := by
    apply List.pairwise_of_forall_mem_list
    intro a ha b hb
    have hbounds : a.upperBound = b.upperBound :=
      (of_decide_eq_true (List.mem_filter.mp ha).2).trans (of_decide_eq_true (List.mem_filter.mp hb).2).symm
    rw [hbounds]
    exact Binary64.totalLE_refl b.upperBound
  -- sorting keeps what is in order already
  have hkept : (buckets.filter fun b ↦ b.upperBound = bound).Sublist (sortBuckets buckets) := by
    apply List.sublist_mergeSort _ _ hequal List.filter_sublist
    · intro a b c
      exact Binary64.totalLE_trans
    · intro a b
      exact Binary64.totalLE_total a.upperBound b.upperBound
  have hsublist := hkept.filter fun b ↦ b.upperBound = bound
  rw [List.filter_filter] at hsublist
  simp only [Bool.and_self] at hsublist
  have hperm : (sortBuckets buckets).Perm buckets := List.mergeSort_perm buckets _
  have hlength := (hperm.filter fun b ↦ b.upperBound = bound).length_eq
  exact (hsublist.eq_of_length hlength.symm).symm

theorem isStableSort_sortBuckets (buckets : List Bucket) : IsStableSort buckets (sortBuckets buckets) :=
  ⟨pairwise_sortBuckets buckets, filter_sortBuckets buckets⟩

theorem eq_of_filter_eq {first second : List Bucket} (hf : first.Pairwise fun a b ↦ a.upperBound.totalLE b.upperBound)
    (hs : second.Pairwise fun a b ↦ a.upperBound.totalLE b.upperBound)
    (h : ∀ bound, first.filter (fun b ↦ b.upperBound = bound) = second.filter fun b ↦ b.upperBound = bound) :
    first = second := by
  have hmem (b : Bucket) : b ∈ first ↔ b ∈ second := by
    have hb := congrArg (b ∈ ·) (h b.upperBound)
    simpa using hb
  induction first generalizing second with
  | nil =>
    cases second with
    | nil => rfl
    | cons b second => exact absurd ((hmem b).mpr List.mem_cons_self) List.not_mem_nil
  | cons a first ih =>
    cases second with
    | nil => exact absurd ((hmem a).mp List.mem_cons_self) List.not_mem_nil
    | cons b second =>
      rw [List.pairwise_cons] at hf hs
      have hab : a.upperBound.totalLE b.upperBound := by
        rcases List.mem_cons.mp ((hmem b).mpr List.mem_cons_self) with rfl | hb
        · exact Binary64.totalLE_refl b.upperBound
        · exact hf.1 b hb
      have hba : b.upperBound.totalLE a.upperBound := by
        rcases List.mem_cons.mp ((hmem a).mp List.mem_cons_self) with rfl | ha
        · exact Binary64.totalLE_refl a.upperBound
        · exact hs.1 a ha
      have hbounds : a.upperBound = b.upperBound := Binary64.eq_of_totalLE hab hba
      have hfirst := h a.upperBound
      simp only [List.filter_cons, hbounds, decide_true, if_true, List.cons.injEq] at hfirst
      obtain ⟨rfl, -⟩ := hfirst
      have hrest (bound : Binary64) :
          first.filter (fun b ↦ b.upperBound = bound) = second.filter fun b ↦ b.upperBound = bound := by
        have hall := h bound
        rw [List.filter_cons, List.filter_cons] at hall
        split at hall
        · exact (List.cons.inj hall).2
        · exact hall
      rw [ih hf.2 hs.2 hrest fun b ↦ by simpa using congrArg (b ∈ ·) (hrest b.upperBound)]

theorem IsStableSort.eq_sortBuckets (h : IsStableSort buckets sorted) : sorted = sortBuckets buckets :=
  eq_of_filter_eq h.ordered (pairwise_sortBuckets buckets) fun bound ↦
    (h.stable bound).trans (filter_sortBuckets buckets bound).symm

theorem le_peak (reached : Nat) (buckets : List Bucket) : reached ≤ peak reached buckets := by
  induction buckets generalizing reached with
  | nil => exact Nat.le_refl reached
  | cons b rest ih => exact (Nat.le_max_left reached (countOf b)).trans (ih _)

theorem countOf_le_peak (reached : Nat) {buckets : List Bucket} {b : Bucket} (h : b ∈ buckets) :
    countOf b ≤ peak reached buckets := by
  induction buckets generalizing reached with
  | nil => cases h
  | cons first rest ih =>
    rcases List.mem_cons.mp h with rfl | h
    · exact (Nat.le_max_right reached (countOf b)).trans (le_peak _ rest)
    · exact ih _ h

theorem peak_cases (reached : Nat) (buckets : List Bucket) :
    reached = peak reached buckets ∨ ∃ b ∈ buckets, countOf b = peak reached buckets := by
  induction buckets generalizing reached with
  | nil => exact .inl rfl
  | cons first rest ih =>
    have hcons : peak reached (first :: rest) = peak (max reached (countOf first)) rest := rfl
    rw [hcons]
    rcases ih (max reached (countOf first)) with h | ⟨b, hb, h⟩
    · rcases Nat.le_total reached (countOf first) with hle | hle
      · rw [Nat.max_eq_right hle] at h ⊢
        exact .inr ⟨first, List.mem_cons_self, h⟩
      · rw [Nat.max_eq_left hle] at h ⊢
        exact .inl h
    · exact .inr ⟨b, List.mem_cons_of_mem first hb, h⟩

theorem peak_mono {first second : List Bucket} (h : first ⊆ second) (reached : Nat) :
    peak reached first ≤ peak reached second := by
  rcases peak_cases reached first with hpeak | ⟨b, hb, hpeak⟩
  · rw [← hpeak]
    exact le_peak reached second
  · rw [← hpeak]
    exact countOf_le_peak reached (h hb)

theorem peak_sortBuckets (reached : Nat) (buckets : List Bucket) :
    peak reached (sortBuckets buckets) = peak reached buckets := by
  have hperm : (sortBuckets buckets).Perm buckets := List.mergeSort_perm buckets _
  apply Nat.le_antisymm
  · exact peak_mono hperm.subset reached
  · exact peak_mono hperm.symm.subset reached

theorem places_cons (total reached : Nat) (bucket : Bucket) (rest : List Bucket) :
    places total reached (bucket :: rest) =
      (if reached < countOf bucket ∧ reached < total then [0] else []) ++
        (places total (max reached (countOf bucket)) rest).map Fin.succ := by
  have hall : List.finRange (bucket :: rest).length = 0 :: (List.finRange rest.length).map Fin.succ :=
    List.finRange_succ
  have hrest : (((List.finRange rest.length).map Fin.succ).filter fun i : Fin (bucket :: rest).length ↦
      peak reached ((bucket :: rest).take i) < countOf (bucket :: rest)[i] ∧
        peak reached ((bucket :: rest).take i) < total) =
      (places total (max reached (countOf bucket)) rest).map Fin.succ := List.filter_map
  rw [places, hall, List.filter_cons, hrest]
  by_cases h : reached < countOf bucket ∧ reached < total
  · simp [peak, h]
  · simp [peak, h]

theorem places_of_le (h : total ≤ reached) (sorted : List Bucket) : places total reached sorted = [] := by
  apply List.filter_eq_nil_iff.mpr
  intro i _
  have hpeak := le_peak reached (sorted.take i)
  simp only [decide_eq_true_eq]
  omega

theorem entriesFrom_eq (h : reached < total) (sorted : List Bucket) :
    entriesFrom total reached reached sorted = (places total reached sorted).map (entryAt reached sorted) := by
  induction sorted generalizing reached with
  | nil => rfl
  | cons bucket rest ih =>
    have hsucc : ((places total (max reached (countOf bucket)) rest).map Fin.succ).map
        (entryAt reached (bucket :: rest)) =
          (places total (max reached (countOf bucket)) rest).map (entryAt (max reached (countOf bucket)) rest) := by
      rw [List.map_map]
      rfl
    rw [places_cons, List.map_append, hsucc]
    by_cases hnone : countOf bucket ≤ reached
    · have hzero : toCount bucket.cumulativeCount - reached = 0 := Nat.sub_eq_zero_of_le hnone
      have hmax : max reached (countOf bucket) = reached := Nat.max_eq_left hnone
      have hentry : ¬(reached < countOf bucket ∧ reached < total) := by omega
      rw [if_neg hentry, hmax, ← ih h, entriesFrom, if_pos hzero]
      exact congrArg (fun greatest ↦ entriesFrom total greatest reached rest) hmax
    · have hentry : reached < countOf bucket ∧ reached < total := ⟨Nat.lt_of_not_le hnone, h⟩
      have hmax : max reached (countOf bucket) = countOf bucket := Nat.max_eq_right hentry.1.le
      have hadded : toCount bucket.cumulativeCount - reached ≠ 0 := Nat.sub_ne_zero_of_lt hentry.1
      have hrunning : reached + (toCount bucket.cumulativeCount - reached) = countOf bucket :=
        Nat.add_sub_cancel' hentry.1.le
      rw [if_pos hentry, hmax, entriesFrom, if_neg hadded, hrunning]
      split
      · next hlast =>
        rw [places_of_le hlast]
        rfl
      · next hmore =>
        rw [← ih (Nat.lt_of_not_le hmore)]
        exact congrArg (fun greatest ↦ _ :: entriesFrom total greatest (countOf bucket) rest) hmax

theorem sum_take_places (total reached : Nat) (sorted : List Bucket) (k : Nat) {i : Fin sorted.length}
    (h : (places total reached sorted)[k]? = some i) :
    reached + ((((places total reached sorted).take (k + 1)).map (entryAt reached sorted)).map Entry.count).sum =
      countOf sorted[i] := by
  induction sorted generalizing reached k with
  | nil => cases h
  | cons bucket rest ih =>
    have hsucc (js : List (Fin rest.length)) : (js.map Fin.succ).map (entryAt reached (bucket :: rest)) =
        js.map (entryAt (max reached (countOf bucket)) rest) := by
      rw [List.map_map]
      rfl
    rw [places_cons] at h ⊢
    by_cases hentry : reached < countOf bucket ∧ reached < total
    · have hmax : max reached (countOf bucket) = countOf bucket := Nat.max_eq_right hentry.1.le
      have hfirst : reached + (entryAt reached (bucket :: rest) 0).count = countOf bucket :=
        Nat.add_sub_cancel' hentry.1.le
      simp only [if_pos hentry, List.singleton_append] at h ⊢
      rw [List.take_succ_cons, List.map_cons, List.map_cons, List.sum_cons, ← Nat.add_assoc, hfirst, ← List.map_take,
        hsucc]
      cases k with
      | zero =>
        obtain rfl := Option.some.inj h
        rfl
      | succ k =>
        rw [List.getElem?_cons_succ, List.getElem?_map, Option.map_eq_some_iff] at h
        obtain ⟨j, hj, rfl⟩ := h
        have hsum := ih _ k hj
        rwa [hmax] at hsum ⊢
    · simp only [if_neg hentry, List.nil_append] at h ⊢
      rw [List.getElem?_map, Option.map_eq_some_iff] at h
      obtain ⟨j, hj, rfl⟩ := h
      rw [← List.map_take, hsucc]
      -- a bucket has no entry for one of two reasons, and behind the second there are none
      by_cases hcount : countOf bucket ≤ reached
      · have hsum := ih _ k hj
        rwa [Nat.max_eq_left hcount] at hsum ⊢
      · rw [places_of_le (by omega)] at hj
        cases hj

theorem count_pos_of_mem (total reached : Nat) (sorted : List Bucket) :
    ∀ e ∈ (places total reached sorted).map (entryAt reached sorted), 0 < e.count := by
  intro e he
  obtain ⟨i, hi, rfl⟩ := List.mem_map.mp he
  exact Nat.sub_pos_of_lt (of_decide_eq_true (List.mem_filter.mp hi).2).1

theorem sum_places (h : peak 0 sorted = total) :
    (((places total 0 sorted).map (entryAt 0 sorted)).map Entry.count).sum = total := by
  cases total with
  | zero => rw [places_of_le (Nat.le_refl 0)]; rfl
  | succ total =>
    have hle : ∀ b ∈ sorted, toCount b.cumulativeCount ≤ total + 1 := by
      intro b hb
      rw [← h]
      exact countOf_le_peak 0 hb
    have hmax : 0 = total + 1 ∨ ∃ b ∈ sorted, toCount b.cumulativeCount = total + 1 := by
      rw [← h]
      exact peak_cases 0 sorted
    have hsum := sum_entriesFrom hle (Nat.zero_le _) hmax
    rwa [Nat.zero_add, entriesFrom_eq (Nat.succ_pos total)] at hsum

theorem wordEntries?_eq (total reached : UInt64) (sorted : List Bucket) :
    wordEntries? total reached reached sorted =
      some (entriesFrom total.toNat reached.toNat reached.toNat sorted) := by
  induction sorted generalizing reached with
  | nil => rfl
  | cons bucket rest ih =>
    have hfits : countOf bucket < UInt64.size := Nat.lt_of_le_of_lt (toCount_le bucket.cumulativeCount) (by decide)
    obtain ⟨cumulative, hcumulative⟩ : ∃ c, c = UInt64.ofNat (countOf bucket) := ⟨_, rfl⟩
    have hword : cumulative.toNat = toCount bucket.cumulativeCount := by
      rw [hcumulative]
      exact UInt64.toNat_ofNat_of_lt hfits
    rw [wordEntries?, entriesFrom, ← hcumulative, ← hword]
    by_cases hle : reached ≤ cumulative
    · have hnat : reached.toNat ≤ cumulative.toNat := UInt64.le_iff_toNat_le.mp hle
      have hcount : (cumulative - reached).toNat = cumulative.toNat - reached.toNat := UInt64.toNat_sub_of_le _ _ hle
      have hrunning : reached + (cumulative - reached) = cumulative := by
        apply UInt64.toNat_inj.mp
        rw [UInt64.toNat_add, hcount, Nat.add_sub_cancel' hnat]
        exact Nat.mod_eq_of_lt cumulative.toNat_lt_size
      have hsum : reached.toNat + (cumulative.toNat - reached.toNat) = cumulative.toNat := Nat.add_sub_cancel' hnat
      have hsame : cumulative - reached = 0 ↔ cumulative.toNat - reached.toNat = 0 := by
        rw [← hcount]
        exact UInt64.toNat_inj.symm
      have hlast : total ≤ cumulative ↔ total.toNat ≤ cumulative.toNat := UInt64.le_iff_toNat_le
      simp only [if_pos hle, hrunning, hcount, hsum, Nat.max_eq_right hnat, hsame, hlast]
      rw [if_neg (Nat.not_le_of_lt cumulative.toNat_lt_size)]
      split
      · next hzero =>
        obtain rfl : reached = cumulative := UInt64.toNat_inj.mp (by omega)
        exact ih reached
      · split
        · rfl
        · rw [ih cumulative, Option.map_some]
    · have hnat : cumulative.toNat ≤ reached.toNat := by
        rw [UInt64.le_iff_toNat_le] at hle
        omega
      rw [if_neg hle, if_neg hle, if_pos rfl, Nat.max_eq_left hnat, if_pos (Nat.sub_eq_zero_of_le hnat)]
      exact ih reached

theorem entries_eq (buckets : List Bucket) (total : Nat) :
    entries buckets total = (places total 0 (sortBuckets buckets)).map (entryAt 0 (sortBuckets buckets)) := by
  rw [entries]
  split
  · next hzero =>
    rw [hzero, places_of_le (Nat.le_refl 0)]
    rfl
  · next hpos => exact entriesFrom_eq (Nat.pos_of_ne_zero hpos) _

/-- The entries of a histogram, whatever its buckets and its total: which buckets have one, what it holds, and what it
holds together with those before. The buckets are in the one order that is stable, and no order is lost if their bounds
are different. -/
theorem reduceHistogram_eq (buckets : List Bucket) (total : UInt64) :
    let sorted := sortBuckets buckets
    let chosen := if total = 0 then [] else places total.toNat 0 sorted
    let made := chosen.map (entryAt 0 sorted)
    (∀ other, IsStableSort buckets other ↔ other = sorted) ∧
      reduceHistogram buckets total.toNat = made.map Entry.text ∧
      (total ≠ 0 → wordEntries? total 0 0 sorted = some made) ∧
      (∀ e ∈ made, 0 < e.count) ∧
      (∀ k i, chosen[k]? = some i → ((made.take (k + 1)).map Entry.count).sum = countOf sorted[i]) ∧
      (peak 0 buckets = total.toNat → (made.map Entry.count).sum = total.toNat) ∧
      ((buckets.map Bucket.upperBound).Nodup → ∀ buckets', buckets'.Perm buckets →
        reduceHistogram buckets' total.toNat = reduceHistogram buckets total.toNat) := by
  intro sorted chosen made
  have hchosen : chosen = places total.toNat 0 sorted := by
    by_cases hzero : total = 0
    · have hnone : places total.toNat 0 sorted = [] := places_of_le (by rw [hzero]; rfl) sorted
      rw [hnone]
      exact if_pos hzero
    · exact if_neg hzero
  have hmade : made = (places total.toNat 0 sorted).map (entryAt 0 sorted) := congrArg _ hchosen
  refine ⟨fun other ↦ ⟨IsStableSort.eq_sortBuckets, ?_⟩, ?_, fun hpos ↦ ?_, ?_, fun k i hi ↦ ?_, fun hpeak ↦ ?_, ?_⟩
  · rintro rfl
    exact isStableSort_sortBuckets buckets
  · rw [reduceHistogram, entries_eq, hmade]
  · have hnat : 0 < total.toNat := Nat.pos_of_ne_zero fun hzero ↦ hpos (UInt64.toNat_inj.mp hzero)
    rw [wordEntries?_eq, hmade, ← entriesFrom_eq hnat]
    rfl
  · rw [hmade]
    exact count_pos_of_mem total.toNat 0 sorted
  · rw [hchosen] at hi
    have hsum := sum_take_places total.toNat 0 sorted k hi
    rwa [Nat.zero_add, List.map_take, ← hmade] at hsum
  · rw [hmade]
    exact sum_places ((peak_sortBuckets 0 buckets).trans hpeak)
  · intro hn buckets' hp
    exact reduceHistogram_of_perm hn hp total.toNat

/-- The bounds come unsorted and one comes twice, the counts fall, one is not a number and one is negative. The total is
the greatest count. -/
theorem reduceHistogram_eq_unsorted :
    let buckets : List Bucket :=
      [⟨⟨0x7FF0000000000000⟩, ⟨0x4014000000000000⟩⟩, ⟨⟨0x4000000000000000⟩, ⟨0x4008000000000000⟩⟩,
        ⟨⟨0x4000000000000000⟩, ⟨0x4000000000000000⟩⟩, ⟨⟨0x3FF0000000000000⟩, ⟨0x7FF8000000000000⟩⟩,
        ⟨⟨0x3FE0000000000000⟩, ⟨0x3FF0000000000000⟩⟩, ⟨⟨0x4010000000000000⟩, ⟨0xBFF0000000000000⟩⟩]
    ∃ made : List Entry, reduceHistogram buckets 5 = made.map Entry.text ∧ (∀ e ∈ made, 0 < e.count) ∧
      (made.map Entry.count).sum = 5 ∧ wordEntries? 5 0 0 (sortBuckets buckets) = some made := by
  intro buckets
  obtain ⟨-, htexts, hwords, hpos, -, hsum, -⟩ := reduceHistogram_eq buckets 5
  have hpeak : peak 0 buckets = UInt64.toNat 5 := by decide +kernel
  exact ⟨_, htexts, hpos, hsum hpeak, hwords (by decide)⟩

end MetricRelay.Translation
