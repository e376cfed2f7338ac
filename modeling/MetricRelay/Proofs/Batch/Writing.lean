import MetricRelay.Proofs.Binary64.Order
import MetricRelay.Proofs.Tag.Canonical
import MetricRelay.Proofs.Writer

namespace MetricRelay

/-- The entries afterwards, where a value is set under a key: in the place of the one that was there, or behind all. -/
inductive Entries.Sets {κ α : Type} (key : κ) (a : α) : List (κ × α) → List (κ × α) → Prop
  | replaced (front back : List (κ × α)) (old : α) :
      Sets key a (front ++ (key, old) :: back) (front ++ (key, a) :: back)
  | appended (entries : List (κ × α)) : key ∉ entries.map Prod.fst → Sets key a entries (entries ++ [(key, a)])

theorem Entries.sets_upsert {κ α : Type} [DecidableEq κ] (key : κ) (a : α) (entries : List (κ × α)) :
    Sets key a entries (upsert key (fun _ ↦ a) entries) := by
  induction entries with
  | nil => exact .appended [] List.not_mem_nil
  | cons entry rest ih =>
    obtain ⟨k, old⟩ := entry
    rw [upsert]
    split
    · next hk =>
      subst hk
      exact .replaced [] rest old
    · next hk =>
      generalize upsert key (fun _ ↦ a) rest = next at ih
      cases ih with
      | replaced front back old' => exact .replaced ((k, old) :: front) back old'
      | appended _ hmem =>
        refine .appended ((k, old) :: rest) ?_
        rw [List.map_cons, List.mem_cons, not_or]
        exact ⟨Ne.symm hk, hmem⟩

structure Point.IsValid (p : Point) : Prop where
  named : p.name ≠ ""
  finite : ∀ x, p.value = .float64 x → x.isFinite = true
  typed : p.type = p.value.type

/-- The error of a point. What is checked first is reported first. -/
inductive Point.Faulty (p : Point) : WriteError → Prop
  | emptyName : p.name = "" → Faulty p .emptyName
  | notANumber {x : Binary64} : p.name ≠ "" → p.value = .float64 x → x.isNaN = true →
      Faulty p (.invalidValue p.name .notANumber)
  | infinite {x : Binary64} : p.name ≠ "" → p.value = .float64 x → x.isInfinite = true →
      Faulty p (.invalidValue p.name (.notFinite x))
  | typeMismatch : p.name ≠ "" → (∀ x, p.value = .float64 x → x.isFinite = true) → p.type ≠ p.value.type →
      Faulty p (.typeMismatch p.name p.type p.value.type)

namespace MetricWriter

structure Denied (w : MetricWriter) (p : Point) : Prop where
  applies : p.dynamic = false ∨ w.filterDynamic = true
  denies : w.filter.isAllowed p.name = false

inductive Effect (w : MetricWriter) (tags : TagList) (l : Ledger) (p : Point) :
    Except WriteError Bool → Ledger → Prop
  | refused {e : WriteError} {next : Ledger} : next.batch = l.batch → next.stats = l.stats →
      Effect w tags l p (.error e) next
  | denied {next : Ledger} : w.Denied p → next.batch = l.batch →
      next.stats = { l.stats with filtered := l.stats.filtered + 1 } → Effect w tags l p (.ok false) next
  | unnamed {next : Ledger} : ¬w.Denied p → next.batch = l.batch → next.stats = l.stats →
      Effect w tags l p (.ok false) next
  | written {name : String} {next : Ledger} : w.encoder.taggedName? p.name tags p.measurementTags = some name →
      Entries.Sets name (.of p.value p.timestamp) l.batch.entries next.batch.entries → next.stats = l.stats →
      Effect w tags l p (.ok true) next

variable {w : MetricWriter} {l : Ledger} {p : Point}

theorem validate_eq_ok_iff {v : MetricValue} : v.validate = .ok () ↔ ∀ x, v = .float64 x → x.isFinite = true := by
  cases v with
  | float64 x =>
    simp only [MetricValue.validate, MetricValue.float64.injEq, forall_eq', Binary64.isFinite_iff]
    cases x.isNaN <;> cases x.isInfinite <;> simp
  | _ => simp [MetricValue.validate]

theorem validate_eq_error_iff {v : MetricValue} {cause : ValueError} :
    v.validate = .error cause ↔
      ∃ x, v = .float64 x ∧ (x.isNaN = true ∧ cause = .notANumber ∨ x.isInfinite = true ∧ cause = .notFinite x) := by
  cases v with
  | float64 x =>
    have hboth := @Binary64.not_isInfinite_of_isNaN x
    simp only [MetricValue.validate, MetricValue.float64.injEq, exists_eq_left']
    cases hnan : x.isNaN with
    | true => simp [hboth hnan, eq_comm]
    | false => cases x.isInfinite <;> simp [eq_comm]
  | _ => simp [MetricValue.validate]

theorem check_eq_ok_iff : check p = .ok () ↔ p.IsValid := by
  rw [check]
  constructor
  · intro h
    split at h
    · cases h
    · next hn =>
      split at h
      · cases h
      · next hv =>
        split at h
        · next ht => exact ⟨hn, validate_eq_ok_iff.mp hv, ht.symm⟩
        · cases h
  · rintro ⟨hn, hv, ht⟩
    rw [if_neg hn, validate_eq_ok_iff.mpr hv]
    exact if_pos ht.symm

theorem check_eq_error_iff {e : WriteError} : check p = .error e ↔ p.Faulty e := by
  rw [check]
  constructor
  · intro h
    split at h
    · next hn =>
      cases h
      exact .emptyName hn
    · next hn =>
      split at h
      · next cause hv =>
        cases h
        obtain ⟨x, hx, ⟨hnan, rfl⟩ | ⟨hinf, rfl⟩⟩ := validate_eq_error_iff.mp hv
        · exact .notANumber hn hx hnan
        · exact .infinite hn hx hinf
      · next hv =>
        split at h
        · cases h
        · next ht =>
          cases h
          exact .typeMismatch hn (validate_eq_ok_iff.mp hv) (Ne.symm ht)
  · intro h
    cases h with
    | emptyName hn => rw [if_pos hn]
    | notANumber hn hx hnan => rw [if_neg hn, validate_eq_error_iff.mpr ⟨_, hx, .inl ⟨hnan, rfl⟩⟩]
    | infinite hn hx hinf => rw [if_neg hn, validate_eq_error_iff.mpr ⟨_, hx, .inr ⟨hinf, rfl⟩⟩]
    | typeMismatch hn hv ht =>
      rw [if_neg hn, validate_eq_ok_iff.mpr hv]
      exact if_neg (Ne.symm ht)

theorem denies_iff : w.denies p = true ↔ w.Denied p := by
  rw [denies, Bool.and_eq_true, Bool.or_eq_true, Bool.not_eq_true', Bool.not_eq_true']
  exact ⟨fun h ↦ ⟨h.1, h.2⟩, fun h ↦ ⟨h.applies, h.denies⟩⟩

theorem mem_streamTags {t : Tag} : t ∈ (w.streamTags p).tags ↔ t ∈ w.defaultTags.tags ∨ t ∈ p.streamTags.tags := by
  rw [streamTags]
  split
  · next h =>
    have hnone : w.defaultTags.tags = [] := List.isEmpty_iff.mp h
    simp [hnone]
  · exact TagList.mem_merged

theorem isWritable_iff : isWritable p = true ↔ p.IsValid := by
  rw [← check_eq_ok_iff, isWritable]
  cases check p <;> simp

theorem exists_faulty_iff : (∃ e, p.Faulty e) ↔ ¬p.IsValid := by
  simp only [← check_eq_ok_iff, ← check_eq_error_iff]
  cases check p <;> simp

theorem isSome_insertion?_eq_false_iff :
    (w.insertion? p).isSome = false ↔ w.Denied p ∨ ¬w.Denied p ∧ w.taggedName? p = none := by
  rw [← denies_iff, insertion?]
  cases w.denies p <;> simp

theorem isSome_insertion?_iff :
    (w.insertion? p).isSome = true ↔ ¬w.Denied p ∧ ∃ name, w.taggedName? p = some name := by
  rw [← denies_iff, insertion?]
  cases w.denies p <;> simp [Option.isSome_iff_exists]

theorem write_of_faulty {e : WriteError} (h : p.Faulty e) : w.write l p = (.error e, l) := by
  rw [write, check_eq_error_iff.mpr h]

theorem write_eq_error_iff {e : WriteError} : (w.write l p).1 = .error e ↔ p.Faulty e := by
  refine ⟨fun h ↦ ?_, fun h ↦ by rw [write_of_faulty h]⟩
  by_cases hv : p.IsValid
  · obtain ⟨next, hwrite, -, -⟩ := w.write_of_isWritable l (isWritable_iff.mpr hv)
    rw [hwrite] at h
    cases h
  · obtain ⟨f, hf⟩ := exists_faulty_iff.mpr hv
    rw [write_of_faulty hf] at h
    cases h
    exact hf

theorem write_eq_ok_iff {b : Bool} : (w.write l p).1 = .ok b ↔ p.IsValid ∧ (w.insertion? p).isSome = b := by
  by_cases hv : p.IsValid
  · obtain ⟨next, hwrite, -, -⟩ := w.write_of_isWritable l (isWritable_iff.mpr hv)
    rw [hwrite]
    simp [hv]
  · obtain ⟨e, he⟩ := exists_faulty_iff.mpr hv
    rw [write_of_faulty he]
    simp [hv]

theorem effect_write (w : MetricWriter) (l : Ledger) (p : Point) :
    w.Effect (w.streamTags p) l p (w.write l p).1 (w.write l p).2 := by
  by_cases hv : p.IsValid
  · obtain ⟨next, hwrite, hbatch, hstats⟩ := w.write_of_isWritable l (isWritable_iff.mpr hv)
    have hkeep : l.stats.addFiltered 0 = l.stats := by simp [Stats.addFiltered]
    rw [hwrite]
    obtain ⟨hd, -, hi⟩ | ⟨hd, -, hn, hi⟩ | ⟨name, hd, -, hn, hi⟩ := insertion?_cases w p <;>
      rw [hi] at hbatch ⊢ <;> rw [hd] at hstats
    · exact .denied (denies_iff.mp hd) hbatch hstats
    · have hnot : ¬w.Denied p := fun h ↦ Bool.false_ne_true (hd.symm.trans (denies_iff.mpr h))
      exact .unnamed hnot hbatch (hstats.trans hkeep)
    · have hsets := Entries.sets_upsert name (.of p.value p.timestamp) l.batch.entries
      exact .written hn (hbatch ▸ hsets) (hstats.trans hkeep)
  · obtain ⟨e, he⟩ := exists_faulty_iff.mpr hv
    rw [write_of_faulty he]
    exact .refused rfl rfl

/-- A point is refused, with the first error that it has, exactly if it is not valid. A valid one is passed over exactly
if the filter applies to it and denies its name, or else if there is no tagged name for it with the tags of the writer
and its own; all others are written. What is refused or passed over leaves the batch as it was, and only what the filter
denies is counted. What is written is set under its tagged name and changes nothing else. -/
theorem write_takes_effect (w : MetricWriter) (l : Ledger) (p : Point) :
    ∃ tags : TagList, (∀ t, t ∈ tags.tags ↔ t ∈ w.defaultTags.tags ∨ t ∈ p.streamTags.tags) ∧
      ((∃ e, (w.write l p).1 = .error e) ↔ ¬p.IsValid) ∧
      (∀ e, (w.write l p).1 = .error e ↔ p.Faulty e) ∧
      ((w.write l p).1 = .ok false ↔ p.IsValid ∧
        (w.Denied p ∨ ¬w.Denied p ∧ w.encoder.taggedName? p.name tags p.measurementTags = none)) ∧
      ((w.write l p).1 = .ok true ↔ p.IsValid ∧ ¬w.Denied p ∧
        ∃ name, w.encoder.taggedName? p.name tags p.measurementTags = some name) ∧
      w.Effect tags l p (w.write l p).1 (w.write l p).2 := by
  refine ⟨w.streamTags p, fun t ↦ mem_streamTags, ?_, fun e ↦ write_eq_error_iff, ?_, ?_, effect_write w l p⟩
  · simp only [write_eq_error_iff, exists_faulty_iff]
  · exact write_eq_ok_iff.trans (and_congr_right fun _ ↦ isSome_insertion?_eq_false_iff)
  · exact write_eq_ok_iff.trans (and_congr_right fun _ ↦ isSome_insertion?_iff)

end MetricWriter
end MetricRelay
