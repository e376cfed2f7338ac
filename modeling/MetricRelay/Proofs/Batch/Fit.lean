import MetricRelay.Proofs.Json.NoNull
import MetricRelay.Proofs.Sample.Reading
import MetricRelay.Proofs.Tag.Limits
import MetricRelay.Proofs.Writer

namespace MetricRelay

/-- The sample has a form on the wire: its float is finite, and there is no timestamp where the type carries none. -/
structure Sample.IsFit (s : Sample) : Prop where
  finite : ∀ x, s.value = .float64 x → x.isNaN = false ∧ x.isInfinite = false
  untimed : s.value.type.carriesTimestamp = false → s.timestamp = none

structure Batch.IsFit (b : Batch) : Prop where
  size_le : ∀ name ∈ b.keys, name.utf8ByteSize ≤ maxTaggedNameSize
  nodup : b.keys.Nodup
  samples : ∀ s ∈ b.values, s.IsFit
  /-- Nowhere in the payload stands a `null`. -/
  bare : 'n' ∉ Json.bareText .outside b.payload.toList
  /-- A receiver that goes by the type codes reads the samples that were meant. -/
  readable : ∃ members, b.json = .object members ∧
    members.map (fun m ↦ (m.1, Sample.ofJson? m.2)) = b.entries.map fun entry ↦ (entry.1, some entry.2)

variable {w : MetricWriter} {p : Point} {b : Batch}

theorem MetricValue.isQuiet_json {v : MetricValue}
    (h : ∀ x, v = .float64 x → x.isNaN = false ∧ x.isInfinite = false) : Json.IsQuiet v.json.render := by
  have hint (n : Int) : Json.IsQuiet (jsonOfInt n).render := by
    apply Json.isQuiet_number
    split
    · exact trivial
    · exact trivial
  have htexts (entries : List String) : Json.IsQuiet (Json.array (entries.map .string)).render := by
    apply Json.isQuiet_array
    intro item hitem
    obtain ⟨entry, -, rfl⟩ := List.mem_map.mp hitem
    exact Json.isQuiet_string entry
  cases v with
  | int32 n => exact hint _
  | uint32 n => exact hint _
  | int64 n => exact hint _
  | uint64 n => exact Json.isQuiet_number trivial
  | float64 x =>
    obtain ⟨hn, hi⟩ := h x rfl
    apply Json.isQuiet_number
    rw [Binary64.isNaN, decide_eq_false_iff_not] at hn
    rw [Binary64.isInfinite, decide_eq_false_iff_not] at hi
    exact decide_eq_true (by omega)
  | text s => exact Json.isQuiet_string s
  | histogram entries => exact htexts entries
  | cumulativeHistogram entries => exact htexts entries

theorem Sample.IsFit.isQuiet_json {s : Sample} (h : s.IsFit) : Json.IsQuiet s.json.render := by
  apply Json.isQuiet_object
  intro m hm
  rcases List.mem_append.mp hm with hm | hm
  · rcases List.mem_cons.mp hm with rfl | hm
    · exact Json.isQuiet_string _
    · rw [List.mem_singleton.mp hm]
      exact MetricValue.isQuiet_json h.finite
  · split at hm
    · rw [List.mem_singleton.mp hm]
      exact Json.isQuiet_number trivial
    · cases hm

theorem MetricValue.finite_of_validate {v : MetricValue} (h : v.validate = .ok ()) {x : Binary64} (hx : v = .float64 x) :
    x.isNaN = false ∧ x.isInfinite = false := by
  rw [hx, MetricValue.validate] at h
  split at h
  · cases h
  next hn =>
  split at h
  · cases h
  next hi =>
  exact ⟨Bool.eq_false_iff.mpr hn, Bool.eq_false_iff.mpr hi⟩

theorem Sample.isFit_of {v : MetricValue} (h : v.validate = .ok ()) (timestamp : Option UInt64) :
    (Sample.of v timestamp).IsFit where
  finite _ hx := MetricValue.finite_of_validate h hx
  untimed ht := by
    rw [Sample.of] at ht ⊢
    dsimp only at ht ⊢
    rw [ht]
    rfl

namespace Batch

theorem isFit_of_forall_entries
    (h : ∀ entry ∈ b.entries, entry.1.utf8ByteSize ≤ maxTaggedNameSize ∧ entry.2.IsFit) : b.IsFit where
  size_le := List.forall_mem_map.mpr fun entry hentry ↦ (h entry hentry).1
  nodup := b.nodup
  samples := List.forall_mem_map.mpr fun entry hentry ↦ (h entry hentry).2
  bare := by
    rw [payload, Json.text, String.toList_ofList]
    apply Json.IsQuiet.not_mem
    apply Json.isQuiet_object
    exact List.forall_mem_map.mpr fun entry hentry ↦ (h entry hentry).2.isQuiet_json
  readable := by
    refine ⟨_, rfl, ?_⟩
    rw [List.map_map]
    exact List.map_congr_left fun entry _ ↦ by simp [Sample.ofJson?_json]

theorem isFit_empty : IsFit .empty := isFit_of_forall_entries (by simp [OrderedMap.empty])

theorem IsFit.insert (h : b.IsFit) {name : String} {s : Sample} (hn : name.utf8ByteSize ≤ maxTaggedNameSize)
    (hs : s.IsFit) : IsFit (OrderedMap.insert b name s) := by
  apply isFit_of_forall_entries
  intro entry hentry
  rcases Entries.mem_upsert hentry with hold | ⟨-, rfl⟩
  · exact ⟨h.size_le _ (List.mem_map_of_mem hold), h.samples _ (List.mem_map_of_mem hold)⟩
  · exact ⟨hn, hs⟩

theorem IsFit.insertAll (h : b.IsFit) {items : List (String × Sample)}
    (hi : ∀ item ∈ items, item.1.utf8ByteSize ≤ maxTaggedNameSize ∧ item.2.IsFit) :
    IsFit (OrderedMap.insertAll b items) := by
  induction items generalizing b with
  | nil => exact h
  | cons item items ih =>
    obtain ⟨⟨hn, hs⟩, hrest⟩ := List.forall_mem_cons.mp hi
    exact ih (h.insert hn hs) hrest

end Batch

namespace MetricWriter

theorem validate_of_isWritable (h : isWritable p = true) : p.value.validate = .ok () ∧ p.value.type = p.type := by
  rw [isWritable, check] at h
  split at h
  · next hc =>
    split at hc
    · cases hc
    split at hc
    · cases hc
    next hv =>
    split at hc
    · next ht => exact ⟨hv, ht⟩
    · cases hc
  · cases h

theorem insertion?_spec (hp : isWritable p = true) {item : String × Sample} (h : w.insertion? p = some item) :
    item.1.utf8ByteSize ≤ maxTaggedNameSize ∧ item.2.IsFit ∧ item.2 = .of p.value p.timestamp := by
  obtain ⟨-, -, hi⟩ | ⟨-, -, -, hi⟩ | ⟨name, -, -, hn, hi⟩ := w.insertion?_cases p
  · rw [hi] at h
    cases h
  · rw [hi] at h
    cases h
  · rw [hi] at h
    cases h
    exact ⟨utf8ByteSize_le_of_taggedName? hn, Sample.isFit_of (validate_of_isWritable hp).1 p.timestamp, rfl⟩

end MetricWriter
end MetricRelay
