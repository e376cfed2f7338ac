import MetricRelay.Proofs.Batch.Fit
import MetricRelay.Proofs.Json.Numerals

namespace MetricRelay

open Json (NumeralReader ReadsBack ReadsAs)

variable {numeral? : NumeralReader} {v : MetricValue} {s : Sample} {b : Batch}

def MetricValue.numbers (v : MetricValue) : List JsonNumber :=
  match v.json with
  | .number n => [n]
  | _ => []

def Sample.numbers (s : Sample) : List JsonNumber := s.value.numbers ++ s.timestamp.toList.map .unsigned

/-- The sample has a form on the wire, and its numbers read back. -/
structure Sample.IsReadable (numeral? : NumeralReader) (s : Sample) : Prop where
  finite : ∀ x, s.value = .float64 x → x.isFinite = true
  readsBack : ∀ n ∈ s.numbers, ReadsBack numeral? n

namespace MetricValue

theorem mem_numbers {n : JsonNumber} : n ∈ v.numbers ↔ v.json = .number n := by
  rw [numbers]
  split
  · next hv => rw [hv, List.mem_singleton, Json.number.injEq, eq_comm]
  · next hv => exact ⟨fun hn ↦ (List.not_mem_nil hn).elim, fun hn ↦ (hv n hn).elim⟩

theorem readsAs_json (hf : ∀ x, v = .float64 x → x.isFinite = true) (hr : ∀ n ∈ v.numbers, ReadsBack numeral? n)
    (depth : Nat) : ReadsAs numeral? (depth + 1) v.json.render v.json := by
  have hnumber {n : JsonNumber} (hv : v.json = .number n) (hn : Json.IsNumeral n) :
      ReadsAs numeral? (depth + 1) v.json.render v.json := by
    rw [hv]
    exact Json.readsAs_number hn (hr n (mem_numbers.mpr hv)) _
  have hint {n : Int} (hv : v.json = jsonOfInt n) : ReadsAs numeral? (depth + 1) v.json.render v.json := by
    refine hnumber hv ?_
    split <;> exact trivial
  have htexts (entries : List String) : ReadsAs numeral? (depth + 1) (Json.array (entries.map .string)).render
      (.array (entries.map .string)) :=
    Json.readsAs_array (List.forall_mem_map.mpr fun entry _ ↦ Json.readsAs_string numeral? depth entry)
  cases v with
  | int32 n => exact hint rfl
  | uint32 n => exact hint rfl
  | int64 n => exact hint rfl
  | uint64 n => exact hnumber rfl trivial
  | float64 x => exact hnumber rfl (hf x rfl)
  | text s => exact Json.readsAs_string numeral? _ s
  | histogram entries => exact htexts entries
  | cumulativeHistogram entries => exact htexts entries

theorem readsBack_jsonOfInt {k : Int} {n : JsonNumber} (hk : Int64.minValue.toInt ≤ k) (hn : jsonOfInt k = .number n) :
    ReadsBack Json.numeral? n := by
  rw [jsonOfInt, Json.number.injEq] at hn
  split at hn
  · rw [← hn]
    exact Json.readsBack_unsigned _
  · have hmax : Int64.maxValue.toInt = 9223372036854775807 := by decide
    have hback : (Int64.ofInt k).toInt = k := Int64.toInt_ofInt_of_le hk (by omega)
    rw [← hn]
    exact Json.readsBack_negative (by omega)

theorem readsBack_of_mem_numbers {n : JsonNumber} (hf : ∀ x, v = .float64 x → ReadsBack Json.numeral? (.float x))
    (hn : n ∈ v.numbers) : ReadsBack Json.numeral? n := by
  have hmin : Int64.minValue.toInt = -9223372036854775808 := by decide
  have hmin32 : Int32.minValue.toInt = -2147483648 := by decide
  have hv := mem_numbers.mp hn
  cases v with
  | int32 k =>
    have hk := k.minValue_le_toInt
    exact readsBack_jsonOfInt (by omega) hv
  | uint32 k => exact readsBack_jsonOfInt (by omega) hv
  | int64 k => exact readsBack_jsonOfInt k.minValue_le_toInt hv
  | uint64 k =>
    cases hv
    exact Json.readsBack_unsigned k
  | float64 x =>
    cases hv
    exact hf x rfl
  | text s => cases hv
  | histogram entries => cases hv
  | cumulativeHistogram entries => cases hv

end MetricValue

namespace Sample

theorem IsReadable.readsAs_json (h : s.IsReadable numeral?) (depth : Nat) :
    ReadsAs numeral? (depth + 2) s.json.render s.json := by
  refine Json.readsAs_object fun m hm ↦ ?_
  simp only [List.mem_append, List.mem_cons, List.not_mem_nil, or_false] at hm
  rcases hm with (rfl | rfl) | hm
  · exact Json.readsAs_string numeral? _ _
  · exact MetricValue.readsAs_json h.finite (fun n hn ↦ h.readsBack n (List.mem_append_left _ hn)) depth
  · split at hm
    · next t ht =>
      rw [List.mem_singleton.mp hm]
      have hmem : .unsigned t ∈ s.numbers := List.mem_append_right _ (by rw [ht]; exact List.mem_singleton_self _)
      exact Json.readsAs_number (by exact trivial) (h.readsBack _ hmem) _
    · cases hm

theorem json_injective : Function.Injective json := fun s t h ↦
  Option.some_inj.mp ((ofJson?_json s).symm.trans ((congrArg ofJson? h).trans (ofJson?_json t)))

theorem isReadable_of_float (h : ∀ x, s.value = .float64 x → x.isFinite = true ∧ ReadsBack Json.numeral? (.float x)) :
    s.IsReadable Json.numeral? where
  finite x hx := (h x hx).1
  readsBack n hn := by
    rcases List.mem_append.mp hn with hn | hn
    · exact MetricValue.readsBack_of_mem_numbers (fun x hx ↦ (h x hx).2) hn
    · obtain ⟨t, -, rfl⟩ := List.mem_map.mp hn
      exact Json.readsBack_unsigned t

end Sample

namespace Batch

/-- Puts some samples in, one after the other, and answers with the samples they replace. -/
def putAll (batch : Batch) : List (String × Sample) → List (Option Sample) × Batch
  | [] => ([], batch)
  | (name, sample) :: rest =>
    let (replaced, batch) := batch.put name sample
    let (others, batch) := putAll batch rest
    (replaced :: others, batch)

theorem putAll_snd (b : Batch) (items : List (String × Sample)) :
    (b.putAll items).2 = OrderedMap.insertAll b items := by
  induction items generalizing b with
  | nil => rfl
  | cons item rest ih => exact ih _

/-- Each answer is what the batch held under the name at that moment. -/
theorem getElem?_putAll (b : Batch) (items : List (String × Sample)) (i : Nat) :
    (b.putAll items).1[i]? = items[i]?.map fun item ↦ (OrderedMap.insertAll b (items.take i)).get? item.1 := by
  induction items generalizing b i with
  | nil => rfl
  | cons item rest ih =>
    cases i with
    | zero => rfl
    | succ i => exact ih _ i

theorem json_eq (b : Batch) : b.json = .object (b.entries.map fun (name, s) ↦ (name, .object
    ([("_type", .string s.value.type.code), ("_value", s.value.json)] ++
      s.timestamp.toList.map fun t ↦ ("_ts", .number (.unsigned t))))) := by
  refine congrArg Json.object (List.map_congr_left fun ⟨name, value, timestamp⟩ _ ↦ ?_)
  cases timestamp <;> rfl

theorem json_injective : Function.Injective json := by
  intro b c h
  have hmembers : Function.Injective fun entry : String × Sample ↦ (entry.1, entry.2.json) := by
    rintro ⟨name, s⟩ ⟨name', s'⟩ he
    obtain ⟨hname, hs⟩ := Prod.mk.inj he
    exact Prod.ext hname (Sample.json_injective hs)
  exact OrderedMap.ext_entries (List.map_injective_iff.mpr hmembers (Json.object.inj h))

theorem readWith?_payload (h : ∀ entry ∈ b.entries, entry.2.IsReadable numeral?) :
    Json.readWith? numeral? b.payload = some b.json := by
  have hdocument : ReadsAs numeral? (126 + 1) b.json.render b.json :=
    Json.readsAs_object (List.forall_mem_map.mpr fun entry hentry ↦ (h entry hentry).readsAs_json 124)
  exact Json.readWith?_text hdocument

theorem eq_of_payload_eq {c : Batch} (hb : ∀ entry ∈ b.entries, entry.2.IsReadable numeral?)
    (hc : ∀ entry ∈ c.entries, entry.2.IsReadable numeral?) (h : b.payload = c.payload) : b = c := by
  have hread := readWith?_payload hb
  rw [h, readWith?_payload hc] at hread
  exact json_injective (Option.some_inj.mp hread).symm

theorem isReadable_of_mem_putAll {items : List (String × Sample)} (h : ∀ item ∈ items, item.2.IsReadable numeral?)
    {entry : String × Sample} (hentry : entry ∈ (putAll .empty items).2.entries) : entry.2.IsReadable numeral? := by
  rw [putAll_snd] at hentry
  rcases OrderedMap.mem_of_mem_insertAll hentry with hempty | hitem
  · cases hempty
  · exact h entry hitem

/-- Into an empty batch goes each name once, where it was put first, with the sample that was put last. The payload
reads as one object with these names and samples, so it tells batches apart. -/
theorem readWith?_payload_putAll {items : List (String × Sample)} (h : ∀ item ∈ items, item.2.IsReadable numeral?)
    {replaced : List (Option Sample)} (hb : putAll .empty items = (replaced, b)) :
    b.keys = (items.map Prod.fst).eraseDups ∧
    (∀ name, b.get? name = Entries.get? name items.reverse) ∧
    (∀ i : Nat, replaced[i]? = items[i]?.map fun item ↦ Entries.get? item.1 (items.take i).reverse) ∧
    Json.readWith? numeral? b.payload = some (.object (b.entries.map fun (name, s) ↦ (name, .object
      ([("_type", .string s.value.type.code), ("_value", s.value.json)] ++
        s.timestamp.toList.map fun t ↦ ("_ts", .number (.unsigned t)))))) ∧
    (∀ s ∈ b.values, MetricValue.ofJson? s.value.type s.value.json = some s.value) ∧
    ∀ others : List (String × Sample), (∀ item ∈ others, item.2.IsReadable numeral?) →
      (putAll .empty others).2.payload = b.payload → (putAll .empty others).2 = b := by
  have hreplaced : replaced = (putAll .empty items).1 := (congrArg Prod.fst hb).symm
  have hbatch : b = (putAll .empty items).2 := (congrArg Prod.snd hb).symm
  have hreadable : ∀ entry ∈ b.entries, entry.2.IsReadable numeral? := by
    intro entry hentry
    rw [hbatch] at hentry
    exact isReadable_of_mem_putAll h hentry
  refine ⟨?_, ?_, ?_, ?_, ?_, ?_⟩
  · rw [hbatch, putAll_snd, OrderedMap.keys_insertAll_empty]
  · intro name
    rw [hbatch, putAll_snd, OrderedMap.get?_insertAll_empty]
  · intro i
    rw [hreplaced, getElem?_putAll]
    simp only [OrderedMap.get?_insertAll_empty]
  · rw [← json_eq, readWith?_payload hreadable]
  · intro s _
    exact MetricValue.ofJson?_json s.value
  · intro others hothers hpayload
    exact eq_of_payload_eq (fun _ ↦ isReadable_of_mem_putAll hothers) hreadable hpayload

theorem readWith?_payload_putAll_replaced :
    let count : Sample := ⟨.int32 (-7), some 1⟩
    let items : List (String × Sample) :=
      [("x", count), ("\"ß\\", ⟨.text "\x01\n", some 5⟩), ("x", ⟨.float64 ⟨0x4004000000000000⟩, none⟩)]
    (∀ item ∈ items, item.2.IsReadable Json.numeral?) ∧ (putAll .empty items).1 = [none, none, some count] ∧
      Json.read? (putAll .empty items).2.payload = some (.object
        [("x", .object [("_type", .string "n"), ("_value", .number (.float ⟨0x4004000000000000⟩))]),
          ("\"ß\\", .object
            [("_type", .string "s"), ("_value", .string "\x01\n"), ("_ts", .number (.unsigned 5))])]) := by
  intro count items
  have hfloat : ReadsBack Json.numeral? (.float ⟨0x4004000000000000⟩) := Json.readsBack_iff.mpr (by decide +kernel)
  have h : ∀ item ∈ items, item.2.IsReadable Json.numeral? := by
    simp only [items, List.forall_mem_cons]
    refine ⟨?_, ?_, ?_, fun _ hnone ↦ absurd hnone List.not_mem_nil⟩
    · exact Sample.isReadable_of_float fun x hx ↦ by cases hx
    · exact Sample.isReadable_of_float fun x hx ↦ by cases hx
    · refine Sample.isReadable_of_float fun x hx ↦ ?_
      cases hx
      exact ⟨rfl, hfloat⟩
  exact ⟨h, rfl, (readWith?_payload_putAll h rfl).2.2.2.1⟩

end Batch
end MetricRelay
