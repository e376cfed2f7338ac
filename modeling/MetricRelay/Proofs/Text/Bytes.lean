namespace MetricRelay

theorem toList_loop {bytes : ByteArray} {i : Nat} {taken : List UInt8}
    (h : taken.reverse = bytes.data.toList.take i) : ByteArray.toList.loop bytes i taken = bytes.data.toList := by
  fun_induction ByteArray.toList.loop bytes i taken with
  | case1 i taken hi ih =>
    have hget : bytes.get! i = bytes.data[i] := getElem!_pos bytes.data i hi
    refine ih ?_
    rw [List.reverse_cons, h, hget, ← Array.getElem_toList, List.take_append_getElem]
  | case2 i taken hi =>
    rw [h]
    exact List.take_of_length_le (Nat.le_of_not_lt hi)

theorem toByteArray_toList (bytes : ByteArray) : bytes.toList.toByteArray = bytes := by
  have hl : bytes.toList = bytes.data.toList := toList_loop rfl
  refine ByteArray.ext ?_
  rw [List.data_toByteArray, hl, Array.toArray_toList]

theorem length_toList (bytes : ByteArray) : bytes.toList.length = bytes.size := by
  have hl : bytes.toList = bytes.data.toList := toList_loop rfl
  rw [hl, Array.length_toList, ByteArray.size_data]

theorem fromUTF8?_eq_some_iff {bytes : List UInt8} {text : String} :
    String.fromUTF8? bytes.toByteArray = some text ↔ text.toUTF8.toList = bytes := by
  constructor
  · intro h
    unfold String.fromUTF8? at h
    split at h
    · cases h
      have hl : bytes.toByteArray.toList = bytes.toByteArray.data.toList := toList_loop rfl
      exact hl.trans (by rw [List.data_toByteArray, List.toList_toArray])
    · cases h
  · rintro rfl
    rw [toByteArray_toList]
    exact dif_pos text.isValidUTF8

end MetricRelay
