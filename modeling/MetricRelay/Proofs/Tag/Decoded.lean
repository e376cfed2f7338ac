import MetricRelay.Proofs.Tag.Encoded

namespace MetricRelay

/-- A text has one wrapped form, since base 64 and UTF-8 have one form each. -/
theorem decodePart_eq_ok_iff {part : List Char} {text : String} :
    decodePart part = .ok text ↔ part = encodePart text.toList := by
  constructor
  · intro h
    rw [decodePart] at h
    split at h
    · cases h
    · next inner hinner =>
      obtain ⟨behind, hstart, hend⟩ := Option.bind_eq_some_iff.mp hinner
      split at h
      · cases h
      · next bytes hbytes =>
        split at h
        · next s hs =>
          cases h
          have hutf8 : utf8Bytes text.toList = bytes := by
            rw [utf8Bytes, String.ofList_toList]
            exact fromUTF8?_eq_some_iff.mp hs
          rw [Text.dropStart?_eq_some_iff.mp hstart, Text.dropEnd?_eq_some_iff.mp hend,
            Text.Base64.decode?_eq_some_iff.mp hbytes, ← hutf8]
          rfl
        · cases h
  · rintro rfl
    rw [decodePart_encodePart, String.ofList_toList]

/-- Without a colon behind it, no quote of a wrapped text ends a category. -/
theorem cutAt?_encodePart_self (s : List Char) : Text.cutAt? ['"', ':'] (encodePart s) = none := by
  have hcolon : ':' ∉ encodePart s := not_mem_encodePart (by decide) (by decide) (by decide) s
  cases hcut : Text.cutAt? ['"', ':'] (encodePart s) with
  | none => rfl
  | some pieces =>
    rw [Text.eq_append_of_cutAt? hcut] at hcolon
    simp at hcolon

def decodeParts (category value : List Char) : Except TagDecodeError Tag := do
  let category ← decodePart category
  let value ← if value = [] then pure "" else decodePart value
  return ⟨category, value⟩

theorem decode_eq (e : List Char) :
    Tag.decode e =
      match Text.cutAt? ['"', ':'] e with
      | some (category, value) => decodeParts (category ++ ['"']) value
      | none => decodeParts e [] := by
  rw [Tag.decode]
  cases Text.cutAt? ['"', ':'] e <;> rfl

theorem decodeParts_eq_ok_iff {category value : List Char} {t : Tag} :
    decodeParts category value = .ok t ↔ category = encodePart t.category.toList ∧
      (value = [] ∧ t.value = "" ∨ value = encodePart t.value.toList) := by
  constructor
  · intro h
    cases hcategory : decodePart category with
    | error cause =>
      rw [decodeParts, hcategory] at h
      cases h
    | ok c =>
      rw [decodeParts, hcategory] at h
      dsimp only [bind, Except.bind] at h
      split at h
      · next hempty =>
        cases h
        exact ⟨decodePart_eq_ok_iff.mp hcategory, .inl ⟨hempty, rfl⟩⟩
      · cases hvalue : decodePart value with
        | error cause =>
          rw [hvalue] at h
          cases h
        | ok v =>
          rw [hvalue] at h
          cases h
          exact ⟨decodePart_eq_ok_iff.mp hcategory, .inr (decodePart_eq_ok_iff.mp hvalue)⟩
  · rintro ⟨hcategory, hvalue⟩
    rw [decodeParts, decodePart_eq_ok_iff.mpr hcategory]
    dsimp only [bind, Except.bind]
    rcases hvalue with ⟨hempty, hvalue⟩ | hvalue
    · rw [if_pos hempty, ← hvalue]
      rfl
    · have hne : value ≠ [] := hvalue ▸ List.cons_ne_nil _ _
      rw [if_neg hne, decodePart_eq_ok_iff.mpr hvalue]
      rfl

theorem decode_eq_ok_iff {e : List Char} {t : Tag} :
    Tag.decode e = .ok t ↔ e = encodePart t.category.toList ++ ':' :: encodePart t.value.toList ∨
      t.value = "" ∧ (e = encodePart t.category.toList ∨ e = encodePart t.category.toList ++ [':']) := by
  have hcolon (behind : List Char) : Tag.decode (encodePart t.category.toList ++ ':' :: behind) =
      decodeParts (encodePart t.category.toList) behind := by
    rw [decode_eq, cutAt?_encodePart]
    rfl
  constructor
  · intro h
    rw [decode_eq] at h
    split at h
    · next category value hcut =>
      have htext : e = (category ++ ['"']) ++ ':' :: value := by
        rw [Text.eq_append_of_cutAt? hcut]
        simp
      obtain ⟨hcategory, ⟨rfl, hv⟩ | rfl⟩ := decodeParts_eq_ok_iff.mp h
      · exact .inr ⟨hv, .inr (hcategory ▸ htext)⟩
      · exact .inl (hcategory ▸ htext)
    · obtain ⟨rfl, ⟨-, hv⟩ | hv⟩ := decodeParts_eq_ok_iff.mp h
      · exact .inr ⟨hv, .inl rfl⟩
      · cases hv
  · rintro (rfl | ⟨hv, rfl | rfl⟩)
    · rw [hcolon]
      exact decodeParts_eq_ok_iff.mpr ⟨rfl, .inr rfl⟩
    · rw [decode_eq, cutAt?_encodePart_self]
      exact decodeParts_eq_ok_iff.mpr ⟨rfl, .inl ⟨rfl, hv⟩⟩
    · rw [hcolon]
      exact decodeParts_eq_ok_iff.mpr ⟨rfl, .inl ⟨rfl, hv⟩⟩

/-- A tag in the form that base 64 keeps is read from its encoding, and from no other text unless its value is empty:
then the colon may be missing, or an encoded empty text may follow it. -/
theorem decode_normalized_iff (policy : TagLimitPolicy) {t : Tag} (ht : t.normalized = t) (e : List Char) :
    Tag.decode e = .ok t ↔ e = TagEncoder.encodeTag ⟨true, policy⟩ t ∨
      t.value = "" ∧ (e ++ [':'] = TagEncoder.encodeTag ⟨true, policy⟩ t ∨
        e = TagEncoder.encodeTag ⟨true, policy⟩ t ++ ['b', '"', '"']) := by
  have hencoded : TagEncoder.encodeTag ⟨true, policy⟩ t = encodePart t.category.toList ++
      ':' :: (if t.value.toList = [] then [] else encodePart t.value.toList) := by
    rw [TagEncoder.encodeTag, if_pos rfl, Tag.encodeBase64, ht]
  rw [decode_eq_ok_iff, hencoded]
  by_cases hv : t.value = ""
  · have hempty : encodePart t.value.toList = ['b', '"', '"'] := by
      rw [hv]
      decide +kernel
    rw [hempty, if_pos (String.toList_eq_nil_iff.mpr hv)]
    simp only [hv, true_and, List.append_assoc, List.cons_append, List.nil_append, List.append_left_inj]
    exact or_rotate.trans or_left_comm
  · have hne : ¬t.value.toList = [] := fun h ↦ hv (String.toList_eq_nil_iff.mp h)
    rw [if_neg hne]
    simp only [hv, false_and, or_false]

/-- An encoded empty value behind the colon, which no encoder writes. -/
theorem decode_normalized_iff_emptyValue :
    (⟨"pod", ""⟩ : Tag).normalized = ⟨"pod", ""⟩ ∧ Tag.decode "b\"cG9k\":b\"\"".toList = .ok ⟨"pod", ""⟩ ∧
      "b\"cG9k\":b\"\"".toList ≠ TagEncoder.encodeTag ⟨true, .truncate⟩ ⟨"pod", ""⟩ := by
  have ht : (⟨"pod", ""⟩ : Tag).normalized = ⟨"pod", ""⟩ := by decide +kernel
  refine ⟨ht, (decode_normalized_iff .truncate ht _).mpr (.inr ⟨rfl, .inr ?_⟩), ?_⟩ <;> decide +kernel

end MetricRelay
