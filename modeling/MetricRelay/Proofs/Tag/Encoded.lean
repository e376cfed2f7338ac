import MetricRelay.Proofs.Text.Base64
import MetricRelay.Proofs.Text.Bytes
import MetricRelay.Proofs.Text.Cutting
import MetricRelay.Tag.Name

namespace MetricRelay

open Text.Base64 (IsCode)

theorem fromUTF8?_utf8Bytes (s : List Char) : String.fromUTF8? (utf8Bytes s).toByteArray = some (String.ofList s) :=
  fromUTF8?_eq_some_iff.mpr rfl

theorem decodePart_encodePart (s : List Char) : decodePart (encodePart s) = .ok (String.ofList s) := by
  have hopen : Text.dropStart? ['b', '"'] (encodePart s) = some (Text.Base64.encode (utf8Bytes s) ++ ['"']) :=
    Text.dropStart?_append ['b', '"'] _
  rw [decodePart, hopen, Option.bind_some, Text.dropEnd?_append]
  dsimp only
  rw [Text.Base64.decode?_encode]
  dsimp only
  rw [fromUTF8?_utf8Bytes]

/-- The quote in front of a colon is the one behind the category. -/
theorem cutAt?_encodePart (s rest : List Char) :
    Text.cutAt? ['"', ':'] (encodePart s ++ ':' :: rest) =
      some ('b' :: '"' :: Text.Base64.encode (utf8Bytes s), rest) := by
  have hcode : ∀ c ∈ Text.Base64.encode (utf8Bytes s), IsCode c := fun c ↦ Text.Base64.isCode_of_mem_encode
  have hquote : '"' ∉ Text.Base64.encode (utf8Bytes s) := fun h ↦ absurd (hcode _ h) (by decide)
  have hcut := Text.cutAt?_append hquote [':'] rest
  -- behind the opening quote stands code or the closing quote, so the search does not stop at it
  have hcolon : ['"', ':'].isPrefixOf ('"' :: (Text.Base64.encode (utf8Bytes s) ++ '"' :: ([':'] ++ rest))) = false := by
    cases he : Text.Base64.encode (utf8Bytes s) with
    | nil => rfl
    | cons c code =>
      have hc : c ≠ ':' := by
        rintro rfl
        exact absurd (hcode ':' (by simp [he])) (by decide)
      simp [List.isPrefixOf, Ne.symm hc]
  have htext : encodePart s ++ ':' :: rest =
      'b' :: '"' :: (Text.Base64.encode (utf8Bytes s) ++ '"' :: ([':'] ++ rest)) := by simp [encodePart]
  rw [htext, Text.cutAt?, if_neg (by simp [List.isPrefixOf]), Text.cutAt?, if_neg (Bool.eq_false_iff.mp hcolon), hcut]
  rfl

theorem decode_encodeBase64 (t : Tag) : Tag.decode t.encodeBase64 = .ok t.normalized := by
  have hcategory : 'b' :: '"' :: Text.Base64.encode (utf8Bytes t.normalized.category.toList) ++ ['"'] =
      encodePart t.normalized.category.toList := rfl
  rw [Tag.encodeBase64, Tag.decode, cutAt?_encodePart]
  dsimp only
  rw [hcategory, decodePart_encodePart, String.ofList_toList]
  dsimp only [bind, Except.bind]
  by_cases hv : t.normalized.value.toList = []
  · have hvalue : t.normalized.value = "" := String.toList_eq_nil_iff.mp hv
    rw [if_pos hv, if_pos rfl, ← hvalue]
    rfl
  · have hne : encodePart t.normalized.value.toList ≠ [] := List.cons_ne_nil _ _
    rw [if_neg hv, if_neg hne, decodePart_encodePart, String.ofList_toList]
    rfl

/-- Every tag reads back in lower case and without white space, whatever characters it holds. -/
theorem decode_encodeTag (policy : TagLimitPolicy) (t : Tag) :
    ∃ u, Tag.decode (TagEncoder.encodeTag ⟨true, policy⟩ t) = .ok u ∧
      u.category.toList = (Unicode.lower t.category.toList).filter (fun c ↦ !Text.isBlank c) ∧
      u.value.toList = t.value.toList.filter fun c ↦ !Text.isBlank c := by
  refine ⟨t.normalized, ?_, ?_, ?_⟩
  · rw [TagEncoder.encodeTag, if_pos rfl, decode_encodeBase64]
  · rw [Tag.normalized, String.toList_ofList, Text.stripBlanks]
  · rw [Tag.normalized, String.toList_ofList, Text.stripBlanks]

theorem not_mem_encodePart {c : Char} (h : ¬IsCode c) (hb : c ≠ 'b') (hq : c ≠ '"') (s : List Char) :
    c ∉ encodePart s := by
  have hcode : c ∉ Text.Base64.encode (utf8Bytes s) := fun hm ↦ h (Text.Base64.isCode_of_mem_encode hm)
  simp [encodePart, hb, hq, hcode]

theorem not_mem_encodeBase64 {c : Char} (h : ¬IsCode c) (hb : c ≠ 'b') (hq : c ≠ '"') (hc : c ≠ ':') (t : Tag) :
    c ∉ t.encodeBase64 := by
  have hpart := not_mem_encodePart h hb hq
  rw [Tag.encodeBase64]
  simp only [List.mem_append, List.mem_cons, not_or]
  refine ⟨hpart _, hc, ?_⟩
  split
  · exact List.not_mem_nil
  · exact hpart _

theorem parse_text {t : Tag} (h : ':' ∉ t.category.toList) : Tag.parse t.text = t := by
  have hcut : Text.cut? ':' t.text.toList = some (t.category.toList, t.value.toList) := by
    have htext : t.text.toList = t.category.toList ++ ':' :: t.value.toList := by simp [Tag.text]
    rw [htext, Text.cut?_append h]
  rw [Tag.parse, hcut]
  simp

end MetricRelay
