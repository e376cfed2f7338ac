import Mathlib.Data.List.Basic
import MetricRelay.Proofs.Text.Bytes
import MetricRelay.Tag.Name

namespace MetricRelay

open String (utf8EncodeChar)

variable {s t : String}

/-- The bytes of two characters differ at a place that both have, so nothing behind them can turn the order round. -/
theorem utf8EncodeChar_append_lt {c d : Char} (h : c < d) (u v : List UInt8) :
    utf8EncodeChar c ++ u < utf8EncodeChar d ++ v := by
  have hcd : c.val.toNat < d.val.toNat := h
  have hd : d.val.toNat < 0x110000 := by rcases d.valid with h | h <;> omega
  have hdiv (n : Nat) : n / 4096 = n / 64 / 64 ∧ n / 262144 = n / 64 / 64 / 64 := by omega
  unfold utf8EncodeChar
  dsimp only
  generalize c.val.toNat = m at hcd
  generalize d.val.toNat = n at hcd hd
  -- characters of different sizes differ in the first byte, those of one size in a digit to base 64
  split_ifs <;>
    simp (disch := omega) only [List.cons_append, List.nil_append, List.cons_lt_cons_iff, UInt8.lt_iff_toNat_lt,
      ← UInt8.toNat_inj, UInt8.toNat_ofNat', Nat.reducePow, Nat.mod_eq_of_lt, (hdiv _).1, (hdiv _).2] <;>
    omega

theorem toList_toUTF8 (s : String) : s.toUTF8.toList = s.toList.flatMap utf8EncodeChar := by
  have hbytes : s.toUTF8 = (s.toList.flatMap utf8EncodeChar).toByteArray := by
    conv_lhs => rw [← String.ofList_toList (s := s)]
    rfl
  have hl : s.toUTF8.toList = s.toUTF8.data.toList := toList_loop rfl
  rw [hl, hbytes, List.data_toByteArray]

theorem flatMap_utf8EncodeChar_lt {s t : List Char} (h : s < t) :
    s.flatMap utf8EncodeChar < t.flatMap utf8EncodeChar := by
  induction h with
  | @nil d t =>
    rw [List.flatMap_nil, List.flatMap_cons]
    cases hd : utf8EncodeChar d with
    | nil => exact absurd hd String.utf8EncodeChar_ne_nil
    | cons b bytes => exact .nil
  | rel h => exact utf8EncodeChar_append_lt h _ _
  | cons _ ih => exact List.append_left_lt ih

theorem toUTF8_lt_of_lt (h : s < t) : s.toUTF8.toList < t.toUTF8.toList := by
  rw [toList_toUTF8, toList_toUTF8]
  exact flatMap_utf8EncodeChar_lt (String.lt_iff.mp h)

theorem toUTF8_lt_iff : s.toUTF8.toList < t.toUTF8.toList ↔ s < t := by
  refine ⟨fun h ↦ ?_, toUTF8_lt_of_lt⟩
  by_contra hn
  by_cases hg : t < s
  · exact List.lt_asymm h (toUTF8_lt_of_lt hg)
  · have he : s = t := String.le_antisymm (String.not_lt.mp hg) (String.not_lt.mp hn)
    rw [he] at h
    exact List.lt_irrefl _ h

theorem utf8Size_append (s t : List Char) : utf8Size (s ++ t) = utf8Size s + utf8Size t := by
  rw [utf8Size, String.ofList_append, String.utf8ByteSize_append]
  rfl

theorem utf8Size_cons (c : Char) (s : List Char) : utf8Size (c :: s) = c.utf8Size + utf8Size s := by
  rw [← List.singleton_append, utf8Size_append]
  congr 1
  exact String.utf8ByteSize_singleton

theorem utf8Size_toList (s : String) : utf8Size s.toList = s.utf8ByteSize := by rw [utf8Size, String.ofList_toList]

end MetricRelay
