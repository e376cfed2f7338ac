import MetricRelay.Text.Cut

namespace MetricRelay.Text

variable {separator : Char} {s rest : List Char}

theorem cut?_append (h : separator ∉ s) (rest : List Char) :
    cut? separator (s ++ separator :: rest) = some (s, rest) := by
  induction s with
  | nil => simp [cut?]
  | cons c s ih =>
    simp only [List.mem_cons, not_or] at h
    simp [cut?, Ne.symm h.1, ih h.2]

theorem cut?_of_not_mem (h : separator ∉ s) : cut? separator s = none := by
  induction s with
  | nil => rfl
  | cons c s ih =>
    simp only [List.mem_cons, not_or] at h
    simp [cut?, Ne.symm h.1, ih h.2]

theorem cutAt?_append {c : Char} (h : c ∉ s) (marker rest : List Char) :
    cutAt? (c :: marker) (s ++ c :: (marker ++ rest)) = some (s, rest) := by
  induction s with
  | nil => simp [cutAt?]
  | cons d s ih =>
    simp only [List.mem_cons, not_or] at h
    have hd : (c :: marker).isPrefixOf (d :: (s ++ c :: (marker ++ rest))) = false := by simp [List.isPrefixOf, h.1]
    rw [List.cons_append, cutAt?, hd, ih h.2]
    rfl

theorem dropStart?_append (start rest : List Char) : dropStart? start (start ++ rest) = some rest := by
  rw [dropStart?, if_pos (List.isPrefixOf_iff_prefix.mpr (List.prefix_append _ _)), List.drop_left]

theorem dropEnd?_append (s ending : List Char) : dropEnd? ending (s ++ ending) = some s := by
  rw [dropEnd?, if_pos (List.isSuffixOf_iff_suffix.mpr (List.suffix_append _ _))]
  simp

theorem eq_append_of_cutAt? {marker before : List Char} (h : cutAt? marker s = some (before, rest)) :
    s = before ++ (marker ++ rest) := by
  induction s generalizing before with
  | nil =>
    rw [cutAt?] at h
    split at h
    · next hm =>
      cases h
      rw [hm]
      rfl
    · cases h
  | cons c s ih =>
    rw [cutAt?] at h
    split at h
    · next hm =>
      obtain ⟨behind, hb⟩ := List.isPrefixOf_iff_prefix.mp hm
      rw [← hb, List.drop_left] at h
      cases h
      exact hb.symm
    · obtain ⟨⟨front, behind⟩, hcut, he⟩ := Option.map_eq_some_iff.mp h
      cases he
      rw [ih hcut, List.cons_append]

theorem dropStart?_eq_some_iff {start text : List Char} : dropStart? start text = some rest ↔ text = start ++ rest := by
  constructor
  · intro h
    rw [dropStart?] at h
    split at h
    · next hp =>
      obtain ⟨behind, rfl⟩ := List.isPrefixOf_iff_prefix.mp hp
      rw [← Option.some.inj h, List.drop_left]
    · cases h
  · rintro rfl
    exact dropStart?_append start rest

theorem dropEnd?_eq_some_iff {ending text : List Char} : dropEnd? ending text = some rest ↔ text = rest ++ ending := by
  constructor
  · intro h
    rw [dropEnd?] at h
    split at h
    · next hs =>
      obtain ⟨before, rfl⟩ := List.isSuffixOf_iff_suffix.mp hs
      rw [← Option.some.inj h, List.length_append, Nat.add_sub_cancel, List.take_left]
    · cases h
  · rintro rfl
    exact dropEnd?_append rest ending

theorem split_of_not_mem (h : separator ∉ s) : split separator s = [s] := by
  induction s with
  | nil => rfl
  | cons c s ih =>
    simp only [List.mem_cons, not_or] at h
    simp [split, Ne.symm h.1, ih h.2]

theorem split_append (h : separator ∉ s) (rest : List Char) :
    split separator (s ++ separator :: rest) = s :: split separator rest := by
  induction s with
  | nil => simp [split]
  | cons c s ih =>
    simp only [List.mem_cons, not_or] at h
    simp [split, Ne.symm h.1, ih h.2]

theorem split_pieces {piece : List Char} {pieces : List (List Char)} (h : ∀ p ∈ piece :: pieces, separator ∉ p) :
    split separator (piece ++ pieces.flatMap fun p ↦ separator :: p) = piece :: pieces := by
  induction pieces generalizing piece with
  | nil => simpa using split_of_not_mem (h piece List.mem_cons_self)
  | cons next pieces ih =>
    obtain ⟨hpiece, hrest⟩ := List.forall_mem_cons.mp h
    rw [List.flatMap_cons, List.cons_append, split_append hpiece, ih hrest]

theorem intercalate_split (separator joiner : Char) (s : List Char) :
    [joiner].intercalate (split separator s) = s.map fun c ↦ if c = separator then joiner else c := by
  induction s with
  | nil => rfl
  | cons c rest ih =>
    have hne := split_ne_nil separator rest
    rw [List.map_cons, ← ih, split]
    by_cases hc : c = separator
    · rw [if_pos hc, if_pos hc, List.intercalate_cons_of_ne_nil hne, List.nil_append, List.singleton_append]
    · obtain ⟨piece, others, hsplit⟩ := List.exists_cons_of_ne_nil hne
      rw [if_neg hc, if_neg hc, hsplit]
      cases others with
      | nil => simp
      | cons next others => simp [List.intercalate_cons_cons]

end MetricRelay.Text
