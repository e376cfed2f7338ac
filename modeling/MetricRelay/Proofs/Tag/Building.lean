import Mathlib.Data.List.Nodup
import MetricRelay.Tag.Basic

namespace MetricRelay

namespace TagList

variable {a b : TagList}

theorem nodup (list : TagList) : list.tags.Nodup := by
  apply list.sorted.imp
  intro t u h he
  rw [he] at h
  exact Tag.lt_irrefl u h

theorem eq_of_mem_iff (h : ∀ t, t ∈ a.tags ↔ t ∈ b.tags) : a = b := by
  have hperm : a.tags.Perm b.tags := (List.perm_ext_iff_of_nodup a.nodup b.nodup).mpr h
  have htags : a.tags = b.tags := by
    refine hperm.eq_of_pairwise (fun t u _ _ htu hut ↦ ?_) a.sorted b.sorted
    exact absurd (Tag.lt_trans htu hut) (Tag.lt_irrefl t)
  cases a
  cases b
  cases htags
  rfl

theorem eq_tags_of_mem_iff {tags : List Tag} {list : TagList} (hs : tags.Pairwise (· < ·))
    (h : ∀ t, t ∈ tags ↔ t ∈ list.tags) : tags = list.tags := by
  have heq : (⟨tags, hs⟩ : TagList) = list := eq_of_mem_iff h
  rw [← heq]

end TagList

namespace Tag

variable {t u : Tag} {tags : List Tag}

def dropRepeats : List Tag → List Tag
  | [] => []
  | t :: rest => if rest.head? = some t then dropRepeats rest else t :: dropRepeats rest

def notAfter (t u : Tag) : Bool := !decide (u < t)

def sortOnce (tags : List Tag) : List Tag := dropRepeats (tags.mergeSort notAfter)

theorem mem_dropRepeats : u ∈ dropRepeats tags ↔ u ∈ tags := by
  induction tags with
  | nil => rfl
  | cons t rest ih =>
    rw [dropRepeats]
    split
    · next hrepeat =>
      have ht : t ∈ rest := List.mem_of_mem_head? hrepeat
      rw [ih, List.mem_cons]
      refine ⟨.inr, ?_⟩
      rintro (rfl | hu)
      · exact ht
      · exact hu
    · rw [List.mem_cons, List.mem_cons, ih]

theorem pairwise_dropRepeats (h : tags.Pairwise fun t u ↦ ¬u < t) : (dropRepeats tags).Pairwise (· < ·) := by
  induction tags with
  | nil => exact .nil
  | cons t rest ih =>
    obtain ⟨ht, hrest⟩ := List.pairwise_cons.mp h
    rw [dropRepeats]
    split
    · exact ih hrest
    · next hother =>
      refine List.pairwise_cons.mpr ⟨fun u hu ↦ ?_, ih hrest⟩
      rw [mem_dropRepeats] at hu
      cases rest with
      | nil => cases hu
      | cons v rest =>
        have hne : t ≠ v := fun e ↦ hother (by rw [e]; rfl)
        have htv : t < v := (lt_or_lt_of_ne hne).resolve_right (ht v List.mem_cons_self)
        rcases List.mem_cons.mp hu with rfl | hu
        · exact htv
        · -- a tag behind `v` is not before it, and so not `t` again
          have hvu : ¬u < v := (List.pairwise_cons.mp hrest).1 u hu
          by_cases he : v = u
          · rwa [← he]
          · exact lt_trans htv ((lt_or_lt_of_ne he).resolve_right hvu)

theorem notAfter_iff : notAfter t u = true ↔ ¬u < t := by rw [notAfter, Bool.not_eq_true', decide_eq_false_iff_not]

theorem notAfter_trans (t u v : Tag) (htu : notAfter t u = true) (huv : notAfter u v = true) : notAfter t v = true := by
  rw [notAfter_iff] at htu huv ⊢
  intro h
  by_cases he : t = u
  · rw [he] at h
    exact huv h
  · exact huv (lt_trans h ((lt_or_lt_of_ne he).resolve_right htu))

theorem notAfter_total (t u : Tag) : (notAfter t u || notAfter u t) = true := by
  rw [Bool.or_eq_true, notAfter_iff, notAfter_iff, ← not_and_or]
  exact fun h ↦ lt_irrefl t (lt_trans h.2 h.1)

theorem pairwise_sortOnce (tags : List Tag) : (sortOnce tags).Pairwise (· < ·) := by
  apply pairwise_dropRepeats
  have hsorted := List.pairwise_mergeSort notAfter_trans notAfter_total tags
  exact hsorted.imp fun h ↦ notAfter_iff.mp h

theorem sortOnce_eq (tags : List Tag) : sortOnce tags = (TagList.ofTags tags).tags := by
  refine TagList.eq_tags_of_mem_iff (pairwise_sortOnce tags) fun t ↦ ?_
  rw [sortOnce, mem_dropRepeats, List.mem_mergeSort, TagList.mem_ofTags]

/-- Looks for a tag between two places: where it stands, or else where it belongs. -/
def search (t : Tag) (tags : List Tag) (low high : Nat) : Except Nat Nat :=
  if low < high then
    let middle := (low + high) / 2
    match tags[middle]? with
    | none => .error low
    | some u =>
      if u < t then search t tags (middle + 1) high
      else if t < u then search t tags low middle
      else .ok middle
  else .error low
termination_by high - low

def insertSearched (t : Tag) (tags : List Tag) : List Tag :=
  match search t tags 0 tags.length with
  | .ok _ => tags
  | .error place => tags.take place ++ t :: tags.drop place

theorem around_getElem? (hs : tags.Pairwise (· < ·)) {place : Nat} (h : tags[place]? = some u) :
    (∀ v ∈ tags.take place, v < u) ∧ ∀ v ∈ tags.drop (place + 1), u < v := by
  obtain ⟨hplace, rfl⟩ := List.getElem?_eq_some_iff.mp h
  rw [← List.take_append_drop place tags, List.drop_eq_getElem_cons hplace] at hs
  obtain ⟨-, hbehind, hfront⟩ := List.pairwise_append.mp hs
  exact ⟨fun v hv ↦ hfront v hv _ List.mem_cons_self, (List.pairwise_cons.mp hbehind).1⟩

/-- The search keeps what comes before the tag in front of the part that is left, and what comes after it behind. -/
theorem search_spec (hs : tags.Pairwise (· < ·)) {low high : Nat} (hle : low ≤ high) (hhigh : high ≤ tags.length)
    (hfront : ∀ u ∈ tags.take low, u < t) (hbehind : ∀ u ∈ tags.drop high, t < u) :
    match search t tags low high with
    | .ok place => tags[place]? = some t
    | .error place => (∀ u ∈ tags.take place, u < t) ∧ ∀ u ∈ tags.drop place, t < u := by
  fun_induction search t tags low high with
  | case1 low high hlt middle hnone =>
    rw [List.getElem?_eq_none_iff] at hnone
    omega
  | case2 low high hlt middle u hu hut ih =>
    obtain ⟨hfront', -⟩ := around_getElem? hs hu
    refine ih (by omega) hhigh (fun v hv ↦ ?_) hbehind
    rw [List.take_add_one, hu, List.mem_append] at hv
    rcases hv with hv | hv
    · exact lt_trans (hfront' v hv) hut
    · rw [List.mem_singleton.mp hv]
      exact hut
  | case3 low high hlt middle u hu hut htu ih =>
    obtain ⟨-, hbehind'⟩ := around_getElem? hs hu
    obtain ⟨hplace, hget⟩ := List.getElem?_eq_some_iff.mp hu
    refine ih (by omega) (by omega) hfront fun v hv ↦ ?_
    rw [List.drop_eq_getElem_cons hplace, hget] at hv
    rcases List.mem_cons.mp hv with rfl | hv
    · exact htu
    · exact lt_trans htu (hbehind' v hv)
  | case4 low high hlt middle u hu hut htu =>
    have he : u = t := by
      by_contra hne
      exact (lt_or_lt_of_ne hne).elim hut htu
    rw [← he]
    exact hu
  | case5 low high hge =>
    have hsame : low = high := by omega
    exact ⟨hfront, hsame ▸ hbehind⟩

theorem insertSearched_eq (list : TagList) (t : Tag) : insertSearched t list.tags = (list.insert t).tags := by
  have hsearch := search_spec (t := t) list.sorted (Nat.zero_le list.tags.length) (Nat.le_refl _) (by simp) (by simp)
  rw [insertSearched]
  cases hplace : search t list.tags 0 list.tags.length with
  | ok place =>
    rw [hplace] at hsearch
    refine TagList.eq_tags_of_mem_iff list.sorted fun u ↦ ?_
    rw [TagList.mem_insert]
    refine ⟨.inr, ?_⟩
    rintro (rfl | hu)
    · exact List.mem_of_getElem? hsearch
    · exact hu
  | error place =>
    rw [hplace] at hsearch
    obtain ⟨hfront, hbehind⟩ := hsearch
    have hsplit := List.take_append_drop place list.tags
    refine TagList.eq_tags_of_mem_iff ?_ fun u ↦ ?_
    · have hs := list.sorted
      rw [← hsplit, List.pairwise_append] at hs
      obtain ⟨htake, hdrop, hcross⟩ := hs
      refine List.pairwise_append.mpr ⟨htake, List.pairwise_cons.mpr ⟨hbehind, hdrop⟩, fun u hu v hv ↦ ?_⟩
      rcases List.mem_cons.mp hv with rfl | hv
      · exact hfront u hu
      · exact hcross u hu v hv
    · have hmem : u ∈ list.tags ↔ u ∈ list.tags.take place ∨ u ∈ list.tags.drop place := by
        rw [← List.mem_append, hsplit]
      rw [TagList.mem_insert, hmem, List.mem_append, List.mem_cons, or_left_comm]

end Tag
end MetricRelay
