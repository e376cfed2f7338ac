import Mathlib.Data.List.Induction
import MetricRelay.Config.Value

namespace MetricRelay.Config.Value

variable {rule : ListRule} {earlier later v : Value} {entries : Table} {path : List String}

def isTable : Value → Bool
  | table _ => true
  | _ => false

def isScalar : Value → Bool
  | list _ | table _ => false
  | _ => true

/-- No table holds a name twice, those in lists apart. -/
inductive Unambiguous : Value → Prop
  | branch {entries : Table} : (entries.map Prod.fst).Nodup → (∀ entry ∈ entries, Unambiguous entry.2) →
      Unambiguous (.table entries)
  | leaf {v : Value} : v.isTable = false → Unambiguous v

theorem Unambiguous.nodup (h : (table entries).Unambiguous) : (entries.map Prod.fst).Nodup := by
  cases h with
  | branch hn _ => exact hn
  | leaf hl => cases hl

theorem Unambiguous.of_mem {entry : String × Value} (h : (table entries).Unambiguous) (hm : entry ∈ entries) :
    entry.2.Unambiguous := by
  cases h with
  | branch _ hall => exact hall entry hm
  | leaf hl => cases hl

theorem Unambiguous.of_get? {name : String} (h : (table entries).Unambiguous)
    (hv : Entries.get? name entries = some v) : v.Unambiguous := by
  obtain ⟨entry, he, rfl⟩ := Option.map_eq_some_iff.mp hv
  exact h.of_mem (List.mem_of_find?_eq_some he)

theorem unambiguous_empty : (table []).Unambiguous := .branch List.nodup_nil fun _ h ↦ absurd h List.not_mem_nil

theorem Unambiguous.upsert {f : Option Value → Value} (h : (table entries).Unambiguous) (name : String)
    (hf : ∀ present, (∀ x, present = some x → x.Unambiguous) → (f present).Unambiguous) :
    (table (Entries.upsert name f entries)).Unambiguous := by
  refine .branch (Entries.nodup_upsert name f h.nodup) fun entry hm ↦ ?_
  have hall : ∀ entry ∈ entries, entry.2.Unambiguous := fun entry ↦ h.of_mem
  clear h
  induction entries with
  | nil =>
    obtain rfl := List.mem_singleton.mp hm
    exact hf none fun _ he ↦ absurd he (Option.some_ne_none _).symm
  | cons first rest ih =>
    obtain ⟨hfirst, hrest⟩ := List.forall_mem_cons.mp hall
    rw [Entries.upsert] at hm
    split at hm
    · rcases List.mem_cons.mp hm with rfl | hm
      · exact hf _ fun x he ↦ Option.some.inj he ▸ hfirst
      · exact hrest entry hm
    · rcases List.mem_cons.mp hm with rfl | hm
      · exact hfirst
      · exact ih hm hrest

theorem unambiguous_overlayEntries {above : Table} (h : (table entries).Unambiguous)
    (habove : ∀ entry ∈ above, entry.2.Unambiguous ∧
      ∀ present : Value, present.Unambiguous → (overlay rule present entry.2).Unambiguous) :
    (table (overlayEntries rule entries above)).Unambiguous := by
  induction above generalizing entries with
  | nil => exact h
  | cons entry rest ih =>
    obtain ⟨⟨hvalue, hlaid⟩, hrest⟩ := List.forall_mem_cons.mp habove
    rw [overlayEntries]
    refine ih (h.upsert entry.1 fun present hp ↦ ?_) hrest
    cases present with
    | none => exact hvalue
    | some present => exact hlaid present (hp present rfl)

theorem Unambiguous.overlay (hl : later.Unambiguous) (he : earlier.Unambiguous) :
    (overlay rule earlier later).Unambiguous := by
  induction hl generalizing earlier with
  | branch hn hall ih =>
    cases earlier with
    | table entries => exact unambiguous_overlayEntries he fun entry hm ↦ ⟨hall entry hm, fun _ ↦ ih entry hm⟩
    | _ => exact .branch hn hall
  | @leaf v hv =>
    cases v with
    | table entries => cases hv
    | list items => cases earlier <;> exact .leaf rfl
    | _ => exact .leaf rfl

theorem overlay_of_isScalar (h : later.isScalar = true) : overlay rule earlier later = later := by
  cases later with
  | list items => cases h
  | table entries => cases h
  | _ => rfl

theorem isTable_overlay : (overlay rule earlier later).isTable = later.isTable := by
  cases later with
  | list items => cases earlier <;> rfl
  | table entries => cases earlier <;> rfl
  | _ => rfl

theorem exists_eq_table (h : v.isTable = true) : ∃ entries, v = table entries := by
  cases v with
  | table entries => exact ⟨entries, rfl⟩
  | _ => cases h

theorem overlay_of_not_isTable {above : Table} (h : earlier.isTable = false) :
    overlay rule earlier (table above) = table above := by
  cases earlier with
  | table entries => cases h
  | _ => rfl

theorem get?_overlayEntries {above : Table} (hn : (above.map Prod.fst).Nodup) (name : String) :
    Entries.get? name (overlayEntries rule entries above) =
      (Entries.get? name entries).merge (overlay rule) (Entries.get? name above) := by
  induction above generalizing entries with
  | nil => exact Option.merge_none_right.symm
  | cons entry rest ih =>
    obtain ⟨key, value⟩ := entry
    obtain ⟨hkey, hrest⟩ := List.nodup_cons.mp hn
    rw [overlayEntries, ih hrest, Entries.get?_upsert]
    by_cases h : key = name
    · subst h
      have hnone : Entries.get? key rest = none := Entries.get?_eq_none_iff.mpr hkey
      have hthis : Entries.get? key ((key, value) :: rest) = some value := by simp [Entries.get?]
      rw [if_pos rfl, hnone, hthis, Option.merge_none_right]
      cases Entries.get? key entries <;> rfl
    · have hskip : Entries.get? name ((key, value) :: rest) = Entries.get? name rest := by simp [Entries.get?, h]
      rw [if_neg h, hskip]

theorem find?_cons {segment : String} (h : segment ≠ "") (rest : List String) (entries : Table) :
    find? (segment :: rest) (table entries) = (Entries.get? segment entries).bind (find? rest) := if_neg h

theorem find?_cons_of_not_isTable {segment : String} (h : segment ≠ "") (hv : v.isTable = false) (rest : List String) :
    find? (segment :: rest) v = none := by
  cases v with
  | table entries => cases hv
  | _ => exact if_neg h

/-- Somewhere on the way that a path goes, the later tree has something else in the place of an earlier table. -/
def Cuts (path : List String) (earlier later : Value) : Prop :=
  ∃ n < path.length, (find? (path.take n) earlier).any isTable = true ∧
    (find? (path.take n) later).any (fun v ↦ !v.isTable) = true

instance (path : List String) (earlier later : Value) : Decidable (Cuts path earlier later) := by
  unfold Cuts
  infer_instance

theorem Cuts.cons {segment : String} {rest : List String} {entries above : Table} {x y : Value} (hs : segment ≠ "")
    (hx : Entries.get? segment entries = some x) (hy : Entries.get? segment above = some y) (h : Cuts rest x y) :
    Cuts (segment :: rest) (table entries) (table above) := by
  obtain ⟨n, hn, hbefore, hbehind⟩ := h
  refine ⟨n + 1, Nat.succ_lt_succ hn, ?_, ?_⟩
  · rw [List.take_succ_cons, find?_cons hs, hx]
    exact hbefore
  · rw [List.take_succ_cons, find?_cons hs, hy]
    exact hbehind

theorem find?_overlay_table {segment : String} {rest : List String} {entries above : Table} (hs : segment ≠ "")
    (hn : (above.map Prod.fst).Nodup)
    (hrest : ∀ x y, Entries.get? segment entries = some x → Entries.get? segment above = some y →
      find? rest (overlay rule x y) = (find? rest x).merge (overlay rule) (find? rest y)) :
    find? (segment :: rest) (overlay rule (table entries) (table above)) =
      (find? (segment :: rest) (table entries)).merge (overlay rule) (find? (segment :: rest) (table above)) := by
  have htable : overlay rule (table entries) (table above) = table (overlayEntries rule entries above) := rfl
  rw [htable, find?_cons hs, find?_cons hs, find?_cons hs, get?_overlayEntries hn segment]
  cases hx : Entries.get? segment entries with
  | none => simp
  | some x =>
    cases hy : Entries.get? segment above with
    | none => simp
    | some y => exact hrest x y hx hy

theorem find?_overlay (hu : later.Unambiguous) (hpath : ∀ segment ∈ path, segment ≠ "")
    (hc : ¬Cuts path earlier later) :
    find? path (overlay rule earlier later) = (find? path earlier).merge (overlay rule) (find? path later) := by
  induction path generalizing earlier later with
  | nil => rfl
  | cons segment rest ih =>
    obtain ⟨hsegment, hrest⟩ := List.forall_mem_cons.mp hpath
    -- the trees themselves are what the empty part of the path leads to
    have hroot (he : earlier.isTable = true) : later.isTable = true := by
      by_contra hl
      exact hc ⟨0, Nat.succ_pos _, he, by simpa [find?] using hl⟩
    cases hl : later.isTable with
    | false =>
      have he : earlier.isTable = false := Bool.eq_false_iff.mpr fun he ↦ by simp [hroot he] at hl
      rw [find?_cons_of_not_isTable hsegment (isTable_overlay.trans hl), find?_cons_of_not_isTable hsegment he,
        find?_cons_of_not_isTable hsegment hl]
      rfl
    | true =>
      obtain ⟨above, rfl⟩ := exists_eq_table hl
      cases he : earlier.isTable with
      | false =>
        rw [overlay_of_not_isTable he, find?_cons_of_not_isTable hsegment he, Option.merge_none_left]
      | true =>
        obtain ⟨entries, rfl⟩ := exists_eq_table he
        exact find?_overlay_table hsegment hu.nodup fun x y hx hy ↦
          ih (hu.of_get? hy) hrest fun hcut ↦ hc (hcut.cons hsegment hx hy)

section

variable {layers front back : List Table} {layer : Table}

def stack (rule : ListRule) (layers : List Table) : Table := layers.foldl (overlayEntries rule) []

/-- What a path finds in single layers, later finds laid over earlier ones. -/
def findIn (rule : ListRule) (path : List String) (layers : List Table) : Option Value :=
  (layers.map fun layer ↦ find? path (table layer)).foldl (Option.merge (overlay rule)) none

theorem findIn_append (rule : ListRule) (path : List String) (layers : List Table) (layer : Table) :
    findIn rule path (layers ++ [layer]) =
      (findIn rule path layers).merge (overlay rule) (find? path (table layer)) := by
  simp [findIn]

theorem findIn_append_of_none (front : List Table) (h : ∀ layer ∈ back, find? path (table layer) = none) :
    findIn rule path (front ++ back) = findIn rule path front := by
  induction back generalizing front with
  | nil => rw [List.append_nil]
  | cons layer rest ih =>
    obtain ⟨hlayer, hrest⟩ := List.forall_mem_cons.mp h
    rw [List.append_cons, ih (front ++ [layer]) hrest, findIn_append, hlayer, Option.merge_none_right]

theorem findIn_eq_none_iff :
    findIn rule path layers = none ↔ ∀ layer ∈ layers, find? path (table layer) = none := by
  induction layers using List.reverseRecOn with
  | nil => simp [findIn]
  | append_singleton layers layer ih =>
    rw [findIn_append, Option.merge_eq_none_iff, ih, List.forall_mem_append, List.forall_mem_singleton]

/-- The last layer that has anything at a path decides, if it has a scalar there. -/
theorem findIn_of_last (hv : find? path (table layer) = some v) (hs : v.isScalar = true)
    (hback : ∀ layer ∈ back, find? path (table layer) = none) (front : List Table) :
    findIn rule path (front ++ layer :: back) = some v := by
  rw [List.append_cons, findIn_append_of_none _ hback, findIn_append, hv]
  cases findIn rule path front with
  | none => rfl
  | some present => exact congrArg some (overlay_of_isScalar hs)

theorem exists_isTable_of_findIn (h : (findIn rule path layers).any isTable = true) :
    ∃ layer ∈ layers, (find? path (table layer)).any isTable = true := by
  induction layers using List.reverseRecOn with
  | nil => cases h
  | append_singleton layers layer ih =>
    rw [findIn_append] at h
    cases hl : find? path (table layer) with
    | none =>
      rw [hl, Option.merge_none_right] at h
      obtain ⟨earlier, hm, ht⟩ := ih h
      exact ⟨earlier, List.mem_append_left _ hm, ht⟩
    | some value =>
      refine ⟨layer, List.mem_append_right _ (List.mem_singleton.mpr rfl), ?_⟩
      rw [hl] at h ⊢
      cases hf : findIn rule path layers with
      | none => rwa [hf] at h
      | some present =>
        rw [hf] at h
        exact isTable_overlay.symm.trans h

theorem Cuts.of_take {n : Nat} (h : Cuts (path.take n) earlier later) : Cuts path earlier later := by
  obtain ⟨m, hm, hbefore, hbehind⟩ := h
  rw [List.length_take, Nat.lt_min] at hm
  rw [List.take_take, Nat.min_eq_left (Nat.le_of_lt hm.1)] at hbefore hbehind
  exact ⟨m, hm.2, hbefore, hbehind⟩

theorem find?_stack (hu : ∀ layer ∈ layers, (table layer).Unambiguous) (hpath : ∀ segment ∈ path, segment ≠ "")
    (hne : path ≠ []) (hc : layers.Pairwise fun earlier later ↦ ¬Cuts path (table earlier) (table later)) :
    find? path (table (stack rule layers)) = findIn rule path layers := by
  induction layers using List.reverseRecOn generalizing path with
  | nil =>
    cases path with
    | nil => exact absurd rfl hne
    | cons segment rest => exact find?_cons (hpath segment List.mem_cons_self) rest []
  | append_singleton layers layer ih =>
    obtain ⟨hfront, -, hlast⟩ := List.pairwise_append.mp hc
    have hlayers : ∀ earlier ∈ layers, (table earlier).Unambiguous := fun earlier hm ↦
      hu earlier (List.mem_append_left _ hm)
    have hmem : layer ∈ layers ++ [layer] := List.mem_append_right _ (List.mem_singleton.mpr rfl)
    have hstack : table (stack rule (layers ++ [layer])) = overlay rule (table (stack rule layers)) (table layer) := by
      rw [stack, List.foldl_append]
      rfl
    rw [hstack, findIn_append, ← ih hlayers hpath hne hfront]
    refine find?_overlay (hu layer hmem) hpath fun ⟨n, hn, hbefore, hbehind⟩ ↦ ?_
    cases n with
    | zero => simp [find?, isTable] at hbehind
    | succ n =>
      -- a table in the stack comes from one of its layers, which the last layer would cut as well
      have htake : path.take (n + 1) ≠ [] := List.ne_nil_of_length_pos (by rw [List.length_take]; omega)
      rw [ih hlayers (fun segment hm ↦ hpath segment (List.mem_of_mem_take hm)) htake
        (hfront.imp fun hcut hc ↦ hcut hc.of_take)] at hbefore
      obtain ⟨earlier, hm, ht⟩ := exists_isTable_of_findIn hbefore
      exact hlast earlier hm layer (List.mem_singleton.mpr rfl) ⟨n + 1, hn, ht, hbehind⟩

end

end MetricRelay.Config.Value
