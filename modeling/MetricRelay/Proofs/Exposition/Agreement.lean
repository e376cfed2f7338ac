import Mathlib.Data.List.Forall2
import MetricRelay.Proofs.Exposition.EmptyLabels
import MetricRelay.Proofs.Exposition.Layout
import MetricRelay.Proofs.Exposition.Replay

namespace MetricRelay.Exposition

namespace Families

/-- The second line is the first, or the same sample but for labels that tell nothing. -/
def agree (families : Families) (line line' : List Char) : Bool :=
  match SampleLine.read? (Text.trim line), SampleLine.read? (Text.trim line') with
  | some s, some s' =>
    match families.resolve s.name with
    | .ok (_, role) =>
      s' = { s with labels := s'.labels } &&
        s'.labels.filter (isTelling role.ownLabel?) = s.labels.filter (isTelling role.ownLabel?)
    | .error _ => false
  | _, _ => line' = line

/-- Each line agrees with the one at its place, in front of the families that the lines before it have left. -/
def agreeAll (families : Families) : List (List Char) → List (List Char) → Bool
  | [], [] => true
  | line :: lines, line' :: lines' =>
    families.agree line line' &&
      match families.readLine line with
      | .ok next => next.agreeAll lines lines'
      | .error _ => true
  | _, _ => false

end Families

structure Metric.Matches (m m' : Metric) : Prop where
  eq : m' = { m with labels := m'.labels }
  valued : Exposition.valued m'.labels = Exposition.valued m.labels

structure Family.Matches (f f' : Family) : Prop where
  eq : f' = { f with metrics := f'.metrics }
  metrics : List.Forall₂ Metric.Matches f.metrics f'.metrics

/-- The states hold matching metrics, and each pair of contributions to the family finds its series at one place. -/
structure FamilyState.Matches (pairs : List (Contribution × Contribution)) (name : String)
    (state state' : FamilyState) : Prop where
  help : state'.help = state.help
  kind : state'.kind = state.kind
  metrics : List.Forall₂ Metric.Matches state.metrics.toList state'.metrics.toList
  places : ∀ p ∈ pairs, p.1.part ≠ .scalar → p.1.family = name →
    state'.groups.get? p.2.labels = state.groups.get? p.1.labels

def Families.Matches (pairs : List (Contribution × Contribution)) (families families' : Families) : Prop :=
  List.Forall₂ (fun entry entry' ↦ entry'.1 = entry.1 ∧ entry.2.Matches pairs entry.1 entry'.2) families.entries
    families'.entries

theorem forall₂_modify {α : Type} {R : α → α → Prop} {g g' : α → α} {l l' : List α} (h : List.Forall₂ R l l')
    (hg : ∀ a a', R a a' → R (g a) (g' a')) (place : Nat) :
    List.Forall₂ R (l.modify place g) (l'.modify place g') := by
  induction h generalizing place with
  | nil => cases place <;> exact .nil
  | cons hhead htail ih =>
    cases place with
    | zero => exact .cons (hg _ _ hhead) htail
    | succ place => exact .cons hhead (ih place)

theorem forall₂_upsert {κ α : Type} [DecidableEq κ] {S : κ → α → α → Prop} {key : κ} {f f' : Option α → α}
    {entries entries' : List (κ × α)}
    (h : List.Forall₂ (fun entry entry' ↦ entry'.1 = entry.1 ∧ S entry.1 entry.2 entry'.2) entries entries')
    (hnone : S key (f none) (f' none)) (hsome : ∀ a a', S key a a' → S key (f (some a)) (f' (some a'))) :
    List.Forall₂ (fun entry entry' ↦ entry'.1 = entry.1 ∧ S entry.1 entry.2 entry'.2) (Entries.upsert key f entries)
      (Entries.upsert key f' entries') := by
  induction h with
  | nil => exact .cons ⟨rfl, hnone⟩ .nil
  | @cons entry entry' rest rest' hhead htail ih =>
    obtain ⟨k, a⟩ := entry
    obtain ⟨k', a'⟩ := entry'
    obtain ⟨rfl, ha⟩ : k' = k ∧ S k a a' := hhead
    rw [Entries.upsert, Entries.upsert]
    split
    · next hk =>
      subst hk
      exact .cons ⟨rfl, hsome a a' ha⟩ htail
    · exact .cons ⟨rfl, ha⟩ ih

variable {pairs : List (Contribution × Contribution)} {state state' : FamilyState} {c c' : Contribution}

namespace FamilyState

theorem Matches.new (pairs : List (Contribution × Contribution)) (name : String) : Matches pairs name {} {} :=
  ⟨rfl, rfl, .nil, fun _ _ _ _ ↦ rfl⟩

theorem Matches.emptyData (h : state.Matches pairs name state') : state'.emptyData = state.emptyData := by
  unfold FamilyState.emptyData
  rw [h.kind]

theorem Matches.size (h : state.Matches pairs name state') : state'.metrics.size = state.metrics.size := by
  rw [← Array.length_toList, ← Array.length_toList, h.metrics.length_eq]

theorem Matches.openSeries (h : state.Matches pairs name state') (hk : KeepsSeries pairs) (hp : (c, c') ∈ pairs)
    (hc : c.part ≠ .scalar) (hname : c.family = name) (hm : c.Matches c') :
    (state.openSeries c.labels).1.Matches pairs name (state'.openSeries c'.labels).1 ∧
      (state'.openSeries c'.labels).2 = (state.openSeries c.labels).2 := by
  have hplace := h.places (c, c') hp hc hname
  dsimp only at hplace
  unfold FamilyState.openSeries
  cases hg : state.groups.get? c.labels with
  | some place =>
    rw [hg] at hplace
    rw [hplace]
    exact ⟨h, rfl⟩
  | none =>
    rw [hg] at hplace
    rw [hplace]
    refine ⟨⟨h.help, h.kind, ?_, fun p hmem hpart hfamily ↦ ?_⟩, h.size⟩
    · have hnew : Metric.Matches ⟨c.labels, none, state.emptyData⟩ ⟨c'.labels, none, state'.emptyData⟩ :=
        ⟨by rw [h.emptyData], hm.valued⟩
      dsimp only
      rw [Array.toList_push, Array.toList_push]
      exact List.rel_append h.metrics (.cons hnew .nil)
    · have hiff : c.labels = p.1.labels ↔ c'.labels = p.2.labels :=
        hk (c, c') hp p hmem hc hpart (hname.trans hfamily.symm)
      dsimp only
      rw [OrderedMap.get?_insert, OrderedMap.get?_insert, h.size, h.places p hmem hpart hfamily]
      exact if_congr hiff.symm rfl rfl

theorem Matches.take (h : state.Matches pairs name state') (hk : KeepsSeries pairs) (hp : (c, c') ∈ pairs)
    (hname : c.family = name) (hm : c.Matches c') : (state.take c).Matches pairs name (state'.take c') := by
  have hpart : c'.part = c.part := by rw [hm.eq]
  have hvalue : c'.value = c.value := by rw [hm.eq]
  have hstamp : c'.timestamp = c.timestamp := by rw [hm.eq]
  by_cases hc : c.part = .scalar
  · rw [take_of_scalar hc, take_of_scalar (hpart.trans hc)]
    unfold addScalar
    refine ⟨h.help, h.kind, ?_, h.places⟩
    have hnew : Metric.Matches ⟨c.labels, c.timestamp, .scalar c.value⟩ ⟨c'.labels, c'.timestamp, .scalar c'.value⟩ :=
      ⟨by rw [hstamp, hvalue], hm.valued⟩
    dsimp only
    rw [Array.toList_push, Array.toList_push]
    exact List.rel_append h.metrics (.cons hnew .nil)
  · have hc' : c'.part ≠ .scalar := fun he ↦ hc (hpart.symm.trans he)
    obtain ⟨hopened, hplace⟩ := h.openSeries hk hp hc hname hm
    rw [take_of_ne_scalar hc, take_of_ne_scalar hc', hpart, hvalue, hstamp]
    unfold updateSeries
    dsimp only
    rw [hplace]
    refine ⟨hopened.help, hopened.kind, ?_, hopened.places⟩
    dsimp only
    rw [Array.toList_modify, Array.toList_modify]
    refine forall₂_modify hopened.metrics (fun m m' hmatch ↦ ?_) _
    exact ⟨by rw [hmatch.eq], hmatch.valued⟩

end FamilyState

namespace Families

variable {families families' next : Families} {line line' : List Char}

theorem Matches.sameKinds (h : families.Matches pairs families') : families.SameKinds families' := by
  intro name
  unfold Matches at h
  rw [OrderedMap.get?, OrderedMap.get?]
  generalize families.entries = entries at h
  generalize families'.entries = entries' at h
  induction h with
  | nil => rfl
  | @cons entry entry' rest rest' hhead _ ih =>
    unfold Entries.get? at ih ⊢
    rw [List.find?_cons, List.find?_cons, hhead.1]
    split
    · exact congrArg some hhead.2.kind.symm
    · exact ih

theorem Matches.change (h : families.Matches pairs families') {name : String} {g g' : FamilyState → FamilyState}
    (hg : ∀ state state', state.Matches pairs name state' → (g state).Matches pairs name (g' state')) :
    (families.change name g).Matches pairs (families'.change name g') :=
  forall₂_upsert h (hg _ _ (.new pairs name)) hg

theorem readLine_describes (hs : isSample line = false) (h : families.readLine line = .ok next) :
    (∀ families : Families, families.readLine line = .ok families) ∨
      (∃ name help, ∀ families : Families, families.readLine line = .ok (families.change name ({ · with help }))) ∨
      ∃ name kind, ∀ families : Families, families.readLine line = .ok (families.change name ({ · with kind })) := by
  unfold isSample at hs
  split at hs
  · next ht => exact .inl fun families ↦ by rw [readLine, ht]
  · next rest ht =>
    have hcomment (families : Families) : families.readLine line = families.readComment ('#' :: rest) :=
      readLine_comment families ht
    rw [hcomment] at h
    unfold readComment at hcomment h
    cases hm : Metadata.read? ('#' :: rest) with
    | none =>
      rw [hm] at h hcomment
      dsimp only at h hcomment
      split at h
      · cases h
      · next hl => exact .inl fun families ↦ (hcomment families).trans (if_neg hl)
    | some metadata =>
      rw [hm] at h hcomment
      cases metadata with
      | help name text => exact .inr (.inl ⟨name, some _, hcomment⟩)
      | kind name text =>
        dsimp only at h hcomment
        cases hk : MetricKind.ofText? text with
        | none => rw [hk] at h; cases h
        | some kind =>
          rw [hk] at hcomment
          exact .inr (.inr ⟨name, kind, hcomment⟩)
  · cases hs

theorem Matches.take (h : families.Matches pairs families') (hk : KeepsSeries pairs) (hp : (c, c') ∈ pairs)
    (hm : c.Matches c') :
    (families.change c.family (·.take c)).Matches pairs (families'.change c'.family (·.take c')) := by
  have hfamily : c'.family = c.family := by rw [hm.eq]
  rw [hfamily]
  exact h.change fun state state' hstate ↦ hstate.take hk hp rfl hm

theorem Matches.describe (h : families.Matches pairs families') (hs : isSample line = false)
    (hr : families.readLine line = .ok next) :
    ∃ next', families'.readLine line = .ok next' ∧ next.Matches pairs next' := by
  rcases readLine_describes hs hr with hsame | ⟨name, help, hchange⟩ | ⟨name, kind, hchange⟩
  · rw [hsame] at hr
    obtain rfl := Except.ok.inj hr
    exact ⟨families', hsame families', h⟩
  · rw [hchange] at hr
    obtain rfl := Except.ok.inj hr
    exact ⟨_, hchange families', h.change fun _ _ hstate ↦ { hstate with help := rfl }⟩
  · rw [hchange] at hr
    obtain rfl := Except.ok.inj hr
    exact ⟨_, hchange families', h.change fun _ _ hstate ↦ { hstate with kind := rfl }⟩

theorem eq_of_agree (ha : families.agree line line' = true) (hs : isSample line = false) : line' = line := by
  unfold agree at ha
  cases hread : SampleLine.read? (Text.trim line) with
  | none =>
    rw [hread] at ha
    exact of_decide_eq_true ha
  | some s =>
    rw [isSample_of_read? hread] at hs
    cases hs

theorem contribution?_of_agree (h : families.SameKinds families') (ha : families.agree line line' = true)
    (hc : families.contribution? line = some c) :
    ∃ c', families'.contribution? line' = some c' ∧ c.Matches c' := by
  obtain ⟨s, role, hread, hresolve, hcontribution⟩ := contribution?_iff.mp hc
  unfold agree at ha
  rw [hread] at ha
  cases hread' : SampleLine.read? (Text.trim line') with
  | none =>
    rw [hread'] at ha
    have heq : line' = line := of_decide_eq_true ha
    rw [heq, hread] at hread'
    cases hread'
  | some s' =>
    rw [hread'] at ha
    dsimp only at ha
    rw [hresolve] at ha
    dsimp only at ha
    rw [Bool.and_eq_true, decide_eq_true_eq, decide_eq_true_eq] at ha
    obtain ⟨c', hcontribution', hm⟩ := SampleLine.contribution?_of_filter_eq ha.2 hcontribution
    have hfamily : c'.family = c.family := by rw [hm.eq]
    refine ⟨c', contribution?_iff.mpr ⟨s', role, hread', ?_, ?_⟩, hm⟩
    · rw [ha.1, hfamily, ← h.resolve]
      exact hresolve
    · rw [ha.1, hfamily, ← h.kindOf]
      exact hcontribution'

theorem Matches.readLines (h : families.Matches pairs families') (hk : KeepsSeries pairs)
    {lines lines' : List (List Char)} {number : Nat} (ha : families.agreeAll lines lines' = true)
    (hr : families.readLines number lines = .ok next)
    (hp : ∀ p ∈ (families.contributions lines).zip (families'.contributions lines'), p ∈ pairs) :
    ∃ next', families'.readLines number lines' = .ok next' ∧ next.Matches pairs next' := by
  -- both runs move on by one line, and the pairs stay those of the whole, for a place is kept for every line to come
  induction lines generalizing families families' lines' number with
  | nil =>
    cases lines' with
    | nil =>
      cases hr
      exact ⟨families', rfl, h⟩
    | cons => cases ha
  | cons line lines ih =>
    cases lines' with
    | nil => cases ha
    | cons line' lines' =>
      rw [Families.readLines] at hr
      rw [agreeAll, Bool.and_eq_true] at ha
      rw [Families.contributions, Families.contributions] at hp
      cases hl : families.readLine line with
      | error e => rw [hl] at hr; cases hr
      | ok middle =>
        rw [hl] at hr ha hp
        dsimp only at hr ha hp
        by_cases hs : isSample line = true
        · obtain ⟨c, hc, rfl⟩ := readLine_of_isSample hs hl
          obtain ⟨c', hc', hm⟩ := contribution?_of_agree h.sameKinds ha.1 hc
          have hl' := readLine_of_contribution? hc'
          rw [hc, hc', hl'] at hp
          have hpair : (c, c') ∈ pairs := hp (c, c') List.mem_cons_self
          rw [Families.readLines, hl']
          exact ih (h.take hk hpair hm) ha.2 hr fun p hmem ↦ hp p (List.mem_cons_of_mem _ hmem)
        · have hs : isSample line = false := Bool.eq_false_iff.mpr hs
          obtain rfl := eq_of_agree ha.1 hs
          obtain ⟨middle', hl', hm⟩ := h.describe hs hl
          rw [contribution?_of_not_isSample hs, contribution?_of_not_isSample hs, hl'] at hp
          rw [Families.readLines, hl']
          exact ih hm ha.2 hr hp

theorem Matches.toList (h : families.Matches pairs families') :
    List.Forall₂ Family.Matches families.toList families'.toList := by
  rw [Families.toList, Families.toList, List.forall₂_map_left_iff, List.forall₂_map_right_iff]
  refine h.imp fun entry entry' hentry ↦ ⟨?_, hentry.2.metrics⟩
  dsimp only
  rw [hentry.1, hentry.2.help, hentry.2.kind]

end Families

/-- Of two expositions that agree, the second can be read if the first can, and their families match. -/
theorem read_of_agree {text text' : String} {families : List Family} (h : read text = .ok families)
    (ha : Families.agreeAll .empty (Text.lines text.toList) (Text.lines text'.toList) = true)
    (hk : KeepsSeries ((Families.contributions .empty (Text.lines text.toList)).zip
      (Families.contributions .empty (Text.lines text'.toList)))) :
    ∃ families', read text' = .ok families' ∧ List.Forall₂ Family.Matches families families' := by
  rw [read] at h
  cases hr : Families.readLines .empty 1 (Text.lines text.toList) with
  | error e => rw [hr] at h; cases h
  | ok last =>
    rw [hr] at h
    obtain rfl : last.toList = families := Except.ok.inj h
    have hempty (pairs : List (Contribution × Contribution)) : Families.Matches pairs .empty .empty := List.Forall₂.nil
    obtain ⟨last', hr', hm⟩ := (hempty _).readLines hk ha hr fun p hp ↦ hp
    refine ⟨last'.toList, ?_, hm.toList⟩
    rw [read, hr']
    rfl

end MetricRelay.Exposition
