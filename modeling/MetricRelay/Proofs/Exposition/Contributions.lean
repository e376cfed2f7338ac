import MetricRelay.Proofs.Exposition.Written

namespace MetricRelay.Exposition

inductive Part
  | scalar
  | quantile (number : Binary64)
  | bucket (number : Binary64)
  | sum
  | count
deriving DecidableEq, Repr

namespace Part

def isPoint : Part → Bool
  | sum | count => false
  | scalar | quantile _ | bucket _ => true

def change (value : Binary64) : Part → MetricData → MetricData
  | scalar => id
  | quantile number => (·.addQuantile ⟨number, value⟩)
  | bucket number => (·.addBucket ⟨number, value⟩)
  | sum => (·.withSum value)
  | count => (·.withCount value)

/-- The kinds of family in which there is such a part. -/
def Fits (kind : MetricKind) : Part → Prop
  | scalar => True
  | quantile _ => kind = .summary
  | bucket _ => kind = .histogram
  | sum | count => kind.IsGrouped

theorem Fits.isGrouped {kind : MetricKind} {part : Part} (h : part.Fits kind) (hp : part ≠ scalar) : kind.IsGrouped := by
  cases part with
  | scalar => exact absurd rfl hp
  | quantile => exact .inl h
  | bucket => exact .inr h
  | sum | count => exact h

end Part

/-- What a sample adds to a family, the kind of which is that in front of its line. -/
structure Contribution where
  family : String
  kind : MetricKind
  labels : List Label
  timestamp : Option Int64
  part : Part
  value : Binary64
deriving DecidableEq, Repr

def SampleRole.part? (labels : List Label) : SampleRole → Option (Part × List Label)
  | scalar => some (.scalar, labels)
  | quantile => (takeNumber? quantileLabel labels).map fun (number, others) ↦ (.quantile number, others)
  | bucket => (takeNumber? boundLabel labels).map fun (number, others) ↦ (.bucket number, others)
  | sum => some (.sum, labels)
  | count => some (.count, labels)

def FamilyState.take (c : Contribution) (state : FamilyState) : FamilyState :=
  match c.part with
  | .scalar => state.addScalar c.labels c.timestamp c.value
  | part => state.updateSeries c.labels c.timestamp (part.change c.value)

def isSample (line : List Char) : Bool :=
  match Text.trim line with
  | [] => false
  | '#' :: _ => false
  | _ => true

namespace Families

def stateOf (families : Families) (name : String) : FamilyState := (families.get? name).getD {}

def kindOf (families : Families) (name : String) : MetricKind := (families.stateOf name).kind

def contribution? (families : Families) (line : List Char) : Option Contribution := do
  let sample ← SampleLine.read? (Text.trim line)
  let value ← Decimal.float? sample.value.toList
  let timestamp ← sample.timestamp.mapM fun stamp ↦ Decimal.int64? stamp.toList
  let (family, role) ← (families.resolve sample.name).toOption
  let (part, labels) ← role.part? (sortLabels sample.labels)
  return ⟨family, families.kindOf family, labels, timestamp, part, value⟩

/-- What lines contribute, each in front of the families that those before it have left. -/
def contributions (families : Families) : List (List Char) → List Contribution
  | [] => []
  | line :: others =>
    match families.readLine line with
    | .ok next => (families.contribution? line).toList ++ next.contributions others
    | .error _ => []

variable {families next : Families} {name : String} {labels : List Label} {timestamp : Option Int64}
  {value : Binary64} {line : List Char}

theorem addSample_eq_ok (h : families.addSample name labels timestamp value = .ok next) :
    ∃ family role part others, families.resolve name = .ok (family, role) ∧
      role.part? (sortLabels labels) = some (part, others) ∧
      next = families.change family (·.take ⟨family, families.kindOf family, others, timestamp, part, value⟩) := by
  rw [addSample] at h
  cases hr : families.resolve name with
  | error e => rw [hr] at h; cases h
  | ok found =>
    obtain ⟨family, role⟩ := found
    rw [hr] at h
    dsimp only [bind, Except.bind] at h
    cases role with
    | scalar | sum | count =>
      cases h
      exact ⟨family, _, _, sortLabels labels, rfl, rfl, rfl⟩
    | quantile =>
      dsimp only at h
      split at h
      · next number others ht =>
        cases h
        exact ⟨family, .quantile, .quantile number, others, rfl, by rw [SampleRole.part?, ht]; rfl, rfl⟩
      · cases h
    | bucket =>
      dsimp only at h
      split at h
      · next number others ht =>
        cases h
        exact ⟨family, .bucket, .bucket number, others, rfl, by rw [SampleRole.part?, ht]; rfl, rfl⟩
      · cases h

/-- Reading a sample hands what it contributes to its family. -/
theorem readLine_of_isSample (hs : isSample line = true) (h : families.readLine line = .ok next) :
    ∃ c, families.contribution? line = some c ∧ next = families.change c.family (·.take c) := by
  have hread : families.readLine line = families.readSample (Text.trim line) := by
    unfold readLine
    split
    · next ht =>
      rw [isSample, ht] at hs
      cases hs
    · next ht =>
      rw [isSample, ht] at hs
      cases hs
    · rfl
  rw [hread, readSample] at h
  cases hsample : SampleLine.read? (Text.trim line) with
  | none => rw [hsample] at h; cases h
  | some sample =>
    rw [hsample] at h
    dsimp only at h
    cases hvalue : Decimal.float? sample.value.toList with
    | none => rw [hvalue] at h; cases h
    | some value =>
      rw [hvalue] at h
      dsimp only at h
      obtain ⟨timestamp, hstamp, hadd⟩ : ∃ timestamp,
          (sample.timestamp.mapM fun stamp ↦ Decimal.int64? stamp.toList) = some timestamp ∧
            families.addSample sample.name sample.labels timestamp value = .ok next := by
        split at h
        · next hn => exact ⟨none, by rw [hn]; rfl, h⟩
        · next stamp hn =>
          split at h
          · next n hi => exact ⟨some n, by rw [hn]; simp [hi], h⟩
          · cases h
      obtain ⟨family, role, part, others, hresolve, hpart, hnext⟩ := addSample_eq_ok hadd
      refine ⟨⟨family, families.kindOf family, others, timestamp, part, value⟩, ?_, hnext⟩
      simp [contribution?, hsample, hvalue, hstamp, hresolve, hpart, Except.toOption]

theorem contribution?_of_not_isSample (hs : isSample line = false) : families.contribution? line = none := by
  have hread : SampleLine.read? (Text.trim line) = none := by
    unfold isSample at hs
    split at hs
    · next ht => rw [ht]; rfl
    · next ht => rw [ht]; rfl
    · cases hs
  simp [contribution?, hread]

/-- A line without a sample describes a family at most, and leaves its metrics alone. -/
theorem readLine_of_not_isSample (hs : isSample line = false) (h : families.readLine line = .ok next) :
    next = families ∨ ∃ name g, next = families.change name g ∧
      ∀ state, (g state).metrics = state.metrics ∧ (g state).groups = state.groups := by
  have hcomment : ∀ text, families.readComment text = .ok next → next = families ∨ ∃ name g,
      next = families.change name g ∧ ∀ state, (g state).metrics = state.metrics ∧ (g state).groups = state.groups := by
    intro text hr
    rw [readComment] at hr
    split at hr
    · cases hr
      exact .inr ⟨_, _, rfl, fun _ ↦ ⟨rfl, rfl⟩⟩
    · split at hr
      · cases hr
        exact .inr ⟨_, _, rfl, fun _ ↦ ⟨rfl, rfl⟩⟩
      · cases hr
    · split at hr
      · cases hr
      · cases hr
        exact .inl rfl
  unfold isSample at hs
  rw [readLine] at h
  split at hs
  · next ht =>
    rw [ht] at h
    cases h
    exact .inl rfl
  · next ht =>
    rw [ht] at h
    exact hcomment _ h
  · cases hs

/-- What every line keeps, any number of them does. -/
theorem invariant_of_readLines {P : Families → Prop} (hstep : ∀ {families next line}, P families →
    families.readLine line = .ok next → P next) {number : Nat} {lines : List (List Char)} (h : P families)
    (hr : families.readLines number lines = .ok next) : P next := by
  induction lines generalizing families number with
  | nil =>
    cases hr
    exact h
  | cons line rest ih =>
    rw [readLines] at hr
    cases hl : families.readLine line with
    | error cause =>
      rw [hl] at hr
      cases hr
    | ok middle =>
      rw [hl] at hr
      exact ih (hstep h hl) hr

theorem parent?_eq_some {suffix : String × SampleRole} {base : String} {role : SampleRole}
    (h : families.parent? name suffix = some (base, role)) :
    role = suffix.2 ∧ (families.kindOf base).takesChild role = true := by
  rw [parent?] at h
  split at h
  · split at h
    · next hg =>
      split at h
      · next ht =>
        cases h
        rw [kindOf, stateOf, hg]
        exact ⟨rfl, ht⟩
      · cases h
    · cases h
  · cases h

theorem fits_of_resolve {family : String} {role : SampleRole} {part : Part} {others : List Label}
    (hr : families.resolve name = .ok (family, role)) (hp : role.part? labels = some (part, others)) :
    part.Fits (families.kindOf family) := by
  rw [resolve] at hr
  split at hr
  · next state hg =>
    split at hr
    · next hk =>
      cases hr
      obtain ⟨number, -, he⟩ := Option.map_eq_some_iff.mp hp
      cases he
      rw [Part.Fits, kindOf, stateOf, hg]
      exact hk
    · cases hr
    · cases hr
      cases hp
      trivial
  · cases hf : childSuffixes.findSome? (families.parent? name) with
    | none =>
      rw [hf] at hr
      cases hr
      cases hp
      trivial
    | some parent =>
      rw [hf] at hr
      cases hr
      obtain ⟨suffix, hs, hparent⟩ := List.exists_of_findSome?_eq_some hf
      obtain ⟨rfl, ht⟩ := parent?_eq_some hparent
      generalize families.kindOf family = kind at ht
      simp only [childSuffixes, List.mem_cons, List.not_mem_nil, or_false] at hs
      rcases hs with rfl | rfl | rfl
      · obtain ⟨number, -, he⟩ := Option.map_eq_some_iff.mp hp
        cases he
        cases kind <;> first | rfl | cases ht
      · cases hp
        cases kind <;> first | exact .inl rfl | exact .inr rfl | cases ht
      · cases hp
        cases kind <;> first | exact .inl rfl | exact .inr rfl | cases ht

theorem contribution?_eq_some {c : Contribution} (h : families.contribution? line = some c) :
    c.kind = families.kindOf c.family ∧ c.part.Fits c.kind := by
  simp only [contribution?, Option.bind_eq_bind, Option.bind_eq_some_iff] at h
  obtain ⟨sample, -, value, -, timestamp, -, ⟨family, role⟩, hr, ⟨part, others⟩, hp, h⟩ := h
  cases h
  have hresolve : families.resolve sample.name = .ok (family, role) := by
    cases hf : families.resolve sample.name with
    | error e => rw [hf] at hr; cases hr
    | ok found => rw [hf] at hr; exact congrArg Except.ok (Option.some.inj hr)
  exact ⟨rfl, fits_of_resolve hresolve hp⟩

theorem length_contributions {number : Nat} {lines : List (List Char)} {last : Families}
    (h : families.readLines number lines = .ok last) :
    (families.contributions lines).length = lines.countP isSample := by
  induction lines generalizing families number with
  | nil => rfl
  | cons line others ih =>
    rw [readLines] at h
    rw [contributions]
    cases hl : families.readLine line with
    | error e => rw [hl] at h; cases h
    | ok next =>
      rw [hl] at h
      dsimp only at h ⊢
      rw [List.length_append, ih h]
      by_cases hs : isSample line = true
      · obtain ⟨c, hc, -⟩ := readLine_of_isSample hs hl
        rw [hc, List.countP_cons_of_pos hs, Nat.add_comm]
        rfl
      · rw [contribution?_of_not_isSample (Bool.eq_false_iff.mpr hs), List.countP_cons_of_neg hs]
        exact Nat.zero_add _

theorem map_name_toList (families : Families) : families.toList.map Family.name = families.keys := by
  simp [toList, OrderedMap.keys]

end Families

variable {text : String}

theorem read_eq_ok_iff {families : List Family} :
    read text = .ok families ↔
      ∃ last, Families.readLines .empty 1 (Text.lines text.toList) = .ok last ∧ last.toList = families := by
  rw [read]
  cases Families.readLines .empty 1 (Text.lines text.toList) with
  | error e => exact iff_of_false (fun h ↦ by cases h) (fun ⟨_, h, _⟩ ↦ by cases h)
  | ok last => simp [Except.map]

theorem read_eq_error_iff {e : ReadError} :
    read text = .error e ↔ Families.readLines .empty 1 (Text.lines text.toList) = .error e := by
  rw [read]
  cases Families.readLines .empty 1 (Text.lines text.toList) <;> simp [Except.map]

end MetricRelay.Exposition
