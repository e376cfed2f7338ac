import MetricRelay.Proofs.Exposition.Contributions

namespace MetricRelay.Exposition

/-- What a sample contributes if its name means the given part of the given family. -/
def SampleLine.contribution? (family : String) (kind : MetricKind) (role : SampleRole) (s : SampleLine) :
    Option Contribution := do
  let value ← Decimal.float? s.value.toList
  let timestamp ← s.timestamp.mapM fun stamp ↦ Decimal.int64? stamp.toList
  let (part, labels) ← role.part? (sortLabels s.labels)
  return ⟨family, kind, labels, timestamp, part, value⟩

theorem SampleLine.contribution?_eq_some {family : String} {kind : MetricKind} {role : SampleRole} {s : SampleLine}
    {c : Contribution} : s.contribution? family kind role = some c ↔
      Decimal.float? s.value.toList = some c.value ∧
      (s.timestamp.mapM fun stamp ↦ Decimal.int64? stamp.toList) = some c.timestamp ∧
      role.part? (sortLabels s.labels) = some (c.part, c.labels) ∧ c.family = family ∧ c.kind = kind := by
  obtain ⟨f, k, labels, timestamp, part, value⟩ := c
  simp only [contribution?, Option.bind_eq_bind, Option.bind_eq_some_iff, Option.pure_def, Option.some.injEq,
    Contribution.mk.injEq, Prod.exists]
  constructor
  · rintro ⟨_, hvalue, _, hstamp, _, _, hpart, rfl, rfl, rfl, rfl, rfl, rfl⟩
    exact ⟨hvalue, hstamp, hpart, rfl, rfl⟩
  · rintro ⟨hvalue, hstamp, hpart, rfl, rfl⟩
    exact ⟨value, hvalue, timestamp, hstamp, part, labels, hpart, rfl, rfl, rfl, rfl, rfl, rfl⟩

namespace Families

variable {families families' : Families} {line : List Char} {s : SampleLine} {c : Contribution} {name : String}

theorem contribution?_iff : families.contribution? line = some c ↔
    ∃ s role, SampleLine.read? (Text.trim line) = some s ∧ families.resolve s.name = .ok (c.family, role) ∧
      s.contribution? c.family (families.kindOf c.family) role = some c := by
  simp only [SampleLine.contribution?_eq_some, contribution?, Option.bind_eq_bind, Option.bind_eq_some_iff,
    Option.pure_def, Option.some.injEq, Prod.exists]
  constructor
  · rintro ⟨s, hs, value, hvalue, timestamp, hstamp, family, role, hr, part, labels, hpart, rfl⟩
    refine ⟨s, role, hs, ?_, hvalue, hstamp, hpart, trivial, rfl⟩
    cases hf : families.resolve s.name with
    | error e => rw [hf] at hr; cases hr
    | ok found => rw [hf] at hr; exact congrArg Except.ok (Option.some.inj hr)
  · rintro ⟨s, role, hs, hr, hvalue, hstamp, hpart, -, hkind⟩
    refine ⟨s, hs, c.value, hvalue, c.timestamp, hstamp, c.family, role, by rw [hr]; rfl, c.part, c.labels, hpart, ?_⟩
    rw [← hkind]

theorem isSample_of_read? (h : SampleLine.read? (Text.trim line) = some s) : isSample line = true := by
  by_contra hs
  have hnone : SampleLine.read? (Text.trim line) = none := by
    unfold isSample at hs
    split at hs
    · next ht => rw [ht]; rfl
    · next ht => rw [ht]; rfl
    · exact absurd rfl hs
  rw [h] at hnone
  cases hnone

theorem readLine_eq_readSample (h : isSample line = true) :
    families.readLine line = families.readSample (Text.trim line) := by
  unfold readLine
  split
  · next ht => rw [isSample, ht] at h; cases h
  · next ht => rw [isSample, ht] at h; cases h
  · rfl

theorem addSample_of_part? {family : String} {role : SampleRole} {part : Part} {written labels : List Label}
    (hr : families.resolve name = .ok (family, role)) (hp : role.part? (sortLabels written) = some (part, labels))
    (kind : MetricKind) (timestamp : Option Int64) (value : Binary64) :
    families.addSample name written timestamp value =
      .ok (families.change family (·.take ⟨family, kind, labels, timestamp, part, value⟩)) := by
  rw [addSample, hr]
  dsimp only [bind, Except.bind]
  cases role with
  | scalar | sum | count =>
    cases hp
    rfl
  | quantile | bucket =>
    obtain ⟨⟨number, others⟩, ht, he⟩ := Option.map_eq_some_iff.mp hp
    cases he
    dsimp only
    rw [ht]
    rfl

theorem readLine_of_contribution? (h : families.contribution? line = some c) :
    families.readLine line = .ok (families.change c.family (·.take c)) := by
  obtain ⟨s, role, hs, hr, hc⟩ := contribution?_iff.mp h
  obtain ⟨hvalue, hstamp, hpart, -, -⟩ := SampleLine.contribution?_eq_some.mp hc
  have hadd := addSample_of_part? hr hpart c.kind c.timestamp c.value
  rw [readLine_eq_readSample (isSample_of_read? hs), readSample, hs]
  dsimp only
  rw [hvalue]
  dsimp only
  rw [← hadd]
  cases hn : s.timestamp with
  | none =>
    rw [hn] at hstamp
    rw [← Option.some.inj hstamp]
    rfl
  | some stamp =>
    rw [hn] at hstamp
    cases hi : Decimal.int64? stamp.toList with
    | none => simp [hi] at hstamp
    | some n =>
      have hsome : some n = c.timestamp := by simpa [hi] using hstamp
      rw [← hsome]
      dsimp only
      rw [hi]
      rfl

/-- Two states know families of the same names and kinds. -/
def SameKinds (families families' : Families) : Prop :=
  ∀ name, (families.get? name).map FamilyState.kind = (families'.get? name).map FamilyState.kind

theorem SameKinds.parent? (h : SameKinds families families') (name : String) (suffix : String × SampleRole) :
    families.parent? name suffix = families'.parent? name suffix := by
  rw [Families.parent?, Families.parent?]
  cases stripSuffix? suffix.1 name with
  | none => rfl
  | some base =>
    have hbase := h base
    dsimp only
    cases hg : families.get? base with
    | none =>
      rw [hg] at hbase
      rw [Option.map_eq_none_iff.mp hbase.symm]
    | some state =>
      rw [hg] at hbase
      obtain ⟨state', hg', hkind⟩ := Option.map_eq_some_iff.mp hbase.symm
      rw [hg']
      dsimp only
      rw [hkind]

theorem SameKinds.resolve (h : SameKinds families families') (name : String) :
    families.resolve name = families'.resolve name := by
  have hname := h name
  have hparent : families.parent? name = families'.parent? name := funext (h.parent? name)
  rw [Families.resolve, Families.resolve, hparent]
  cases hg : families.get? name with
  | none =>
    rw [hg] at hname
    rw [Option.map_eq_none_iff.mp hname.symm]
  | some state =>
    rw [hg] at hname
    obtain ⟨state', hg', hkind⟩ := Option.map_eq_some_iff.mp hname.symm
    rw [hg']
    dsimp only
    rw [hkind]

theorem SameKinds.kindOf (h : SameKinds families families') (name : String) :
    families.kindOf name = families'.kindOf name := by
  have hname := h name
  rw [Families.kindOf, Families.kindOf, stateOf, stateOf]
  cases hg : families.get? name with
  | none =>
    rw [hg] at hname
    rw [Option.map_eq_none_iff.mp hname.symm]
  | some state =>
    rw [hg] at hname
    obtain ⟨state', hg', hkind⟩ := Option.map_eq_some_iff.mp hname.symm
    rw [hg']
    exact hkind.symm

end Families

theorem exists_of_isOk {text : String} (h : (read text).isOk = true) : ∃ families, read text = .ok families := by
  cases hr : read text with
  | ok families => exact ⟨families, rfl⟩
  | error e => rw [hr] at h; cases h

end MetricRelay.Exposition
