import MetricRelay.Config.Layers
import MetricRelay.Proofs.Config.Overlay

namespace MetricRelay

open Config (Table Value)
open Config.Value (Unambiguous unambiguous_empty)

namespace Config.Value

theorem Unambiguous.put {entries : Table} {value : Value} (h : (table entries).Unambiguous) (hv : value.Unambiguous)
    (name : String) : (table (Entries.upsert name (fun _ ↦ value) entries)).Unambiguous :=
  h.upsert name fun _ _ ↦ hv

theorem Unambiguous.cons {entries : Table} {value : Value} {name : String} (h : (table entries).Unambiguous)
    (hv : value.Unambiguous) (hn : (Entries.get? name entries).isSome = false) :
    (table ((name, value) :: entries)).Unambiguous := by
  have hnone : Entries.get? name entries = none := Option.isNone_iff_eq_none.mp (by simpa using hn)
  refine .branch (List.nodup_cons.mpr ⟨Entries.get?_eq_none_iff.mp hnone, h.nodup⟩) fun entry hm ↦ ?_
  rcases List.mem_cons.mp hm with rfl | hm
  · exact hv
  · exact h.of_mem hm

theorem Unambiguous.singleton {value : Value} (hv : value.Unambiguous) (name : String) :
    (table [(name, value)]).Unambiguous := unambiguous_empty.cons hv rfl

mutual

theorem unambiguous_ofJson : ∀ json : Json, (ofJson json).Unambiguous
  | .null | .bool _ | .string _ | .array _ => .leaf rfl
  | .number (.unsigned _) | .number (.negative _) | .number (.float _) => .leaf rfl
  | .object members => unambiguous_ofJsonMembers members unambiguous_empty

theorem unambiguous_ofJsonMembers : ∀ (members : List (String × Json)) {entries : Table},
    (table entries).Unambiguous → (table (ofJsonMembers entries members)).Unambiguous
  | [], _, h => h
  | (name, value) :: rest, _, h => unambiguous_ofJsonMembers rest (h.put (unambiguous_ofJson value) name)

end

theorem unambiguous_nested {value : Value} (hv : value.Unambiguous) (segments : List String) :
    (nested segments value).Unambiguous := by
  induction segments with
  | nil => exact hv
  | cons segment rest ih => exact ih.singleton segment

end Config.Value

namespace Config.Inline

theorem isTable_bare (word : List Char) : (bare word).isTable = false := by
  unfold bare
  repeat' split
  all_goals rfl

def ReadsUnambiguous (fuel : Nat) : Prop :=
  (∀ {s v rest}, value? fuel s = some (v, rest) → v.Unambiguous) ∧
    ∀ {s entries rest}, entries? fuel s = some (entries, rest) → (Value.table entries).Unambiguous

theorem unambiguous_of_value? {fuel : Nat} {s rest : List Char} {v : Value} (ih : ReadsUnambiguous fuel)
    (h : value? (fuel + 1) s = some (v, rest)) : v.Unambiguous := by
  rw [value?] at h
  dsimp only at h
  obtain ⟨⟨read, after⟩, hr, he⟩ := Option.map_eq_some_iff.mp h
  cases he
  split at hr
  · cases hr
    exact .leaf rfl
  · cases hr
    exact .leaf rfl
  · obtain ⟨⟨entries, behind⟩, hentries, he⟩ := Option.map_eq_some_iff.mp hr
    cases he
    exact ih.2 hentries
  · obtain ⟨items, -, he⟩ := Option.map_eq_some_iff.mp hr
    cases he
    exact .leaf rfl
  · obtain ⟨text, -, he⟩ := Option.map_eq_some_iff.mp hr
    cases he
    exact .leaf rfl
  · split at hr <;> cases hr
    exact .leaf rfl
  · cases hr
    exact .leaf (isTable_bare _)

theorem unambiguous_of_entries? {fuel : Nat} {s rest : List Char} {entries : Table} (ih : ReadsUnambiguous fuel)
    (h : entries? (fuel + 1) s = some (entries, rest)) : (Value.table entries).Unambiguous := by
  unfold entries? at h
  split at h
  · cases h
  · cases h
    exact unambiguous_empty
  next steps hsteps _ =>
  obtain rfl : fuel = steps := Nat.succ.inj hsteps
  split at h
  · cases h
  split at h
  · split at h
    · cases h
    next value after hvalue =>
    split at h
    · cases h
      exact (ih.1 hvalue).singleton _
    · obtain ⟨⟨others, behind⟩, hothers, he⟩ := Option.map_eq_some_iff.mp h
      dsimp only at he
      split at he
      · cases he
        exact ih.2 hothers
      · next hnew =>
        cases he
        exact (ih.2 hothers).cons (ih.1 hvalue) (Bool.eq_false_iff.mpr hnew)
    · cases h
  · cases h

theorem readsUnambiguous (fuel : Nat) : ReadsUnambiguous fuel := by
  induction fuel with
  | zero => exact ⟨fun h ↦ absurd h (by simp [value?]), fun h ↦ absurd h (by simp [entries?])⟩
  | succ fuel ih => exact ⟨unambiguous_of_value? ih, unambiguous_of_entries? ih⟩

theorem unambiguous_read (text : String) : (read text).Unambiguous := by
  unfold read
  split
  · next hread => exact (readsUnambiguous _).1 hread
  · exact .leaf rfl

end Config.Inline

namespace Yaml

theorem isTable_integer? {text : List Char} {v : Value} (h : integer? text = some v) : v.isTable = false := by
  have hnatural {text : List Char} (h : integer?.natural? text = some v) : v.isTable = false := by
    obtain ⟨n, -, rfl⟩ := Option.map_eq_some_iff.mp h
    rfl
  unfold integer? at h
  split at h
  · split at h
    · split at h <;> cases h
      rfl
    · cases h
  · exact hnatural h
  · exact hnatural h

theorem isTable_plainValue (text : List Char) : (plainValue text).isTable = false := by
  unfold plainValue
  repeat' split
  all_goals first | rfl | next h => exact isTable_integer? h

theorem unambiguous_quotedNode? {c after : Cursor} {node : Node} (h : quotedNode? c = some (node, after)) :
    node.toValue.Unambiguous := by
  unfold quotedNode? at h
  split at h
  · obtain ⟨read, -, he⟩ := Option.map_eq_some_iff.mp h
    cases he
    exact .leaf rfl
  · obtain ⟨read, -, he⟩ := Option.map_eq_some_iff.mp h
    cases he
    exact .leaf rfl
  · cases h

theorem unambiguous_flowPlain? {c after : Cursor} {node : Node} (h : flowPlain? c = some (node, after)) :
    node.toValue.Unambiguous := by
  unfold flowPlain? at h
  split at h
  · cases h
    exact .leaf (isTable_plainValue _)
  · cases h

def FlowUnambiguous (fuel : Nat) : Prop :=
  (∀ {c node after}, flowNode? fuel c = some (node, after) → node.toValue.Unambiguous) ∧
    (∀ {c v after}, flowValue? fuel c = some (v, after) → v.Unambiguous) ∧
    ∀ {entries c read after}, flowEntries? fuel entries c = some (read, after) →
      (Value.table entries).Unambiguous → (Value.table read).Unambiguous

theorem unambiguous_of_flowNode? {fuel : Nat} {c after : Cursor} {node : Node} (ih : FlowUnambiguous fuel)
    (h : flowNode? (fuel + 1) c = some (node, after)) : node.toValue.Unambiguous := by
  unfold flowNode? at h
  split at h
  · obtain ⟨items, -, he⟩ := Option.map_eq_some_iff.mp h
    cases he
    exact .leaf rfl
  · obtain ⟨⟨entries, behind⟩, hentries, he⟩ := Option.map_eq_some_iff.mp h
    cases he
    exact ih.2.2 hentries unambiguous_empty
  · exact unambiguous_quotedNode? h
  · exact unambiguous_quotedNode? h
  · exact unambiguous_flowPlain? h

theorem unambiguous_of_flowValue? {fuel : Nat} {c after : Cursor} {v : Value} (ih : FlowUnambiguous fuel)
    (h : flowValue? (fuel + 1) c = some (v, after)) : v.Unambiguous := by
  unfold flowValue? at h
  dsimp only at h
  split at h
  · cases h
  split at h
  · cases h
    exact .leaf rfl
  · obtain ⟨⟨node, behind⟩, hnode, he⟩ := Option.map_eq_some_iff.mp h
    cases he
    exact ih.1 hnode

theorem unambiguous_of_flowEntries? {fuel : Nat} {entries read : Table} {c after : Cursor} (ih : FlowUnambiguous fuel)
    (h : flowEntries? (fuel + 1) entries c = some (read, after)) (he : (Value.table entries).Unambiguous) :
    (Value.table read).Unambiguous := by
  unfold flowEntries? at h
  dsimp only at h
  split at h
  · cases h
    exact he
  split at h
  · cases h
  split at h
  · next name value _ _ hvalue =>
    have hv : value.Unambiguous := by
      split at hvalue
      · exact ih.2.1 hvalue
      · cases hvalue
        exact .leaf rfl
    split at h
    · exact ih.2.2 h (he.put hv name)
    · cases h
      exact he.put hv name
    · cases h
  · cases h

theorem flowUnambiguous (fuel : Nat) : FlowUnambiguous fuel := by
  induction fuel with
  | zero =>
    exact ⟨fun h ↦ absurd h (by simp [flowNode?]), fun h ↦ absurd h (by simp [flowValue?]),
      fun h ↦ absurd h (by simp [flowEntries?])⟩
  | succ fuel ih => exact ⟨unambiguous_of_flowNode? ih, unambiguous_of_flowValue? ih, unambiguous_of_flowEntries? ih⟩

theorem unambiguous_lineNode? {c after : Cursor} {node : Node} (h : lineNode? c = some (node, after)) :
    node.toValue.Unambiguous := by
  unfold lineNode? at h
  split at h
  · exact (flowUnambiguous _).1 h
  · exact (flowUnambiguous _).1 h
  · exact unambiguous_quotedNode? h
  · exact unambiguous_quotedNode? h
  · split at h
    · cases h
      exact .leaf (isTable_plainValue _)
    · cases h

theorem unambiguous_finishNode? {least : Nat} {node : Node} {c after : Cursor} {v : Value}
    (hn : node.toValue.Unambiguous) (h : finishNode? least node c = some (v, after)) : v.Unambiguous := by
  unfold finishNode? at h
  split at h
  · obtain ⟨behind, -, he⟩ := Option.map_eq_some_iff.mp h
    cases he
    exact .leaf (isTable_plainValue _)
  · obtain ⟨behind, -, he⟩ := Option.map_eq_some_iff.mp h
    cases he
    exact hn

theorem unambiguous_blockScalar? {folds : Bool} {least : Nat} {c after : Cursor} {v : Value}
    (h : blockScalar? folds least c = some (v, after)) : v.Unambiguous := by
  unfold blockScalar? at h
  dsimp only at h
  split at h
  · cases h
  · cases h
    exact .leaf rfl

def BlockUnambiguous (fuel : Nat) : Prop :=
  (∀ {least c v after}, blockNode? fuel least c = some (v, after) → v.Unambiguous) ∧
    (∀ {column entries c read after}, blockEntries? fuel column entries c = some (read, after) →
      (Value.table entries).Unambiguous → (Value.table read).Unambiguous) ∧
    ∀ {column c v after}, entryValue? fuel column c = some (v, after) → v.Unambiguous

theorem unambiguous_of_blockNode? {fuel least : Nat} {c after : Cursor} {v : Value} (ih : BlockUnambiguous fuel)
    (h : blockNode? (fuel + 1) least c = some (v, after)) : v.Unambiguous := by
  rw [blockNode?] at h
  split at h
  · obtain ⟨items, -, he⟩ := Option.map_eq_some_iff.mp h
    cases he
    exact .leaf rfl
  split at h
  · exact unambiguous_blockScalar? h
  · exact unambiguous_blockScalar? h
  split at h
  · cases h
  next node behind hnode =>
  split at h
  · obtain ⟨⟨entries, end'⟩, hentries, he⟩ := Option.map_eq_some_iff.mp h
    cases he
    exact ih.2.1 hentries unambiguous_empty
  · exact unambiguous_finishNode? (unambiguous_lineNode? hnode) h

theorem unambiguous_of_blockEntries? {fuel column : Nat} {entries read : Table} {c after : Cursor}
    (ih : BlockUnambiguous fuel) (h : blockEntries? (fuel + 1) column entries c = some (read, after))
    (he : (Value.table entries).Unambiguous) : (Value.table read).Unambiguous := by
  rw [blockEntries?] at h
  split at h
  · cases h
  split at h
  · next name _ _ _ =>
    split at h
    · cases h
    next value behind hvalue =>
    have hput := he.put (ih.2.2 hvalue) name
    dsimp only at h
    split at h
    · cases h
      exact hput
    split at h
    · cases h
    · exact ih.2.1 h hput
  · cases h

theorem unambiguous_of_entryValue? {fuel column : Nat} {c after : Cursor} {v : Value} (ih : BlockUnambiguous fuel)
    (h : entryValue? (fuel + 1) column c = some (v, after)) : v.Unambiguous := by
  rw [entryValue?] at h
  dsimp only at h
  split at h
  · split at h
    · cases h
      exact .leaf rfl
    split at h
    · exact ih.1 h
    split at h
    · obtain ⟨items, -, he⟩ := Option.map_eq_some_iff.mp h
      cases he
      exact .leaf rfl
    · cases h
      exact .leaf rfl
  split at h
  · exact unambiguous_blockScalar? h
  · exact unambiguous_blockScalar? h
  split at h
  · cases h
  next node behind hnode => exact unambiguous_finishNode? (unambiguous_lineNode? hnode) h

theorem blockUnambiguous (fuel : Nat) : BlockUnambiguous fuel := by
  induction fuel with
  | zero =>
    exact ⟨fun h ↦ absurd h (by simp [blockNode?]), fun h ↦ absurd h (by simp [blockEntries?]),
      fun h ↦ absurd h (by simp [entryValue?])⟩
  | succ fuel ih =>
    exact ⟨unambiguous_of_blockNode? ih, unambiguous_of_blockEntries? ih, unambiguous_of_entryValue? ih⟩

theorem unambiguous_readTable? {text : String} {entries : Table} (h : readTable? text = some entries) :
    (Value.table entries).Unambiguous := by
  unfold readTable? at h
  dsimp only at h
  split at h
  · cases h
  obtain ⟨documents, -, h⟩ := Option.bind_eq_some_iff.mp h
  split at h
  · cases h
    exact unambiguous_empty
  · split at h
    · cases h
      exact unambiguous_empty
    · obtain ⟨⟨v, behind⟩, hnode, h⟩ := Option.bind_eq_some_iff.mp h
      split at h
      · next heq =>
        cases h
        cases heq
        exact (blockUnambiguous _).1 hnode
      · cases h
  · cases h

end Yaml

namespace Config

def Source.table : Source → Table
  | .file format _ text => (text.bind format.read?).getD []
  | .environment start bindings => environmentTable (variableStart start) bindings

theorem unambiguous_read? {format : Format} {text : String} {entries : Table} (h : format.read? text = some entries) :
    (Value.table entries).Unambiguous := by
  cases format with
  | yaml => exact Yaml.unambiguous_readTable? h
  | json =>
    unfold Format.read? at h
    dsimp only at h
    split at h
    · next read hread =>
      cases h
      obtain ⟨json, -, he⟩ := Option.map_eq_some_iff.mp hread
      rw [← he]
      exact Value.unambiguous_ofJson json
    · cases h

theorem unambiguous_entries {v : Value} (h : v.Unambiguous) : (Value.table v.entries).Unambiguous := by
  cases v with
  | table entries => exact h
  | _ => exact unambiguous_empty

theorem unambiguous_environmentTable (start : List Char) (bindings : List (String × String)) :
    (Value.table (environmentTable start bindings)).Unambiguous := by
  unfold environmentTable
  refine List.foldlRecOn (motive := fun settings ↦ (Value.table settings).Unambiguous) bindings _ unambiguous_empty
    fun settings hs binding _ ↦ ?_
  dsimp only
  split
  · next segments _ =>
    have hnested := unambiguous_entries (Value.unambiguous_nested (Inline.unambiguous_read binding.2) segments)
    exact Unambiguous.overlay hnested hs
  · exact hs

theorem unambiguous_table (s : Source) : (Value.table s.table).Unambiguous := by
  cases s with
  | environment start bindings => exact unambiguous_environmentTable _ bindings
  | file format required text =>
    rw [Source.table]
    cases hread : text.bind format.read? with
    | none => exact unambiguous_empty
    | some entries =>
      obtain ⟨text, -, hentries⟩ := Option.bind_eq_some_iff.mp hread
      exact unambiguous_read? hentries

end Config

end MetricRelay
