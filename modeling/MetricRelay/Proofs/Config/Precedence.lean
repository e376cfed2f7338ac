import MetricRelay.Proofs.Config.Unambiguous
import MetricRelay.Proofs.Text.Cutting

namespace MetricRelay.Config

open Value (Cuts find? overlayEntries stack findIn)

variable {α : Type} {sources : List Source} {c : Configuration} {key : String} {read : Reader α} {v : Value} {a : α}

def Source.nested? (s : Source) (key : String) : Option Value := find? (segments key) (.table s.table)

def Source.flat? (s : Source) (key : String) : Option Value := Entries.get? (Configuration.flatKey key) s.table

/-- No source puts something else in the place of a table that holds the setting of a key. -/
def KeepsTables (sources : List Source) (key : String) : Prop :=
  sources.Pairwise fun earlier later ↦ ¬Cuts (segments key) (.table earlier.table) (.table later.table)

instance (sources : List Source) (key : String) : Decidable (KeepsTables sources key) := by
  unfold KeepsTables
  infer_instance

/-- Adding the source is no error: a file that is required can be read, and variables have a beginning. -/
def Source.Loads : Source → Prop
  | .file format required text => required = true → (text.bind format.read?).isSome = true
  | .environment start _ => start ≠ ""

def Source.start? : Source → Option String
  | .file _ _ _ => none
  | .environment start _ => some (String.ofList (variableStart start))

namespace Configuration

def withSource (c : Configuration) (s : Source) : Configuration where
  root := overlayEntries .append c.root s.table
  starts := s.start?.elim c.starts fun start ↦ c.starts.insert start

theorem add_eq_ok_iff {s : Source} {next : Configuration} : c.add s = .ok next ↔ s.Loads ∧ c.withSource s = next := by
  cases s with
  | environment start bindings =>
    by_cases hstart : start = ""
    · simp [add, Source.Loads, hstart]
    · simp only [add, if_neg hstart, Except.ok.injEq]
      exact (and_iff_right hstart).symm
  | file format required text =>
    cases hread : text.bind format.read? with
    | some table => simp [add, Source.Loads, withSource, Source.table, Source.start?, overlay, hread]
    | none =>
      cases required with
      | true => simp [add, Source.Loads, hread]
      | false => simp [add, Source.Loads, withSource, Source.table, Source.start?, overlayEntries, hread]

theorem foldlM_add_eq_ok_iff {start : Configuration} :
    sources.foldlM add start = .ok c ↔ (∀ s ∈ sources, s.Loads) ∧ sources.foldl withSource start = c := by
  induction sources generalizing start with
  | nil => simp [pure, Except.pure]
  | cons s rest ih =>
    rw [List.foldlM_cons, List.forall_mem_cons, List.foldl_cons]
    cases hs : start.add s with
    | error e =>
      have hfails : ¬s.Loads := fun hl ↦ by simp [add_eq_ok_iff.mpr ⟨hl, rfl⟩] at hs
      simp [hfails, bind, Except.bind]
    | ok next =>
      obtain ⟨hl, rfl⟩ := add_eq_ok_iff.mp hs
      simpa [hl, bind, Except.bind] using ih

theorem ofSources_eq_ok_iff :
    ofSources sources = .ok c ↔ (∀ s ∈ sources, s.Loads) ∧ sources.foldl withSource {} = c := foldlM_add_eq_ok_iff

theorem root_foldl (start : Configuration) :
    (sources.foldl withSource start).root = (sources.map Source.table).foldl (overlayEntries .append) start.root := by
  induction sources generalizing start with
  | nil => rfl
  | cons s rest ih => exact ih (start.withSource s)

theorem root_of_sources (h : ofSources sources = .ok c) : c.root = stack .append (sources.map Source.table) := by
  obtain ⟨-, rfl⟩ := ofSources_eq_ok_iff.mp h
  exact root_foldl {}

theorem unambiguous_layers (sources : List Source) :
    ∀ layer ∈ sources.map Source.table, (Value.table layer).Unambiguous := by
  intro layer hm
  obtain ⟨s, -, rfl⟩ := List.mem_map.mp hm
  exact unambiguous_table s

section

variable {path : List String} (h : ofSources sources = .ok c) (hpath : ∀ segment ∈ path, segment ≠ "") (hne : path ≠ [])
  (hcut : sources.Pairwise fun earlier later ↦ ¬Cuts path (.table earlier.table) (.table later.table))

include h hpath hne hcut

theorem find?_root : find? path (.table c.root) = findIn .append path (sources.map Source.table) := by
  rw [root_of_sources h]
  exact Value.find?_stack (unambiguous_layers sources) hpath hne (List.pairwise_map.mpr hcut)

theorem find?_root_of_last (hv : v.isScalar = true) {front back : List Source} {s : Source}
    (hs : sources = front ++ s :: back) (hfound : find? path (.table s.table) = some v)
    (hback : ∀ t ∈ back, find? path (.table t.table) = none) :
    find? path (.table c.root) = some v := by
  rw [find?_root h hpath hne hcut, hs, List.map_append, List.map_cons]
  refine Value.findIn_of_last hfound hv (fun layer hm ↦ ?_) _
  obtain ⟨t, ht, rfl⟩ := List.mem_map.mp hm
  exact hback t ht

theorem find?_root_of_none (hnone : ∀ s ∈ sources, find? path (.table s.table) = none) :
    find? path (.table c.root) = none := by
  rw [find?_root h hpath hne hcut]
  refine Value.findIn_eq_none_iff.mpr fun layer hm ↦ ?_
  obtain ⟨s, hs, rfl⟩ := List.mem_map.mp hm
  exact hnone s hs

end

theorem segments_ne_nil (key : String) : segments key ≠ [] := by
  rw [segments, ne_eq, List.map_eq_nil_iff]
  exact Text.split_ne_nil '.' _

theorem segments_flatKey (key : String) : segments (flatKey key) = [flatKey key] := by
  have hdot : '.' ∉ key.toList.map fun c ↦ if c = '.' then '_' else c := by
    intro hm
    obtain ⟨c, -, hc⟩ := List.mem_map.mp hm
    split at hc
    · exact absurd hc (by decide)
    · next hn => exact hn hc
  rw [segments, flatKey, String.toList_ofList, Text.split_of_not_mem hdot]
  rfl

theorem flatKey_ne_empty (h : ∀ segment ∈ segments key, segment ≠ "") : flatKey key ≠ "" := by
  intro hflat
  have hlist : key.toList.map (fun c ↦ if c = '.' then '_' else c) = [] := String.ofList_eq_empty_iff.mp hflat
  have hempty : segments key = [""] := by
    rw [segments, List.map_eq_nil_iff.mp hlist]
    rfl
  exact h "" (by rw [hempty]; exact List.mem_singleton.mpr rfl) rfl

theorem find?_singleton {name : String} (hn : name ≠ "") (entries : Table) :
    find? [name] (.table entries) = Entries.get? name entries := by
  rw [Value.find?_cons hn]
  cases Entries.get? name entries <;> rfl

theorem not_cuts_singleton (name : String) (earlier later : Table) : ¬Cuts [name] (.table earlier) (.table later) := by
  rintro ⟨n, hn, -, hbehind⟩
  obtain rfl : n = 0 := Nat.lt_one_iff.mp hn
  cases hbehind

theorem readAt_of_find? (hv : find? (segments key) (.table c.root) = some v) (ha : read v = .ok a) :
    c.readAt read key = .ok a := by
  rw [readAt, hv]
  dsimp only
  rw [ha]
  rfl

theorem get_of_nested (hv : find? (segments key) (.table c.root) = some v) (ha : read v = .ok a) :
    c.get read key = .ok a := by
  rw [get, readAt_of_find? hv ha]
  rfl

theorem get_of_not_nested (hn : find? (segments key) (.table c.root) = none) :
    c.get read key = (c.readAt read (flatKey key)).mapError c.explain := by
  have hmissing : c.readAt read key = .error (.missing key) := by rw [readAt, hn]
  rw [get, hmissing]

theorem get_of_flat (hn : find? (segments key) (.table c.root) = none)
    (hv : find? (segments (flatKey key)) (.table c.root) = some v) (ha : read v = .ok a) :
    c.get read key = .ok a := by
  rw [get_of_not_nested hn, readAt_of_find? hv ha]
  rfl

/-- Whatever the other sources are: among the sources that nest a setting in tables the last one decides, and among
those that have it under its flat form the last one does if no source nests it. -/
theorem get_of_last (h : ofSources sources = .ok c) (hkey : ∀ segment ∈ segments key, segment ≠ "")
    (hkeeps : KeepsTables sources key) (hv : v.isScalar = true) (ha : read v = .ok a) {front back : List Source}
    {s : Source} (hs : sources = front ++ s :: back) :
    (s.nested? key = some v → (∀ t ∈ back, t.nested? key = none) → c.get read key = .ok a) ∧
    (s.flat? key = some v → (∀ t ∈ back, t.flat? key = none) → (∀ t ∈ sources, t.nested? key = none) →
      c.get read key = .ok a) := by
  have hnil := segments_ne_nil key
  constructor
  · intro hnested hback
    exact get_of_nested (find?_root_of_last h hkey hnil hkeeps hv hs hnested hback) ha
  · intro hflat hback hnone
    have hname := flatKey_ne_empty hkey
    refine get_of_flat (find?_root_of_none h hkey hnil hkeeps hnone) ?_ ha
    rw [segments_flatKey]
    refine find?_root_of_last h (fun segment hm ↦ ?_) (List.cons_ne_nil _ _) ?_ hv hs ?_ fun t ht ↦ ?_
    · rw [List.mem_singleton.mp hm]
      exact hname
    · exact List.pairwise_of_forall fun _ _ ↦ not_cuts_singleton _ _ _
    · exact (find?_singleton hname _).trans hflat
    · exact (find?_singleton hname _).trans (hback t ht)

/-- The second of two files decides. The variable behind it is another setting of the same table. -/
theorem get_of_last_nested :
    let sources : List Source := [
      .file .yaml true (some "a:\n  b: 1\n  c: 4\n"), .file .json true (some "\x7b\"a\":\x7b\"b\":2\x7d\x7d"),
      .environment "P" [("P_A.C", "3")]]
    ∃ c, ofSources sources = .ok c ∧ c.get (Reader.unsigned "u64") "a.b" = .ok 2 := by
  intro sources
  have hok : (ofSources sources).toOption.isSome = true := by decide +kernel
  obtain ⟨c, hc⟩ : ∃ c, ofSources sources = .ok c := by
    cases hc : ofSources sources with
    | error e => rw [hc] at hok; cases hok
    | ok c => exact ⟨c, rfl⟩
  have hsegments : ∀ segment ∈ segments "a.b", segment ≠ "" := by decide +kernel
  have hkeeps : KeepsTables sources "a.b" := by decide +kernel
  have hfound : (sources[1].nested? "a.b").map (fun v ↦ (v.isScalar, Reader.unsigned "u64" v)) =
      some (true, .ok 2) := by decide +kernel
  obtain ⟨v, hfile, hv⟩ := Option.map_eq_some_iff.mp hfound
  obtain ⟨hscalar, hread⟩ := Prod.ext_iff.mp hv
  have hlast : ∀ t ∈ [sources[2]], (t.nested? "a.b").isNone = true := by decide +kernel
  have hsources : sources = [sources[0]] ++ sources[1] :: [sources[2]] := rfl
  exact ⟨c, hc, (get_of_last hc hsegments hkeeps hscalar hread hsources).1 hfile
    fun t ht ↦ Option.isNone_iff_eq_none.mp (hlast t ht)⟩

theorem get_passes_over_variable :
    let file : Source := .file .yaml true (some "a:\n  b: 1\n")
    let environment : Source := .environment "P" [("P_A_B", "2")]
    KeepsTables [file, environment] "a.b" ∧
      (file.nested? "a.b").map (Reader.unsigned "u64") = some (.ok 1) ∧ (file.flat? "a.b").isNone = true ∧
      (environment.nested? "a.b").isNone = true ∧
      (environment.flat? "a.b").map (Reader.unsigned "u64") = some (.ok 2) ∧
      (ofSources [file, environment]).bind (·.get (Reader.unsigned "u64") "a.b") = .ok 1 := by
  decide +kernel

end Configuration
end MetricRelay.Config
