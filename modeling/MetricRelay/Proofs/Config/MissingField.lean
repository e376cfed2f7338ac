import MetricRelay.Proofs.Config.Precedence
import MetricRelay.Proofs.Insertions
import MetricRelay.Proofs.Text.Scanning

namespace MetricRelay.Config

open MetricRelay.Config.Configuration (flatKey)
open Value (find? stack)

def isKeyChar (c : Char) : Bool := c.isLower || c.isDigit || c = '_'

structure IsPlainKey (key : String) : Prop where
  segments : ∀ segment ∈ segments key, segment ≠ ""
  chars : ∀ c ∈ key.toList, isKeyChar c = true ∨ c = '.'

structure IsPlainStart (start : String) : Prop where
  ne_empty : start ≠ ""
  chars : ∀ c ∈ start.toList, c.isAlphanum = true ∨ c = '_'

/-- The variable of a key in an environment source: its beginning, which an underscore ends, and the segments with
underscores between them, all in upper case. -/
def variableOf (start key : String) : String :=
  let begins := if start.toList.getLast? = some '_' then start else start ++ "_"
  (begins ++ "_".intercalate (segments key)).map Char.toUpper

variable {α : Type} {start key text : String} {bindings : List (String × String)} {sources : List Source}
  {c next : Configuration} {read : Reader α} {v : Value}

theorem flatKey_eq (key : String) : flatKey key = "_".intercalate (segments key) := by
  rw [← String.toList_inj, String.toList_intercalate, segments, List.map_map, flatKey,
    String.toList_ofList]
  have hpieces : List.map (String.toList ∘ String.ofList) (Text.split '.' key.toList) = Text.split '.' key.toList := by
    simp [Function.comp_def]
  rw [hpieces]
  exact (Text.intercalate_split '.' '_' key.toList).symm

theorem flatKey_flatKey (key : String) : flatKey (flatKey key) = flatKey key := by
  rw [flatKey, flatKey, String.toList_ofList, List.map_map]
  congr 2
  funext c
  by_cases hc : c = '.' <;> simp [hc]

theorem isKeyChar_of_mem_flatKey (hk : IsPlainKey key) : ∀ c ∈ (flatKey key).toList, isKeyChar c = true := by
  intro c hc
  rw [flatKey, String.toList_ofList] at hc
  obtain ⟨d, hd, rfl⟩ := List.mem_map.mp hc
  rcases hk.chars d hd with h | rfl
  · split
    · rfl
    · exact h
  · rfl

theorem toNat_lt_of_isAlphanum {c : Char} (h : c.isAlphanum = true ∨ c = '_') : c.toNat < 128 := by
  rcases h with h | rfl
  · have hvisible := Text.isVisible_of_isAlphanum h
    simp only [Text.isVisible, Bool.and_eq_true, decide_eq_true_eq] at hvisible
    omega
  · decide

theorem toUpper_spec {c : Char} (h : isKeyChar c = true) :
    c.toNat < 128 ∧ c.toUpper.toLower = c ∧ c.toUpper ≠ '.' ∧ Text.isBlank c.toUpper = false := by
  have hall : ∀ n < 128, isKeyChar (Char.ofNat n) = true → (Char.ofNat n).toUpper.toLower = Char.ofNat n ∧
      (Char.ofNat n).toUpper ≠ '.' ∧ Text.isBlank (Char.ofNat n).toUpper = false := by decide
  have halphanum : (c.isUpper || c.isLower || c.isDigit) = true ∨ c = '_' := by
    simp only [isKeyChar, Bool.or_eq_true, decide_eq_true_eq] at h ⊢
    tauto
  have hascii : c.toNat < 128 := toNat_lt_of_isAlphanum halphanum
  have hc := hall c.toNat hascii
  rw [Char.ofNat_toNat] at hc
  exact ⟨hascii, hc h⟩

theorem map_toLower_toUpper {s : List Char} (h : ∀ c ∈ s, isKeyChar c = true) :
    (s.map Char.toUpper).map Char.toLower = s := by
  rw [List.map_map]
  exact (List.map_congr_left fun c hc ↦ (toUpper_spec (h c hc)).2.1).trans (List.map_id s)

theorem variableStart_of_plain (hs : IsPlainStart start) :
    variableStart start =
      ((if start.toList.getLast? = some '_' then start else start ++ "_").toList).map Char.toUpper := by
  have hascii : ∀ c ∈ start.toList, c.toNat < 128 := fun c hc ↦ toNat_lt_of_isAlphanum (hs.chars c hc)
  simp only [variableStart, Unicode.upper_of_ascii hascii]
  split
  · rfl
  · rw [String.toList_append, List.map_append]
    rfl

theorem toList_variableOf (hs : IsPlainStart start) (key : String) :
    (variableOf start key).toList =
      variableStart start ++ (flatKey key).toList.map Char.toUpper := by
  rw [variableStart_of_plain hs, flatKey_eq, ← List.map_append, ← String.toList_append, variableOf, String.toList_map]

theorem variableName_eq (hs : IsPlainStart start) (hk : IsPlainKey key) :
    Configuration.variableName (String.ofList (variableStart start)) (flatKey key) = variableOf start key := by
  have hascii : ∀ c ∈ (flatKey key).toList, c.toNat < 128 := fun c hc ↦
    (toUpper_spec (isKeyChar_of_mem_flatKey hk c hc)).1
  have hflat : (flatKey key).toList.map (fun c ↦ if c = '.' then '_' else c) =
      (flatKey key).toList := by
    rw [← String.toList_ofList (l := List.map _ _)]
    exact congrArg String.toList (flatKey_flatKey key)
  rw [Configuration.variableName, hflat, Unicode.upper_of_ascii hascii, ← String.toList_inj, toList_variableOf hs,
    String.toList_append, String.toList_ofList, String.toList_ofList]

theorem variableSegments?_variableOf (hs : IsPlainStart start) (hk : IsPlainKey key) :
    variableSegments? (variableStart start) (variableOf start key).toList = some [flatKey key] := by
  have hchars := isKeyChar_of_mem_flatKey hk
  have hupper : ∀ c ∈ (flatKey key).toList.map Char.toUpper, c ≠ '.' ∧ Text.isBlank c = false := by
    intro c hc
    obtain ⟨d, hd, rfl⟩ := List.mem_map.mp hc
    exact (toUpper_spec (hchars d hd)).2.2
  rw [toList_variableOf hs, variableSegments?, if_pos ⟨by simp, by simp⟩, List.drop_left,
    Text.trim_of_isTrimmed (Text.isTrimmed_of_forall fun c hc ↦ (hupper c hc).2),
    Text.split_of_not_mem fun hdot ↦ (hupper '.' hdot).1 rfl]
  have hpiece : String.ofList (((flatKey key).toList.map Char.toUpper).map Char.toLower) =
      flatKey key := by
    rw [map_toLower_toUpper hchars, String.ofList_toList]
  have hne := Configuration.flatKey_ne_empty hk.segments
  rw [List.map_singleton, hpiece]
  simp [Ne.symm hne]

/-- The source, read again where a variable is set. Every source sees the variable, and files do not change. -/
def Source.setVariable (name text : String) : Source → Source
  | .file format required contents => .file format required contents
  | .environment start bindings => .environment start (Entries.upsert name (fun _ ↦ text) bindings)

def bindingTable? (start : List Char) (binding : String × String) : Option Table :=
  (variableSegments? start binding.1.toList).map fun segments ↦
    (Value.nested segments (Inline.read binding.2)).entries

theorem unambiguous_bindingTable? {start : List Char} {binding : String × String} {table : Table}
    (h : bindingTable? start binding = some table) : (Value.table table).Unambiguous := by
  obtain ⟨segments, -, rfl⟩ := Option.map_eq_some_iff.mp h
  exact unambiguous_entries (Value.unambiguous_nested (Inline.unambiguous_read binding.2) segments)

theorem environmentTable_eq (start : List Char) (bindings : List (String × String)) :
    environmentTable start bindings = stack .replace (bindings.filterMap (bindingTable? start)) := by
  rw [environmentTable, stack, List.foldl_filterMap]
  congr 1
  funext table binding
  obtain ⟨name, text⟩ := binding
  dsimp only [bindingTable?]
  cases variableSegments? start name.toList <;> rfl

/-- Nothing hides what a layer has under a single name. -/
theorem find?_stack_eq_none_iff {rule : ListRule} {layers : List Table} {name : String} (hn : name ≠ "")
    (hu : ∀ layer ∈ layers, (Value.table layer).Unambiguous) :
    find? [name] (.table (stack rule layers)) = none ↔ ∀ layer ∈ layers, find? [name] (.table layer) = none := by
  rw [Value.find?_stack hu (List.forall_mem_singleton.mpr hn) (List.cons_ne_nil _ _)
    (List.pairwise_of_forall fun _ _ ↦ Configuration.not_cuts_singleton name _ _), Value.findIn_eq_none_iff]

theorem find?_environmentTable (hs : IsPlainStart start) (hk : IsPlainKey key)
    (hm : (variableOf start key, text) ∈ bindings) :
    find? [flatKey key] (.table (environmentTable (variableStart start) bindings)) ≠ none := by
  have hne := Configuration.flatKey_ne_empty hk.segments
  have htable : bindingTable? (variableStart start) (variableOf start key, text) =
      some [(flatKey key, Inline.read text)] := by
    rw [bindingTable?, variableSegments?_variableOf hs hk]
    rfl
  have hu : ∀ layer ∈ bindings.filterMap (bindingTable? (variableStart start)),
      (Value.table layer).Unambiguous := by
    intro layer hlayer
    obtain ⟨binding, -, hbinding⟩ := List.mem_filterMap.mp hlayer
    exact unambiguous_bindingTable? hbinding
  rw [environmentTable_eq, ne_eq, find?_stack_eq_none_iff hne hu]
  intro hnone
  have hlayer := hnone _ (List.mem_filterMap.mpr ⟨_, hm, htable⟩)
  rw [Configuration.find?_singleton hne] at hlayer
  simp [Entries.get?] at hlayer

namespace Configuration

theorem exists_ofSources_setVariable (h : ofSources sources = .ok c) (name text : String) :
    ∃ next, ofSources (sources.map (·.setVariable name text)) = .ok next := by
  refine ⟨_, ofSources_eq_ok_iff.mpr ⟨fun s hm ↦ ?_, rfl⟩⟩
  obtain ⟨s, hs, rfl⟩ := List.mem_map.mp hm
  have hloads := (ofSources_eq_ok_iff.mp h).1 s hs
  cases s with
  | file format required contents => exact hloads
  | environment start bindings => exact hloads

/-- With the variable set, the setting is there under its flat form, whatever else the sources have. -/
theorem find?_flatKey_of_setVariable (hs : IsPlainStart start) (hk : IsPlainKey key)
    (hm : .environment start bindings ∈ sources)
    (hnext : ofSources (sources.map (·.setVariable (variableOf start key) text)) = .ok next) :
    find? (segments (flatKey key)) (.table next.root) ≠ none := by
  have hne := flatKey_ne_empty hk.segments
  rw [segments_flatKey, root_of_sources hnext, ne_eq, find?_stack_eq_none_iff hne (unambiguous_layers _)]
  intro hnone
  have hset : (variableOf start key, text) ∈ Entries.upsert (variableOf start key) (fun _ ↦ text) bindings :=
    (Entries.exists_mem_upsert _ _ bindings).elim fun _ hmem ↦ hmem
  refine find?_environmentTable hs hk hset (hnone _ ?_)
  exact List.mem_map.mpr ⟨_, List.mem_map_of_mem hm, rfl⟩

theorem mem_starts {s : Source} {begins : String} (h : ofSources sources = .ok c) (hm : s ∈ sources)
    (hs : s.start? = some begins) : begins ∈ c.starts := by
  obtain ⟨-, rfl⟩ := ofSources_eq_ok_iff.mp h
  have hkeeps (first : Configuration) (t : Source) (hf : begins ∈ first.starts) :
      begins ∈ (first.withSource t).starts := by
    rw [withSource]
    cases t.start? with
    | none => exact hf
    | some other => exact List.mem_insert_of_mem hf
  have hadds (first : Configuration) : begins ∈ (first.withSource s).starts := by
    rw [withSource, hs]
    exact List.mem_insert_self
  obtain ⟨front, back, rfl⟩ := List.append_of_mem hm
  rw [List.foldl_append, List.foldl_cons]
  exact List.foldlRecOn (motive := fun reached : Configuration ↦ begins ∈ reached.starts) back withSource
    (hadds _) fun reached hr t _ ↦ hkeeps reached t hr

end Configuration

/-- The text of the error has the name in it, between backticks. -/
def ConfigError.Quotes (e : ConfigError) (name : String) : Prop :=
  ∃ before behind, e.message = before ++ ("`" ++ name ++ "`") ++ behind

theorem exists_eq_intercalate {name : String} {names : List String} (h : name ∈ names) :
    ∃ before behind, "`" ++ "` or `".intercalate names ++ "`" = before ++ ("`" ++ name ++ "`") ++ behind := by
  -- the text between two names ends the first of them and begins the second
  have hends (s : String) : "` or `" ++ s = "`" ++ (" or `" ++ s) := @String.append_assoc "`" " or `" s
  have hbegins (s : String) : "` or `" ++ s = "` or " ++ ("`" ++ s) := @String.append_assoc "` or " "`" s
  induction names with
  | nil => cases h
  | cons first rest ih =>
    cases rest with
    | nil =>
      obtain rfl := List.mem_singleton.mp h
      exact ⟨"", "", by simp⟩
    | cons second rest =>
      rw [String.intercalate_cons_cons]
      rcases List.mem_cons.mp h with rfl | h
      · refine ⟨"", " or `" ++ ("` or `".intercalate (second :: rest) ++ "`"), ?_⟩
        simp only [String.append_assoc, String.empty_append, hends]
      · obtain ⟨before, behind, he⟩ := ih h
        refine ⟨"`" ++ (first ++ ("` or " ++ before)), behind, ?_⟩
        simp only [String.append_assoc] at he
        simp only [String.append_assoc, hbegins, he]

theorem message_missingField (field : String) (names : List String) :
    (ConfigError.missingField field names).message =
      "Missing field '" ++ field ++ "' in configuration. Try setting " ++
        ("`" ++ "` or `".intercalate (field :: names) ++ "`") ++ "." := by
  have hbegins : "' in configuration. Try setting `" = "' in configuration. Try setting " ++ "`" := by simp
  have hends : "`." = "`" ++ "." := by simp
  unfold ConfigError.message
  simp only [toString]
  rw [hbegins, hends]
  simp only [String.append_assoc]

theorem quotes_missingField {field name : String} {names : List String} (h : name ∈ field :: names) :
    (ConfigError.missingField field names).Quotes name := by
  obtain ⟨before, behind, he⟩ := exists_eq_intercalate h
  refine ⟨"Missing field '" ++ field ++ "' in configuration. Try setting " ++ before, behind ++ ".", ?_⟩
  rw [message_missingField, he]
  simp only [String.append_assoc]

namespace Configuration

theorem explain_eq_missingField_iff {m : Mismatch} {field : String} {names : List String} :
    c.explain m = .missingField field names ↔
      m = .missing field ∧ names = c.starts.map (variableName · field) := by
  cases m with
  | missing name =>
    simp only [explain, ConfigError.missingField.injEq, Mismatch.missing.injEq]
    constructor
    · rintro ⟨rfl, rfl⟩
      exact ⟨rfl, rfl⟩
    · rintro ⟨rfl, rfl⟩
      exact ⟨rfl, rfl⟩
  | wrongType path expected actual => simp [explain]
  | refused path reason => simp [explain]

theorem mapError_explain_eq_missingField_iff {x : Except Mismatch α} {field : String} {names : List String} :
    x.mapError c.explain = .error (.missingField field names) ↔
      x = .error (.missing field) ∧ names = c.starts.map (variableName · field) := by
  cases x with
  | ok a => simp [Except.mapError]
  | error m => simp [Except.mapError, explain_eq_missingField_iff]

end Configuration

theorem mapPath_eq_missing_iff {m : Mismatch} {f : List String → List String} {field : String} :
    m.mapPath f = .missing field ↔ m = .missing field := by
  cases m <;> simp [Mismatch.mapPath]

/-- A reader that looks for no field inside a value, such as one for a scalar. -/
def Reader.SeeksNoField (read : Reader α) : Prop := ∀ v field, read v ≠ .error (.missing field)

namespace Reader

theorem seeksNoField_text : Reader.text.SeeksNoField := by
  intro v field
  unfold Reader.text
  split <;> simp [wrongType]

theorem seeksNoField_bool : bool.SeeksNoField := by
  intro v field
  unfold bool
  split <;> simp [wrongType]

theorem seeksNoField_unsigned (typeName : String) : (unsigned typeName).SeeksNoField := by
  intro v field
  unfold unsigned
  split
  · split <;> simp [wrongType]
  · split_ifs <;> simp [wrongType, outOfRange]
  · simp [wrongType]

theorem seeksNoField_int64 : int64.SeeksNoField := by
  intro v field
  unfold int64
  split
  · split_ifs <;> simp [wrongType, outOfRange]
  · split <;> simp [wrongType]
  · simp [wrongType]

theorem seeksNoField_float : float.SeeksNoField := by
  intro v field
  unfold float
  split
  · simp
  · split <;> simp [wrongType]
  · split <;> simp [wrongType]
  · simp [wrongType]

end Reader

namespace Configuration

theorem get?_eq_none_iff :
    c.get? read key = .ok none ↔ ∃ field names, c.get read key = .error (.missingField field names) := by
  rw [get?]
  cases hget : c.get read key with
  | ok a => simp
  | error e => cases e <;> simp

section

variable (hread : read.SeeksNoField)

include hread

theorem readAt_eq_missing_iff {field : String} :
    c.readAt read key = .error (.missing field) ↔ find? (segments key) (.table c.root) = none ∧ field = key := by
  rw [readAt]
  cases hv : find? (segments key) (.table c.root) with
  | none => simp [eq_comm]
  | some v =>
    cases hr : read v with
    | ok a => simp [hr, Except.mapError]
    | error m =>
      have hm : m ≠ .missing field := fun hm ↦ hread v field (hm ▸ hr)
      simp [hr, Except.mapError, mapPath_eq_missing_iff, hm]

theorem get_of_found (hv : find? (segments key) (.table c.root) = some v) :
    c.get read key = (c.readAt read key).mapError c.explain := by
  rw [get]
  split
  · next field hr =>
    have hnone := ((readAt_eq_missing_iff hread).mp hr).1
    rw [hv] at hnone
    cases hnone
  · rfl

theorem get_eq_missingField_iff {field : String} {names : List String} :
    c.get read key = .error (.missingField field names) ↔
      find? (segments key) (.table c.root) = none ∧ find? (segments (flatKey key)) (.table c.root) = none ∧
        field = flatKey key ∧ names = c.starts.map (variableName · field) := by
  cases hv : find? (segments key) (.table c.root) with
  | none =>
    rw [get_of_not_nested hv, mapError_explain_eq_missingField_iff, readAt_eq_missing_iff hread]
    simp [and_assoc]
  | some v =>
    rw [get_of_found hread hv, mapError_explain_eq_missingField_iff, readAt_eq_missing_iff hread, hv]
    simp

/-- A setting that is there under its nested form is read or refused, whatever there is under the flat one. -/
theorem get_eq_error_of_found (hkey : IsPlainKey key) {m : Mismatch}
    (hv : find? (segments key) (.table c.root) = some v) (hm : read v = .error m) :
    c.get read key = .error (c.explain (m.mapPath (· ++ segments key))) := by
  have hfilter : (segments key).filter (fun segment ↦ decide (segment ≠ "")) = segments key :=
    List.filter_eq_self.mpr fun segment hs ↦ decide_eq_true (hkey.segments segment hs)
  rw [get_of_found hread hv, readAt, hv]
  dsimp only
  rw [hm, hfilter]
  rfl

/-- A setting is missing if it is there under neither form. The error tells its flat key and a variable of each
environment, and any of them, set to any text, makes the setting one that is there. A setting that does not fit is an
error of another kind. -/
theorem get_explainsMissing (h : ofSources sources = .ok c) (hkey : IsPlainKey key) :
    (∀ field names, c.get read key = .error (.missingField field names) →
      field = "_".intercalate (segments key) ∧
      (ConfigError.missingField field names).Quotes ("_".intercalate (segments key)) ∧
      ∀ start bindings, .environment start bindings ∈ sources → IsPlainStart start →
        (ConfigError.missingField field names).Quotes (variableOf start key) ∧
        ∀ text, ∃ next, ofSources (sources.map (·.setVariable (variableOf start key) text)) = .ok next ∧
          ∀ field names, next.get read key ≠ .error (.missingField field names)) ∧
    (c.get? read key = .ok none ↔ ∃ field names, c.get read key = .error (.missingField field names)) ∧
    (c.get? read key = .ok none ↔
      find? (segments key) (.table c.root) = none ∧ find? (segments (flatKey key)) (.table c.root) = none) ∧
    ∀ v m, find? (segments key) (.table c.root) = some v → read v = .error m →
      c.get read key = .error (c.explain (m.mapPath (· ++ segments key))) ∧
        ∀ field names, c.get read key ≠ .error (.missingField field names) := by
  refine ⟨fun field names hget ↦ ?_, get?_eq_none_iff, ?_, fun v m hv hm ↦ ?_⟩
  · obtain ⟨-, -, rfl, rfl⟩ := (get_eq_missingField_iff hread).mp hget
    rw [← flatKey_eq]
    refine ⟨rfl, quotes_missingField List.mem_cons_self, fun start bindings hm hs ↦ ⟨?_, fun text ↦ ?_⟩⟩
    · refine quotes_missingField (List.mem_cons_of_mem _ (List.mem_map.mpr ⟨_, mem_starts h hm rfl, ?_⟩))
      exact variableName_eq hs hkey
    · obtain ⟨next, hnext⟩ := exists_ofSources_setVariable h (variableOf start key) text
      refine ⟨next, hnext, fun field names hmissing ↦ ?_⟩
      exact find?_flatKey_of_setVariable hs hkey hm hnext ((get_eq_missingField_iff hread).mp hmissing).2.1
  · rw [get?_eq_none_iff]
    constructor
    · rintro ⟨field, names, hget⟩
      obtain ⟨hnested, hflat, -, -⟩ := (get_eq_missingField_iff hread).mp hget
      exact ⟨hnested, hflat⟩
    · rintro ⟨hnested, hflat⟩
      exact ⟨_, _, (get_eq_missingField_iff hread).mpr ⟨hnested, hflat, rfl, rfl⟩⟩
  · refine ⟨get_eq_error_of_found hread hkey hv hm, fun field names hmissing ↦ ?_⟩
    have hnone := ((get_eq_missingField_iff hread).mp hmissing).1
    rw [hv] at hnone
    cases hnone

end

theorem get_explainsMissing_number :
    let sources : List Source := [.file .yaml true (some "a:\n  c: 1\n"), .environment "my_app" [("MY_APP_X", "1")]]
    ∃ c, ofSources sources = .ok c ∧
      c.get (Reader.unsigned "u64") "a.b_1" = .error (.missingField "a_b_1" ["MY_APP_A_B_1"]) ∧
      (ConfigError.missingField "a_b_1" ["MY_APP_A_B_1"]).Quotes "MY_APP_A_B_1" ∧
      ∃ next, ofSources (sources.map (·.setVariable "MY_APP_A_B_1" "2")) = .ok next ∧
        ∀ field names, next.get (Reader.unsigned "u64") "a.b_1" ≠ .error (.missingField field names) := by
  intro sources
  have hget : (ofSources sources).bind (·.get (Reader.unsigned "u64") "a.b_1") =
      .error (.missingField "a_b_1" ["MY_APP_A_B_1"]) := by decide +kernel
  have hchars : ("a.b_1".toList.all fun c ↦ isKeyChar c || c = '.') = true := by decide +kernel
  have hkey : IsPlainKey "a.b_1" := ⟨by decide +kernel, fun c hc ↦ by simpa using List.all_eq_true.mp hchars c hc⟩
  have hstart : IsPlainStart "my_app" := ⟨by decide, by simp⟩
  have hname : variableOf "my_app" "a.b_1" = "MY_APP_A_B_1" := by decide +kernel
  cases hc : ofSources sources with
  | error e =>
    have hok : (ofSources sources).toOption.isSome = true := by decide +kernel
    rw [hc] at hok
    cases hok
  | ok c =>
    rw [hc] at hget
    have hall := (get_explainsMissing (Reader.seeksNoField_unsigned "u64") hc hkey).1 _ _ hget
    obtain ⟨hquotes, hset⟩ := hall.2.2 "my_app" [("MY_APP_X", "1")] (List.mem_cons_of_mem _ List.mem_cons_self) hstart
    rw [hname] at hquotes hset
    exact ⟨c, rfl, hget, hquotes, hset "2"⟩

end Configuration
end MetricRelay.Config
