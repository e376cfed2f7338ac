import MetricRelay.Proofs.Exposition.Series

namespace MetricRelay.Exposition

variable {families : Families} {f : Family} {before : List (String × FamilyState)} {state : FamilyState}

theorem run_metrics {metrics done : List Metric} {parts : List (List (List Char))} (hn : IsMetricName f.name)
    (hw : List.Forall₂ (fun m ↦ IsSeries f.name m.labels m.timestamp m.data) metrics parts)
    (hm : ∀ m ∈ metrics, m.WellFormed f.kind)
    (hd : f.kind.IsGrouped → ((done ++ metrics).map Metric.labels).Nodup)
    (hi : Inside families f before state) (hs : state.Shows f done) :
    ∃ next state', families.run parts.flatten = .ok next ∧ Inside next f before state' ∧
      state'.Shows f (done ++ metrics) := by
  induction hw generalizing families state done with
  | nil => exact ⟨families, state, rfl, hi, by simpa using hs⟩
  | @cons m lines metrics parts hline _ ih =>
    obtain ⟨hm, hrest⟩ := List.forall_mem_cons.mp hm
    have hfresh (hg : f.kind.IsGrouped) : m.labels ∉ done.map Metric.labels := by
      have hnodup := hd hg
      rw [List.map_append, List.map_cons, List.nodup_middle, List.nodup_cons] at hnodup
      exact fun hmem ↦ hnodup.1 (List.mem_append_left _ hmem)
    obtain ⟨middle, shown, hr, hi, hs⟩ := run_isSeries hn hm hline hi hs hfresh
    have hd (hg : f.kind.IsGrouped) : ((done ++ [m] ++ metrics).map Metric.labels).Nodup := by
      rw [List.append_assoc]
      exact hd hg
    obtain ⟨next, last, hr', hi, hs⟩ := ih hrest hd hi hs
    refine ⟨next, last, ?_, hi, by simpa using hs⟩
    rw [List.flatten_cons, run_append hr, hr']

theorem readLine_writeHelp {name help : String} (hn : IsMetricName name) (hh : Text.IsTrimmed help.toList)
    (families : Families) : families.readLine (writeHelp name help) =
      .ok (families.change name fun state ↦ { state with help := some help }) := by
  have hread := read?_writeHelp hn hh
  have ht := Text.trim_of_isTrimmed (isLine_writeHelp hn hh).1
  rw [writeHelp, writeComment] at hread ht ⊢
  rw [readLine_comment families ht, Families.readComment, hread]
  dsimp only
  rw [String.toList_ofList, unescapeHelp_escape, String.ofList_toList]

theorem readLine_writeKind {name : String} (hn : IsMetricName name) (kind : MetricKind) (families : Families) :
    families.readLine (writeKind name kind) = .ok (families.change name fun state ↦ { state with kind }) := by
  have hread := read?_writeKind hn kind
  have ht := Text.trim_of_isTrimmed (isLine_writeKind hn kind).1
  rw [writeKind, writeComment] at hread ht ⊢
  rw [readLine_comment families ht, Families.readComment, hread]
  dsimp only
  rw [ofText?_text]

theorem entries_change_new {name : String} (h : name ∉ families.keys) (g : FamilyState → FamilyState) :
    (families.change name g).entries = families.entries ++ [(name, g {})] := by
  have he := Entries.upsert_append h (fun state ↦ g (state.getD {})) []
  rwa [List.append_nil] at he

theorem run_headLines (hn : IsMetricName f.name) (hh : ∀ help, f.help = some help → Text.IsTrimmed help.toList)
    (hnew : f.name ∉ families.keys)
    (hc : f.kind.IsGrouped → ∀ suffix ∈ childSuffixes, f.name ++ suffix.1 ∉ families.keys) :
    ∃ next state, families.run (headLines f) = .ok next ∧ Inside next f families.entries state ∧ state.Shows f [] := by
  have hopen {opened : FamilyState} (hhelp : opened.help = f.help) (hkind : opened.kind = f.kind)
      (hm : opened.metrics = #[]) (hg : opened.groups = .empty) {next : Families}
      (he : next.entries = families.entries ++ [(f.name, opened)]) :
      Inside next f families.entries opened ∧ opened.Shows f [] :=
    ⟨⟨he, hkind, hc⟩, hhelp, hkind, by simp [hm], fun labels _ ↦ by rw [hg]; rfl⟩
  cases hf : f.help with
  | none =>
    have hr : families.run (headLines f) = .ok (families.change f.name fun state ↦ { state with kind := f.kind }) := by
      rw [headLines, hf]
      exact run_cons (readLine_writeKind hn f.kind families)
    exact ⟨_, _, hr, hopen hf.symm rfl rfl rfl (entries_change_new hnew _)⟩
  | some help =>
    let helped := families.change f.name fun state ↦ { state with help := some help }
    have hr : families.run (headLines f) = .ok (helped.change f.name fun state ↦ { state with kind := f.kind }) := by
      rw [headLines, hf]
      exact (run_cons (readLine_writeHelp hn (hh help hf) families)).trans
        (run_cons (readLine_writeKind hn f.kind helped))
    refine ⟨_, _, hr, hopen hf.symm rfl rfl rfl (entries_change_last hnew (entries_change_new hnew _) _)⟩

theorem toList_of_inside {next : Families} (hi : Inside next f families.entries state)
    (hs : state.Shows f f.metrics) : next.toList = families.toList ++ [f] := by
  have hf : (⟨f.name, state.help, state.kind, state.metrics.toList⟩ : Family) = f := by
    rw [hs.help, hs.kind, hs.metrics]
  rw [Families.toList, hi.entries, List.map_append]
  simp [Families.toList, hf]

theorem run_isFamily {lines : List (List Char)} (hf : f.WellFormed) (hw : IsFamily f lines)
    (hnew : f.name ∉ families.keys)
    (hc : f.kind.IsGrouped → ∀ suffix ∈ childSuffixes, f.name ++ suffix.1 ∉ families.keys) :
    ∃ next, families.run lines = .ok next ∧ next.toList = families.toList ++ [f] := by
  obtain ⟨parts, hparts, rfl⟩ := hw
  obtain ⟨opened, state, hr, hi, hs⟩ := run_headLines hf.name hf.help hnew hc
  obtain ⟨next, last, hr', hi, hs⟩ := run_metrics hf.name hparts hf.metrics (by simpa using hf.distinct) hi hs
  exact ⟨next, (run_append hr).trans hr', toList_of_inside hi hs⟩

theorem run_isExposition {done todo : List Family} {parts : List (List (List Char))}
    (hw : WellFormed (done ++ todo)) (hl : List.Forall₂ IsFamily todo parts) (hd : families.toList = done) :
    ∃ next, families.run parts.flatten = .ok next ∧ next.toList = done ++ todo := by
  -- `done` grows with every family read, and the list as a whole stays well-formed: the next name is new and no child
  induction hl generalizing families done with
  | nil => exact ⟨families, rfl, by simpa using hd⟩
  | @cons f lines todo parts hline _ ih =>
    have hmem : f ∈ done ++ f :: todo := by simp
    have hnew : f.name ∉ families.keys := by
      have hnodup := hw.distinct
      rw [List.map_append, List.map_cons, List.nodup_middle, List.nodup_cons] at hnodup
      rw [← Families.map_name_toList, hd]
      exact fun hm ↦ hnodup.1 (List.mem_append_left _ hm)
    have hchild (hg : f.kind.IsGrouped) (suffix : String × SampleRole) (hs : suffix ∈ childSuffixes) :
        f.name ++ suffix.1 ∉ families.keys := fun hm ↦ by
      rw [← Families.map_name_toList, hd, List.mem_map] at hm
      obtain ⟨g, hg', he⟩ := hm
      exact hw.noChild f hmem hg g (List.mem_append_left _ hg') suffix hs he
    obtain ⟨middle, hr, ht⟩ := run_isFamily (hw.family f hmem) hline hnew hchild
    have hw' : WellFormed (done ++ [f] ++ todo) := by
      rw [List.append_assoc]
      exact hw
    obtain ⟨next, hr', ht'⟩ := ih hw' (by rw [ht, hd])
    refine ⟨next, ?_, by simpa using ht'⟩
    rw [List.flatten_cons, run_append hr, hr']

theorem exists_of_forall₂ {α : Type} {r : α → List (List Char) → Prop} {items : List α}
    {parts : List (List (List Char))} (h : List.Forall₂ r items parts) {part : List (List Char)} (hp : part ∈ parts) :
    ∃ a ∈ items, r a part := by
  induction h with
  | nil => simp at hp
  | @cons a _ _ _ hr _ ih =>
    rcases List.mem_cons.mp hp with rfl | hp
    · exact ⟨a, List.mem_cons_self, hr⟩
    · obtain ⟨b, hb, hr⟩ := ih hp
      exact ⟨b, List.mem_cons_of_mem _ hb, hr⟩

theorem IsSample.isLine {name : String} {labels : List Label} {value : Binary64} {timestamp : Option Int64}
    {line : List Char} (hn : IsMetricName name) (hl : ∀ l ∈ labels, IsLabelName l.1)
    (h : IsSample name labels value timestamp line) : IsLine line := by
  obtain ⟨numeral, written, hx, hp, rfl⟩ := h
  exact isLine_writeSample hn (labelNames_of_perm hp hl) hx timestamp

theorem IsSeries.isLine {name : String} {labels : List Label} {timestamp : Option Int64} {data : MetricData}
    {lines : List (List Char)} (hn : IsMetricName name) (hl : ∀ l ∈ labels, IsLabelName l.1)
    (h : IsSeries name labels timestamp data lines) : ∀ l ∈ lines, IsLine l := by
  have hchildren {α : Type} {items : List α} {lines : List (List Char)} {r : α → List Char → Prop}
      (hr : List.Forall₂ r items lines) (hline : ∀ a line, r a line → IsLine line) : ∀ l ∈ lines, IsLine l := by
    induction hr with
    | nil => simp
    | cons hd _ ih => exact List.forall_mem_cons.mpr ⟨hline _ _ hd, ih⟩
  have htallies {sum count : Binary64} {sumLine countLine : List Char}
      (hsum : IsSample (name ++ "_sum") labels sum timestamp sumLine)
      (hcount : IsSample (name ++ "_count") labels count timestamp countLine) :
      ∀ l ∈ [sumLine, countLine], IsLine l := by
    have hs : IsMetricName (name ++ "_sum") := isMetricName_append hn (by decide)
    have hc : IsMetricName (name ++ "_count") := isMetricName_append hn (by decide)
    simp [hsum.isLine hs hl, hcount.isLine hc hl]
  cases h with
  | scalar h => simpa using h.isLine hn hl
  | summary hq hsum hcount =>
    refine List.forall_mem_append.mpr ⟨hchildren hq fun q line ⟨_, _, h⟩ ↦ ?_, htallies hsum hcount⟩
    exact h.isLine hn (List.forall_mem_cons.mpr ⟨isLabelName_quantileLabel, hl⟩)
  | histogram hb hsum hcount =>
    refine List.forall_mem_append.mpr ⟨hchildren hb fun b line ⟨_, _, h⟩ ↦ ?_, htallies hsum hcount⟩
    exact h.isLine (isMetricName_append hn (by decide)) (List.forall_mem_cons.mpr ⟨isLabelName_boundLabel, hl⟩)

theorem IsFamily.isLine {lines : List (List Char)} (hf : f.WellFormed) (h : IsFamily f lines) :
    ∀ l ∈ lines, IsLine l := by
  obtain ⟨parts, hparts, rfl⟩ := h
  refine List.forall_mem_append.mpr ⟨fun l hm ↦ ?_, fun l hm ↦ ?_⟩
  · rcases List.mem_append.mp hm with hm | hm
    · obtain ⟨help, hh, rfl⟩ := Option.map_eq_some_iff.mp (Option.mem_toList.mp hm)
      exact isLine_writeHelp hf.name (hf.help help hh)
    · rw [List.mem_singleton.mp hm]
      exact isLine_writeKind hf.name f.kind
  · obtain ⟨part, hp, hm⟩ := List.mem_flatten.mp hm
    obtain ⟨m, hmem, hs⟩ := exists_of_forall₂ hparts hp
    exact hs.isLine hf.name (hf.metrics m hmem).labelNames l hm

theorem IsExposition.isLine {families : List Family} {lines : List (List Char)} (hw : ∀ f ∈ families, f.WellFormed)
    (h : IsExposition families lines) : ∀ l ∈ lines, IsLine l := by
  obtain ⟨parts, hparts, rfl⟩ := h
  intro l hm
  obtain ⟨part, hp, hm⟩ := List.mem_flatten.mp hm
  obtain ⟨f, hmem, hf⟩ := exists_of_forall₂ hparts hp
  exact hf.isLine (hw f hmem) l hm

/-- What is written of well-formed families reads back as these families, with fillers anywhere between the lines. -/
theorem read_exposition {families : List Family} {lines others : List (List Char)} (hw : WellFormed families)
    (hl : IsExposition families lines) (ho : Interspersed lines others) :
    read (String.ofList (Text.joinLines others)) = .ok families := by
  have hlines := hl.isLine hw.family
  obtain ⟨parts, hparts, rfl⟩ := hl
  have hempty : Families.toList .empty = [] := rfl
  obtain ⟨result, hr, ht⟩ := run_isExposition (hempty ▸ hw) hparts hempty
  rw [read_interspersed ho hlines hr, ht, List.nil_append]

/-- A summary with help and a timestamp, the name of another family in a label value, a comment and a blank line. -/
theorem read_exposition_summary :
    read ("# HELP rpc two\\nlines\n# TYPE rpc summary\n\nrpc\x7bquantile=\"1\",path=\"\\\"up\\\"\"\x7d 1 -5\n" ++
        "rpc_sum\x7bpath=\"\\\"up\\\"\"\x7d 1 -5\n# note\nrpc_count\x7bpath=\"\\\"up\\\"\"\x7d 1 -5\n" ++
        "# TYPE up gauge\n up 1\n") =
      .ok [⟨"rpc", some "two\nlines", .summary,
          [⟨[("path", "\"up\"")], some (-5), .summary ⟨0x3FF0000000000000⟩ ⟨0x3FF0000000000000⟩
            [⟨⟨0x3FF0000000000000⟩, ⟨0x3FF0000000000000⟩⟩]⟩]⟩,
        ⟨"up", none, .gauge, [⟨[], none, .scalar ⟨0x3FF0000000000000⟩⟩]⟩] := by
  let one : Binary64 := ⟨0x3FF0000000000000⟩
  let labels : List Label := [("path", "\"up\"")]
  let series : Metric := ⟨labels, some (-5), .summary one one [⟨one, one⟩]⟩
  let scalar : Metric := ⟨[], none, .scalar one⟩
  let rpc : Family := ⟨"rpc", some "two\nlines", .summary, [series]⟩
  let up : Family := ⟨"up", none, .gauge, [scalar]⟩
  have hone : Spells "1" one := by unfold Spells; decide +kernel
  have hsample (name : String) (labels : List Label) (timestamp : Option Int64) :
      IsSample name labels one timestamp (writeSample name labels "1" timestamp) := ⟨"1", labels, hone, .rfl, rfl⟩
  have hchild : IsChild "rpc" labels (some (-5)) quantileLabel one one _ :=
    ⟨"1", hone, hsample "rpc" ((quantileLabel, "1") :: labels) (some (-5))⟩
  have hseries : IsSeries "rpc" labels (some (-5)) (.summary one one [⟨one, one⟩]) _ :=
    .summary (.cons hchild .nil) (hsample ("rpc" ++ "_sum") labels (some (-5)))
      (hsample ("rpc" ++ "_count") labels (some (-5)))
  have hscalar : IsSeries "up" [] none (.scalar one) _ := .scalar (hsample "up" [] none)
  have hrpc : rpc.WellFormed := by
    refine ⟨by decide, ?_, ?_, fun _ ↦ List.nodup_singleton _⟩
    · rintro _ ⟨⟩
      have hreverse : "two\nlines".toList.reverse = "senil\nowt".toList := by decide
      rw [Text.IsTrimmed, hreverse]
      exact ⟨Text.stopsAt_cons.mpr rfl, Text.stopsAt_cons.mpr rfl⟩
    · refine List.forall_mem_singleton.mpr ⟨?_, List.pairwise_singleton _ _, rfl, by decide, ?_⟩
      · exact List.forall_mem_singleton.mpr (by decide)
      · exact List.forall_mem_singleton.mpr (by decide)
  have hup : up.WellFormed := by
    refine ⟨by decide, by rintro _ ⟨⟩, ?_, fun _ ↦ List.nodup_singleton _⟩
    exact List.forall_mem_singleton.mpr ⟨by simp [scalar], .nil, by rintro (h | h) <;> cases h⟩
  have hw : WellFormed [rpc, up] := by
    refine ⟨List.forall_mem_cons.mpr ⟨hrpc, List.forall_mem_singleton.mpr hup⟩, by decide, ?_⟩
    intro f hf _ g hg
    simp only [List.mem_cons, List.not_mem_nil, or_false] at hf hg
    rcases hf with rfl | rfl <;> rcases hg with rfl | rfl <;> decide
  have hl : IsExposition [rpc, up] _ :=
    ⟨_, .cons ⟨_, .cons hseries .nil, rfl⟩ (.cons ⟨_, .cons hscalar .nil, rfl⟩ .nil), rfl⟩
  have hnone : IsPadding [] := by simp [IsPadding]
  have hspace : IsPadding [' '] := List.forall_mem_singleton.mpr (by decide)
  have hnote : IsFiller "# note".toList := .comment hnone (by decide) (by decide) (by decide)
  have hread := read_exposition hw hl <| .line hnone hnone <| .line hnone hnone <| .filler (.blank hnone) <|
    .line hnone hnone <| .line hnone hnone <| .filler hnote <| .line hnone hnone <| .line hnone hnone <|
    .line hspace hnone .nil
  exact (congrArg read (by decide +kernel)).trans hread

end MetricRelay.Exposition
