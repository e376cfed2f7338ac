import MetricRelay.Proofs.Exposition.Contributions

namespace MetricRelay.Exposition

def firstLines (count : Nat) (text : String) : String :=
  String.ofList (Text.joinLines ((Text.lines text.toList).take count))

theorem lines_firstLines_append (count : Nat) (text rest : String) :
    Text.lines (firstLines count text ++ rest).toList =
      (Text.lines text.toList).take count ++ Text.lines rest.toList := by
  rw [String.toList_append, firstLines, String.toList_ofList, Text.lines_joinLines_append]
  intro line hm
  exact Text.not_mem_of_mem_lines (List.mem_of_mem_take hm)

theorem lines_firstLines (count : Nat) (text : String) :
    Text.lines (firstLines count text).toList = (Text.lines text.toList).take count := by
  simpa [Text.lines] using lines_firstLines_append count text ""

namespace Families

variable {families next : Families} {line : List Char} {lines : List (List Char)} {number : Nat}

theorem readLines_append (families : Families) (number : Nat) (first second : List (List Char)) :
    families.readLines number (first ++ second) =
      (families.readLines number first).bind fun middle ↦ middle.readLines (number + first.length) second := by
  induction first generalizing families number with
  | nil => rfl
  | cons line first ih =>
    rw [List.cons_append, readLines, readLines]
    cases families.readLine line with
    | error cause => rfl
    | ok next =>
      have hnumber : number + (line :: first).length = number + 1 + first.length := by
        rw [List.length_cons]
        omega
      rw [hnumber]
      exact ih next (number + 1)

/-- Lines are refused for the first of them that is wrong behind those in front of it. -/
theorem readLines_eq_error_iff {e : ReadError} :
    families.readLines number lines = .error e ↔
      ∃ before line after middle, lines = before ++ line :: after ∧ families.readLines number before = .ok middle ∧
        middle.readLine line = .error e.cause ∧ e.line = number + before.length := by
  constructor
  · intro h
    induction lines generalizing families number with
    | nil => cases h
    | cons line rest ih =>
      rw [readLines] at h
      cases hl : families.readLine line with
      | error cause =>
        rw [hl] at h
        cases h
        exact ⟨[], line, rest, families, rfl, rfl, hl, rfl⟩
      | ok next =>
        rw [hl] at h
        obtain ⟨before, wrong, after, middle, rfl, hbefore, hwrong, hnumber⟩ := ih h
        refine ⟨line :: before, wrong, after, middle, rfl, ?_, hwrong, ?_⟩
        · rw [readLines, hl]
          exact hbefore
        · rw [hnumber, List.length_cons]
          omega
  · rintro ⟨before, line, after, middle, rfl, hbefore, hline, hnumber⟩
    rw [readLines_append, hbefore]
    dsimp only [Except.bind]
    rw [readLines, hline, ← hnumber]

theorem keys_prefix_change (families : Families) (name : String) (f : FamilyState → FamilyState) :
    families.keys <+: (families.change name f).keys := by
  rw [change, OrderedMap.keys_upsert]
  split
  · exact List.prefix_rfl
  · exact List.prefix_append _ _

theorem keys_prefix_of_readLine (h : families.readLine line = .ok next) : families.keys <+: next.keys := by
  by_cases hs : isSample line = true
  · obtain ⟨c, -, rfl⟩ := readLine_of_isSample hs h
    exact keys_prefix_change families _ _
  · rcases readLine_of_not_isSample (Bool.eq_false_iff.mpr hs) h with rfl | ⟨name, f, rfl, -⟩
    · exact List.prefix_rfl
    · exact keys_prefix_change families name f

theorem keys_prefix_of_readLines (h : families.readLines number lines = .ok next) : families.keys <+: next.keys :=
  invariant_of_readLines (P := fun last ↦ families.keys <+: last.keys)
    (fun hprefix hl ↦ hprefix.trans (keys_prefix_of_readLine hl)) List.prefix_rfl h

end Families

/-- A text that is refused is refused for one of its lines: those in front of it can be read, and with it they are
refused in the same words whatever follows. Of a text that can be read the first lines can be read too, however many,
and their families are the first ones of the whole. -/
theorem read_firstLines (text : String) :
    (∀ e, read text = .error e →
      1 ≤ e.line ∧ e.line ≤ (Text.lines text.toList).length ∧
      (∃ families, read (firstLines (e.line - 1) text) = .ok families) ∧
      ∀ rest, read (firstLines e.line text ++ rest) = .error e) ∧
    ∀ families, read text = .ok families → ∀ count, ∃ front,
      read (firstLines count text) = .ok front ∧ front.map Family.name <+: families.map Family.name := by
  constructor
  · intro e h
    rw [read_eq_error_iff, Families.readLines_eq_error_iff] at h
    obtain ⟨before, line, after, middle, hlines, hbefore, hline, hnumber⟩ := h
    have htake : (Text.lines text.toList).take e.line = before ++ [line] := by
      rw [hlines, List.append_cons]
      exact List.take_left' (by simp [hnumber, Nat.add_comm])
    refine ⟨by omega, ?_, ⟨middle.toList, ?_⟩, fun rest ↦ ?_⟩
    · rw [hlines, hnumber, List.length_append, List.length_cons]
      omega
    · rw [read_eq_ok_iff, lines_firstLines, hlines, hnumber, Nat.add_sub_cancel_left, List.take_left]
      exact ⟨middle, hbefore, rfl⟩
    · rw [read_eq_error_iff, lines_firstLines_append, htake, Families.readLines_eq_error_iff]
      exact ⟨before, line, Text.lines rest.toList, middle, by simp, hbefore, hline, hnumber⟩
  · intro families h count
    obtain ⟨last, hlast, rfl⟩ := read_eq_ok_iff.mp h
    rw [← List.take_append_drop count (Text.lines text.toList), Families.readLines_append] at hlast
    cases hfront : Families.readLines .empty 1 ((Text.lines text.toList).take count) with
    | error e =>
      rw [hfront] at hlast
      cases hlast
    | ok front =>
      rw [hfront] at hlast
      refine ⟨front.toList, ?_, ?_⟩
      · rw [read_eq_ok_iff, lines_firstLines]
        exact ⟨front, hfront, rfl⟩
      · rw [Families.map_name_toList, Families.map_name_toList]
        exact Families.keys_prefix_of_readLines hlast

/-- A line that is wrong only because of the type in front of it. -/
theorem read_firstLines_bareHistogram :
    let text := "# HELP g\ng 1\n# TYPE h histogram\nh 1\ng 2"
    let fault : ReadError := ⟨4, .unexpectedSample "h" .histogram⟩
    read text = .error fault ∧
      (∃ families, read "# HELP g\ng 1\n# TYPE h histogram\n" = .ok families) ∧
      ∀ rest, read ("# HELP g\ng 1\n# TYPE h histogram\nh 1\n" ++ rest) = .error fault := by
  intro text fault
  have herror : read text = .error fault := by
    have hcause : (read text).map (fun _ ↦ ()) = .error fault := by decide +kernel
    cases hr : read text with
    | error e =>
      rw [hr] at hcause
      cases hcause
      rfl
    | ok families =>
      rw [hr] at hcause
      cases hcause
  have hfront : firstLines 3 text = "# HELP g\ng 1\n# TYPE h histogram\n" := by decide +kernel
  have hfault : firstLines 4 text = "# HELP g\ng 1\n# TYPE h histogram\nh 1\n" := by decide +kernel
  obtain ⟨-, -, hreads, hfails⟩ := (read_firstLines text).1 fault herror
  rw [← hfront, ← hfault]
  exact ⟨herror, hreads, hfails⟩

end MetricRelay.Exposition
