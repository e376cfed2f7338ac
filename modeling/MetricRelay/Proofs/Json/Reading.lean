import MetricRelay.Json.Reader
import MetricRelay.Proofs.Json.NoNull
import MetricRelay.Proofs.Text.Scanning

namespace MetricRelay.Json

open Decimal (isNumberChar)
open Text (StopsAt stopsAt_nil stopsAt_cons stopsAt_append dropWhile_of_stopsAt)

variable {numeral? : NumeralReader} {fuel depth : Nat} {s rest : List Char} {json : Json}

theorem hexValue?_hexDigit {n : Nat} (h : n < 16) : hexValue? (hexDigit n) = some n := by
  revert n
  decide

theorem stringRest?_backslash {c : Char} {escaped : List Char} (h : escape? escaped = some (c, rest)) (fuel : Nat) :
    stringRest? (fuel + 1) ('\\' :: escaped) = (stringRest? fuel rest).map fun (value, rest) ↦ (c :: value, rest) := by
  rw [stringRest?, h]
  simp only [Option.bind_eq_bind, Option.bind_some]
  cases stringRest? fuel rest <;> rfl

theorem stringRest?_plain {c : Char} (hq : c ≠ '"') (hb : c ≠ '\\') (hc : ¬c.toNat < 32) (fuel : Nat)
    (rest : List Char) :
    stringRest? (fuel + 1) (c :: rest) = (stringRest? fuel rest).map fun (value, rest) ↦ (c :: value, rest) := by
  rw [stringRest?, if_neg hc]
  · exact hq
  · exact hb

theorem escape?_control {c : Char} (h : c.toNat < 32) (rest : List Char) :
    escape? ('u' :: '0' :: '0' :: hexDigit (c.toNat / 16) :: hexDigit (c.toNat % 16) :: rest) = some (c, rest) := by
  have hunit : unit? ('0' :: '0' :: hexDigit (c.toNat / 16) :: hexDigit (c.toNat % 16) :: rest) =
      some (c.toNat, rest) := by
    have hzero : hexValue? '0' = some 0 := rfl
    have hhigh : hexValue? (hexDigit (c.toNat / 16)) = some (c.toNat / 16) := hexValue?_hexDigit (by omega)
    have hlow : hexValue? (hexDigit (c.toNat % 16)) = some (c.toNat % 16) := hexValue?_hexDigit (by omega)
    simp [unit?, hzero, hhigh, hlow]
    omega
  have hchar : Char.ofNat c.toNat = c := Char.ofNat_toNat c
  rw [escape?, hunit]
  simp [hchar]
  omega

theorem stringRest?_escapeChar (fuel : Nat) (c : Char) (rest : List Char) :
    stringRest? (fuel + 1) (escapeChar c ++ rest) =
      (stringRest? fuel rest).map fun (value, rest) ↦ (c :: value, rest) := by
  unfold escapeChar
  split_ifs with hq hb h1 h2 h3 h4 h5 hc
  · exact stringRest?_backslash (by rw [hq]; rfl) fuel
  · exact stringRest?_backslash (by rw [hb]; rfl) fuel
  · exact stringRest?_backslash (by rw [h1]; rfl) fuel
  · exact stringRest?_backslash (by rw [h2]; rfl) fuel
  · exact stringRest?_backslash (by rw [h3]; rfl) fuel
  · exact stringRest?_backslash (by rw [h4]; rfl) fuel
  · exact stringRest?_backslash (by rw [h5]; rfl) fuel
  · exact stringRest?_backslash (escape?_control hc rest) fuel
  · exact stringRest?_plain hq hb hc fuel rest

theorem stringRest?_flatMap_escapeChar {value : List Char} (h : value.length < fuel) (rest : List Char) :
    stringRest? fuel (value.flatMap escapeChar ++ '"' :: rest) = some (value, rest) := by
  induction value generalizing fuel with
  | nil =>
    obtain ⟨fuel, rfl⟩ := Nat.exists_eq_add_of_lt h
    simp [stringRest?]
  | cons c value ih =>
    obtain ⟨fuel, rfl⟩ := Nat.exists_eq_add_of_lt h
    rw [List.flatMap_cons, List.append_assoc, stringRest?_escapeChar, ih, Option.map_some]
    rw [List.length_cons]
    omega

theorem length_le_flatMap_escapeChar (value : List Char) : value.length ≤ (value.flatMap escapeChar).length := by
  have hpos (c : Char) : 0 < (escapeChar c).length := by
    unfold escapeChar
    split_ifs <;> exact Nat.succ_pos _
  induction value with
  | nil => exact Nat.le_refl 0
  | cons c value ih =>
    have hc := hpos c
    rw [List.flatMap_cons, List.length_append, List.length_cons]
    omega

theorem quote_append (name : String) (s : List Char) :
    quote name ++ s = '"' :: (name.toList.flatMap escapeChar ++ '"' :: s) := by
  simp [quote]

theorem string?_quote (name : String) (rest : List Char) :
    string? (name.toList.flatMap escapeChar ++ '"' :: rest) = some (name, rest) := by
  have hlength : name.toList.length < (name.toList.flatMap escapeChar ++ '"' :: rest).length + 1 := by
    have hle := length_le_flatMap_escapeChar name.toList
    rw [List.length_append]
    omega
  rw [string?, stringRest?_flatMap_escapeChar hlength, Option.map_some]
  dsimp only
  rw [String.ofList_toList]

/-- What can follow a value in the text of a document. -/
def isEnd (c : Char) : Bool := c = ',' || c = ']' || c = '\x7d'

abbrev Ends (rest : List Char) : Prop := StopsAt (fun c ↦ !isEnd c) rest

def ReadsBack (numeral? : NumeralReader) (n : JsonNumber) : Prop :=
  ∀ rest, Ends rest → numeral? (numberText n ++ rest) = some (n, rest)

theorem skipSpace_cons {c : Char} (h : isSpace c = false) (rest : List Char) : skipSpace (c :: rest) = c :: rest :=
  dropWhile_of_stopsAt (stopsAt_cons.mpr h)

theorem isSpace_of_isNumberChar {c : Char} (h : isNumberChar c = true) : isSpace c = false := by
  refine Bool.eq_false_iff.mpr fun hs ↦ ?_
  simp only [isSpace, Bool.or_eq_true, decide_eq_true_eq] at hs
  rcases hs with ((rfl | rfl) | rfl) | rfl <;> cases h

theorem value?_of_isNumberChar {c : Char} (h : isNumberChar c = true) (fuel depth : Nat) (rest : List Char) :
    value? numeral? (fuel + 1) depth (c :: rest) =
      (numeral? (c :: rest)).map fun (n, rest) ↦ (number n, rest) := by
  rw [value?, skipSpace_cons (isSpace_of_isNumberChar h)]
  split
  all_goals first
    | rfl
    | next he =>
      cases he
      cases h

theorem value?_quote (fuel depth : Nat) (rest : List Char) :
    value? numeral? (fuel + 1) depth ('"' :: rest) = (string? rest).map fun (s, rest) ↦ (string s, rest) := by
  rfl

theorem value?_bracket {c : Char} (hs : isSpace c = false) (hc : c ≠ ']') (fuel depth : Nat) (rest : List Char) :
    value? numeral? (fuel + 1) (depth + 1) ('[' :: c :: rest) =
      (items? numeral? fuel depth (c :: rest)).map fun (items, rest) ↦ (array items, rest) := by
  simp only [value?, skipSpace_cons (c := '[') rfl, skipSpace_cons hs]
  split
  · next he => cases he
  · next he => exact absurd (List.cons.inj he).1 hc
  · next he _ =>
    cases he
    rfl

theorem value?_brace (fuel depth : Nat) (rest : List Char) :
    value? numeral? (fuel + 1) (depth + 1) ('\x7b' :: '"' :: rest) =
      (members? numeral? fuel depth ('"' :: rest)).map fun (members, rest) ↦ (object members, rest) := by
  rfl

theorem placePoint_ne_nil {digits : List Char} (h : digits ≠ []) (point : Int) :
    Decimal.placePoint digits point ≠ [] := by
  unfold Decimal.placePoint
  dsimp only
  split_ifs
  · exact List.cons_ne_nil _ _
  · exact List.append_ne_nil_of_left_ne_nil h _
  · exact List.append_ne_nil_of_right_ne_nil _ (List.cons_ne_nil _ _)

theorem ranged_ne_nil (least greatest : Int) (plus : List Char) (d : Decimal) : d.ranged least greatest plus ≠ [] := by
  unfold Decimal.ranged
  dsimp only
  split_ifs
  · exact List.append_ne_nil_of_left_ne_nil (placePoint_ne_nil Nat.toDigits_ne_nil _) _
  · exact List.append_ne_nil_of_left_ne_nil (placePoint_ne_nil Nat.toDigits_ne_nil _) _
  · exact List.append_ne_nil_of_right_ne_nil _ (List.cons_ne_nil _ _)

theorem toList_signed_ne_nil {digits : List Char} (h : digits ≠ []) (x : Binary64) : (x.signed digits).toList ≠ [] := by
  rw [Binary64.signed, String.toList_ofList]
  split
  · exact List.cons_ne_nil _ _
  · exact h

theorem ne_nil_of_json? {x : Binary64} {text : String} (h : x.json? = some text) : text.toList ≠ [] := by
  rw [Binary64.json?] at h
  split at h
  · cases h
  · split at h
    · cases h
      exact toList_signed_ne_nil (List.cons_ne_nil _ _) x
    · cases h
      exact toList_signed_ne_nil (ranged_ne_nil _ _ _ _) x

theorem numberText_ne_nil {n : JsonNumber} (h : IsNumeral n) : numberText n ≠ [] := by
  cases n with
  | unsigned n =>
    have htext : (toString n.toNat).toList = Nat.toDigits 10 n.toNat := Nat.toList_repr
    rw [numberText, htext]
    exact Nat.toDigits_ne_nil
  | negative n =>
    obtain ⟨sign, digits, htext, -, hdigits, -⟩ := Decimal.toString_int64_eq n
    rw [numberText]
    exact htext ▸ List.append_ne_nil_of_right_ne_nil _ hdigits
  | float x =>
    obtain ⟨text, ht⟩ := exists_json?_of_isFinite h
    rw [numberText, ht]
    exact ne_nil_of_json? ht

/-- The text reads as a document wherever a value can stand, given more steps than it has characters. -/
structure ReadsAs (numeral? : NumeralReader) (depth : Nat) (s : List Char) (json : Json) : Prop where
  head : ∃ c rest, s = c :: rest ∧ isSpace c = false ∧ c ≠ ']'
  reads : ∀ {fuel rest}, s.length < fuel → Ends rest → value? numeral? fuel depth (s ++ rest) = some (json, rest)

theorem readsAs_string (numeral? : NumeralReader) (depth : Nat) (name : String) :
    ReadsAs numeral? depth (string name).render (string name) := by
  refine ⟨⟨'"', _, rfl, rfl, by decide⟩, fun {fuel rest} hfuel _ ↦ ?_⟩
  obtain ⟨fuel, rfl⟩ := Nat.exists_eq_add_of_lt hfuel
  rw [render, quote_append, value?_quote, string?_quote]
  rfl

theorem readsAs_number {n : JsonNumber} (hn : IsNumeral n) (hr : ReadsBack numeral? n) (depth : Nat) :
    ReadsAs numeral? depth (number n).render (number n) := by
  obtain ⟨c, digits, htext⟩ := List.exists_cons_of_ne_nil (numberText_ne_nil hn)
  have hc : isNumberChar c = true := isNumberChar_of_mem_numberText hn (by rw [htext]; exact List.mem_cons_self)
  refine ⟨⟨c, digits, htext, isSpace_of_isNumberChar hc, by rintro rfl; cases hc⟩, fun {fuel rest} hfuel hrest ↦ ?_⟩
  obtain ⟨fuel, rfl⟩ := Nat.exists_eq_add_of_lt hfuel
  have hread := hr rest hrest
  rw [render]
  rw [htext, List.cons_append] at hread ⊢
  rw [value?_of_isNumberChar hc, hread]
  rfl

theorem items?_last {item : Json} (h : value? numeral? fuel depth s = some (item, ']' :: rest)) :
    items? numeral? (fuel + 1) depth s = some ([item], rest) := by
  rw [items?, h]
  rfl

theorem items?_next {item : Json} (h : value? numeral? fuel depth s = some (item, ',' :: rest)) :
    items? numeral? (fuel + 1) depth s =
      (items? numeral? fuel depth rest).map fun (items, rest) ↦ (item :: items, rest) := by
  rw [items?, h]
  rfl

theorem items?_renderItems {items : List Json} (h : ∀ item ∈ items, ReadsAs numeral? depth item.render item)
    (hne : items ≠ []) (hfuel : (renderItems items).length < fuel) (rest : List Char) :
    items? numeral? fuel depth (renderItems items ++ rest) = some (items, rest) := by
  induction items generalizing fuel with
  | nil => exact absurd rfl hne
  | cons item others ih =>
    obtain ⟨hitem, hothers⟩ := List.forall_mem_cons.mp h
    cases fuel with
    | zero => cases hfuel
    | succ fuel =>
    -- The item and the ones behind it are both read with one step less, and both are shorter by the separator.
    cases others with
    | nil =>
      rw [renderItems, List.length_append, List.length_singleton] at hfuel
      rw [renderItems, List.append_assoc]
      exact items?_last (hitem.reads (by omega) (stopsAt_cons.mpr rfl))
    | cons next others =>
      have htext : renderItems (item :: next :: others) = item.render ++ ',' :: renderItems (next :: others) := rfl
      rw [htext, List.length_append, List.length_cons] at hfuel
      rw [htext, List.append_assoc, List.cons_append,
        items?_next (hitem.reads (by omega) (stopsAt_cons.mpr rfl)),
        ih hothers (List.cons_ne_nil _ _) (by omega)]
      rfl

theorem readsAs_array {items : List Json} (h : ∀ item ∈ items, ReadsAs numeral? depth item.render item) :
    ReadsAs numeral? (depth + 1) (array items).render (array items) := by
  refine ⟨⟨'[', _, rfl, rfl, by decide⟩, fun {fuel rest} hfuel _ ↦ ?_⟩
  cases fuel with
  | zero => cases hfuel
  | succ fuel =>
  cases items with
  | nil => rfl
  | cons item others =>
    have hitems := items?_renderItems h (List.cons_ne_nil _ _) (Nat.lt_of_succ_lt_succ hfuel) rest
    obtain ⟨c, first, hc, hspace, hbracket⟩ := (h item List.mem_cons_self).head
    obtain ⟨t, ht⟩ : ∃ t, renderItems (item :: others) = c :: t := by
      cases others with
      | nil => exact ⟨first ++ [']'], congrArg (· ++ [']']) hc⟩
      | cons next others =>
        exact ⟨first ++ ',' :: renderItems (next :: others), congrArg (· ++ ',' :: renderItems (next :: others)) hc⟩
    rw [render, List.cons_append, ht, List.cons_append, value?_bracket hspace hbracket, ← List.cons_append, ← ht,
      hitems]
    rfl

theorem members?_last {name : String} (h : value? numeral? fuel depth s = some (json, '\x7d' :: rest)) :
    members? numeral? (fuel + 1) depth (quote name ++ ':' :: s) = some ([(name, json)], rest) := by
  rw [quote_append]
  simp only [members?, skipSpace_cons (c := '"') rfl, string?_quote, skipSpace_cons (c := ':') rfl, h,
    skipSpace_cons (c := '\x7d') rfl]

theorem members?_next {name : String} (h : value? numeral? fuel depth s = some (json, ',' :: rest)) :
    members? numeral? (fuel + 1) depth (quote name ++ ':' :: s) =
      (members? numeral? fuel depth rest).map fun (members, rest) ↦ ((name, json) :: members, rest) := by
  rw [quote_append]
  simp only [members?, skipSpace_cons (c := '"') rfl, string?_quote, skipSpace_cons (c := ':') rfl, h,
    skipSpace_cons (c := ',') rfl]

theorem members?_renderMembers {members : List (String × Json)}
    (h : ∀ m ∈ members, ReadsAs numeral? depth m.2.render m.2) (hne : members ≠ [])
    (hfuel : (renderMembers members).length < fuel) (rest : List Char) :
    members? numeral? fuel depth (renderMembers members ++ rest) = some (members, rest) := by
  induction members generalizing fuel with
  | nil => exact absurd rfl hne
  | cons member others ih =>
    obtain ⟨name, json⟩ := member
    obtain ⟨hmember, hothers⟩ := List.forall_mem_cons.mp h
    dsimp only at hmember
    cases fuel with
    | zero => cases hfuel
    | succ fuel =>
    cases others with
    | nil =>
      have htext : renderMembers [(name, json)] = quote name ++ ':' :: (json.render ++ ['\x7d']) := rfl
      rw [htext, List.length_append, List.length_cons, List.length_append, List.length_singleton] at hfuel
      rw [htext, List.append_assoc, List.cons_append, List.append_assoc]
      exact members?_last (hmember.reads (by omega) (stopsAt_cons.mpr rfl))
    | cons next others =>
      have htext : renderMembers ((name, json) :: next :: others) =
          quote name ++ ':' :: (json.render ++ ',' :: renderMembers (next :: others)) := rfl
      rw [htext, List.length_append, List.length_cons, List.length_append, List.length_cons] at hfuel
      rw [htext, List.append_assoc, List.cons_append, List.append_assoc, List.cons_append,
        members?_next (hmember.reads (by omega) (stopsAt_cons.mpr rfl)),
        ih hothers (List.cons_ne_nil _ _) (by omega)]
      rfl

theorem readsAs_object {members : List (String × Json)} (h : ∀ m ∈ members, ReadsAs numeral? depth m.2.render m.2) :
    ReadsAs numeral? (depth + 1) (object members).render (object members) := by
  refine ⟨⟨'\x7b', _, rfl, rfl, by decide⟩, fun {fuel rest} hfuel _ ↦ ?_⟩
  cases fuel with
  | zero => cases hfuel
  | succ fuel =>
  cases members with
  | nil => rfl
  | cons member others =>
    have hmembers := members?_renderMembers h (List.cons_ne_nil _ _) (Nat.lt_of_succ_lt_succ hfuel) rest
    obtain ⟨t, ht⟩ : ∃ t, renderMembers (member :: others) = '"' :: t := by
      cases others <;> exact ⟨_, rfl⟩
    rw [render, List.cons_append, ht, List.cons_append, value?_brace, ← List.cons_append, ← ht, hmembers]
    rfl

theorem readWith?_text (h : ReadsAs numeral? maxDepth json.render json) : readWith? numeral? json.text = some json := by
  have hlist : json.text.toList = json.render ++ [] := by rw [text, String.toList_ofList, List.append_nil]
  have hlength : json.text.length = json.render.length := by rw [text, String.length_ofList]
  rw [readWith?, hlist, hlength, h.reads (by omega) stopsAt_nil]
  rfl

end MetricRelay.Json
