import MetricRelay.Text.Blank

namespace MetricRelay.Exposition

open Text (isBlank isSpaceOrTab skipBlanks length_skipBlanks_le)

abbrev Label := String × String

structure SampleLine where
  name : String
  labels : List Label
  value : String
  timestamp : Option String
deriving DecidableEq, Repr

inductive Metadata
  | help (name text : String)
  | kind (name kind : String)
deriving DecidableEq, Repr

def isMetricNameStart (c : Char) : Bool := c.isAlpha || c = '_' || c = ':'

def isMetricNameChar (c : Char) : Bool := c.isAlphanum || c = '_' || c = ':'

def isLabelNameStart (c : Char) : Bool := c.isAlpha || c = '_'

def isLabelNameChar (c : Char) : Bool := c.isAlphanum || c = '_'

/-- The longest beginning made of `start` and then characters of `more`, if it is not empty. -/
def name? (start more : Char → Bool) : List Char → Option (String × List Char)
  | [] => none
  | c :: rest =>
    if start c then some (String.ofList (c :: rest.takeWhile more), rest.dropWhile more) else none

def metricName? : List Char → Option (String × List Char) := name? isMetricNameStart isMetricNameChar

def labelName? : List Char → Option (String × List Char) := name? isLabelNameStart isLabelNameChar

/-- Reads up to the closing quote. A backslash makes the next character stand for itself, an `n` for a line feed. -/
def quotedRest? : List Char → Option (List Char × List Char)
  | [] => none
  | '"' :: rest => some ([], rest)
  | '\\' :: rest =>
    match rest with
    | [] => none
    | c :: rest => (quotedRest? rest).map fun (value, rest) ↦ ((if c = 'n' then '\n' else c) :: value, rest)
  | c :: rest => (quotedRest? rest).map fun (value, rest) ↦ (c :: value, rest)

def char? (c : Char) : List Char → Option (List Char)
  | [] => none
  | d :: rest => if d = c then some rest else none

def labelValue? (s : List Char) : Option (String × List Char) := do
  let rest ← char? '"' s
  let (value, rest) ← quotedRest? rest
  return (String.ofList value, rest)

def labelPair? (s : List Char) : Option (Label × List Char) := do
  let (name, rest) ← labelName? s
  let rest ← char? '=' (skipBlanks rest)
  let (value, rest) ← labelValue? (skipBlanks rest)
  return ((name, value), rest)

def nextPair? (s : List Char) : Option (Label × List Char) := do
  let rest ← char? ',' (skipBlanks s)
  labelPair? (skipBlanks rest)

theorem length_name?_lt {start more : Char → Bool} {s rest : List Char} {name : String}
    (h : name? start more s = some (name, rest)) : rest.length < s.length := by
  cases s with
  | nil => simp [name?] at h
  | cons c s =>
    simp only [name?] at h
    split at h
    · obtain ⟨-, rfl⟩ := Prod.mk.inj (Option.some.inj h)
      have := (List.dropWhile_suffix (l := s) more).length_le
      simp only [List.length_cons]
      omega
    · simp at h

theorem length_char?_lt {c : Char} {s rest : List Char} (h : char? c s = some rest) : rest.length < s.length := by
  cases s with
  | nil => simp [char?] at h
  | cons d s =>
    simp only [char?] at h
    split at h
    · cases h
      simp
    · simp at h

theorem length_quotedRest?_lt {s value rest : List Char} (h : quotedRest? s = some (value, rest)) :
    rest.length < s.length := by
  fun_induction quotedRest? s generalizing value rest with
  | case1 => simp at h
  | case2 tail => simp_all
  | case3 => simp at h
  | case4 c tail ih =>
    obtain ⟨⟨v, r⟩, hq, he⟩ := Option.map_eq_some_iff.1 h
    have := ih hq
    simp only [Prod.mk.injEq] at he
    obtain ⟨-, rfl⟩ := he
    simp only [List.length_cons]
    omega
  | case5 c tail _ _ ih =>
    obtain ⟨⟨v, r⟩, hq, he⟩ := Option.map_eq_some_iff.1 h
    have := ih hq
    simp only [Prod.mk.injEq] at he
    obtain ⟨-, rfl⟩ := he
    simp only [List.length_cons]
    omega

theorem length_labelPair?_lt {s rest : List Char} {label : Label} (h : labelPair? s = some (label, rest)) :
    rest.length < s.length := by
  simp only [labelPair?, labelValue?, Option.bind_eq_bind, Option.bind_eq_some_iff, Option.pure_def,
    Option.some.injEq, Prod.mk.injEq] at h
  obtain ⟨⟨n, r₁⟩, h₁, r₂, h₂, ⟨v, r₃⟩, ⟨r₄, h₄, ⟨w, r₅⟩, h₅, h₆⟩, -, rfl⟩ := h
  have := length_name?_lt h₁
  have := length_char?_lt h₂
  have := length_skipBlanks_le r₁
  have := length_char?_lt h₄
  have := length_skipBlanks_le r₂
  have := length_quotedRest?_lt h₅
  obtain ⟨-, rfl⟩ := h₆
  dsimp only at *
  omega

theorem length_nextPair?_lt {s rest : List Char} {label : Label} (h : nextPair? s = some (label, rest)) :
    rest.length < s.length := by
  simp only [nextPair?, Option.bind_eq_bind, Option.bind_eq_some_iff] at h
  obtain ⟨r₁, h₁, h₂⟩ := h
  have := length_char?_lt h₁
  have := length_skipBlanks_le s
  have := length_labelPair?_lt h₂
  have := length_skipBlanks_le r₁
  omega

def morePairs (s : List Char) : List Label × List Char :=
  match _h : nextPair? s with
  | none => ([], s)
  | some (label, rest) =>
    let (labels, rest) := morePairs rest
    (label :: labels, rest)
termination_by s.length
decreasing_by exact length_nextPair?_lt _h

def pairs (s : List Char) : List Label × List Char :=
  match labelPair? s with
  | none => ([], s)
  | some (label, rest) =>
    let (labels, rest) := morePairs rest
    (label :: labels, rest)

def labelBlock? (s : List Char) : Option (List Label × List Char) := do
  let rest ← char? '{' s
  let (labels, rest) := pairs (skipBlanks rest)
  let rest := (char? ',' (skipBlanks rest)).getD rest
  let rest ← char? '}' (skipBlanks rest)
  return (labels, rest)

def blanks? (s : List Char) : Option (List Char) :=
  match s with
  | c :: rest => if isSpaceOrTab c then some (skipBlanks rest) else none
  | [] => none

def word? (s : List Char) : Option (String × List Char) :=
  match s.takeWhile fun c ↦ !isBlank c with
  | [] => none
  | word => some (String.ofList word, s.dropWhile fun c ↦ !isBlank c)

def timestamp? : List Char → Option (String × List Char)
  | '-' :: rest =>
    match rest.takeWhile Char.isDigit with
    | [] => none
    | digits => some (String.ofList ('-' :: digits), rest.dropWhile Char.isDigit)
  | s =>
    match s.takeWhile Char.isDigit with
    | [] => none
    | digits => some (String.ofList digits, s.dropWhile Char.isDigit)

def SampleLine.read? (s : List Char) : Option SampleLine := do
  let (name, rest) ← metricName? s
  let block := labelBlock? (skipBlanks rest)
  let labels := (block.map Prod.fst).getD []
  let rest ← match block with
    | some (_, rest) => some (skipBlanks rest)
    | none => blanks? rest
  let (value, rest) ← word? rest
  let stamp := (blanks? rest).bind timestamp?
  let rest := (stamp.map Prod.snd).getD rest
  if skipBlanks rest = [] then some ⟨name, labels, value, stamp.map Prod.fst⟩ else none

def helpBody? (s : List Char) : Option Metadata := do
  let rest ← if "HELP".toList.isPrefixOf s then some (s.drop 4) else none
  let (name, rest) ← metricName? (← blanks? rest)
  match blanks? rest with
  | some text => return .help name (String.ofList text)
  | none => if skipBlanks rest = [] then return .help name "" else none

def kindBody? (s : List Char) : Option Metadata := do
  let rest ← if "TYPE".toList.isPrefixOf s then some (s.drop 4) else none
  let (name, rest) ← metricName? (← blanks? rest)
  let (kind, rest) ← word? (← blanks? rest)
  if skipBlanks rest = [] then return .kind name kind else none

def Metadata.read? (s : List Char) : Option Metadata := do
  let body := skipBlanks (← char? '#' s)
  match helpBody? body with
  | some metadata => some metadata
  | none => kindBody? body

def looksLikeMetadata (s : List Char) : Bool :=
  let body := Text.trimStart (s.dropWhile (· = '#'))
  "HELP ".toList.isPrefixOf body || "TYPE ".toList.isPrefixOf body

/-- Resolves `\n` and `\\` in a help text; any other backslash stands for itself. -/
def unescapeHelp : List Char → List Char
  | '\\' :: 'n' :: rest => '\n' :: unescapeHelp rest
  | '\\' :: '\\' :: rest => '\\' :: unescapeHelp rest
  | c :: rest => c :: unescapeHelp rest
  | [] => []

end MetricRelay.Exposition
