import MetricRelay.Text.Cut
import MetricRelay.Yaml.Scalar

namespace MetricRelay.Yaml

open Config (Value Table)

/-- A place in a text: what follows, and the column in its line. -/
structure Cursor where
  column : Nat
  rest : List Char

namespace Cursor

def past (c : Cursor) (rest : List Char) : Cursor :=
  ⟨(c.rest.take (c.rest.length - rest.length)).foldl (fun n ch ↦ if ch = '\n' then 0 else n + 1) c.column, rest⟩

def skipBlanks (c : Cursor) : Cursor := c.past (c.rest.dropWhile isLineSpace)

def atLineEnd (c : Cursor) : Bool := c.rest.head?.all (· = '\n')

end Cursor

def startsSpace (s : List Char) : Bool := s.head?.all isSpace

/-- Skips white space and comments. A comment starts a line or follows a blank; a tab may not indent a line. -/
def content (flow : Bool) : (blank fresh comment : Bool) → Nat → List Char → Cursor
  | _, _, _, column, [] => ⟨column, []⟩
  | blank, fresh, comment, column, c :: rest =>
    if c = '\n' then content flow true true false 0 rest
    else if comment then content flow blank fresh true (column + 1) rest
    else if c = ' ' then content flow true fresh false (column + 1) rest
    else if c = '\t' && (flow || !fresh) then content flow true fresh false (column + 1) rest
    else if c = '#' && blank then content flow blank fresh true (column + 1) rest
    else ⟨column, c :: rest⟩

def nextContent (flow : Bool) (c : Cursor) : Cursor := content flow (c.column = 0) (c.column = 0) false c.column c.rest

def finishLine? (c : Cursor) : Option Cursor :=
  let after := c.skipBlanks
  if after.atLineEnd || (after.rest.head? = some '#' && c.column < after.column) then
    some (nextContent false c)
  else none

def isFlowIndicator (c : Char) : Bool := c = ',' || c = '[' || c = ']' || c = '\x7b' || c = '\x7d'

def startsPlain (flow : Bool) : List Char → Bool
  | [] => false
  | c :: rest =>
    if c = '-' then !startsSpace rest
    else if c = '?' || c = ':' then !flow && !startsSpace rest
    else !isSpace c && !isFlowIndicator c && !"#&*!|>'\"%@`".toList.contains c

def plainPart (flow : Bool) : Bool → List Char → List Char
  | _, [] => []
  | blank, c :: rest =>
    let ends := c = '\n' || c = '#' && blank || flow && isFlowIndicator c ||
      c = ':' && (startsSpace rest || flow && rest.head?.any isFlowIndicator)
    if ends then [] else c :: plainPart flow (isLineSpace c) rest

def plainLine (flow : Bool) (s : List Char) : List Char × List Char :=
  let text := ((plainPart flow true s).reverse.dropWhile isLineSpace).reverse
  (text, s.drop text.length)

def plainLines (flow : Bool) (least : Nat) : Nat → List Char → List Char × List Char
  | 0, s => ([], s)
  | fuel + 1, s =>
    let space := s.takeWhile isSpace
    let next := s.dropWhile isSpace
    let indent := (space.reverse.takeWhile (· ≠ '\n')).length
    let (line, after) := plainLine flow next
    if space.contains '\n' && line ≠ [] && (flow || least ≤ indent) then
      let (text, after) := plainLines flow least fuel after
      (folded space ++ line ++ text, after)
    else ([], s)

/-- What a reader finds: text that still can be a key, or a finished value. -/
inductive Node
  | plain (text : List Char)
  | quoted (text : List Char)
  | value (value : Value)

namespace Node

def toValue : Node → Value
  | plain text => plainValue text
  | quoted text => .text (String.ofList text)
  | value v => v

def key? : Node → Option String
  | plain text => some (String.ofList text)
  | quoted text => some (String.ofList text)
  | value _ => none

end Node

def putEntry (key : String) (value : Value) (entries : Table) : Table := Entries.upsert key (fun _ ↦ value) entries

def quotedNode? (c : Cursor) : Option (Node × Cursor) :=
  match c.rest with
  | '"' :: rest => (doubleQuoted? c.rest.length rest).map fun (text, rest) ↦ (.quoted text, c.past rest)
  | '\'' :: rest => (singleQuoted? c.rest.length rest).map fun (text, rest) ↦ (.quoted text, c.past rest)
  | _ => none

def flowPlain? (c : Cursor) : Option (Node × Cursor) :=
  if startsPlain true c.rest then
    let (line, after) := plainLine true c.rest
    let (more, after) := plainLines true 0 after.length after
    some (.plain (line ++ more), c.past after)
  else none

mutual

def flowNode? : Nat → Cursor → Option (Node × Cursor)
  | 0, _ => none
  | fuel + 1, c =>
    match c.rest with
    | '[' :: rest => (flowItems? fuel (c.past rest)).map fun (items, c) ↦ (.value (.list items), c)
    | '\x7b' :: rest => (flowEntries? fuel [] (c.past rest)).map fun (entries, c) ↦ (.value (.table entries), c)
    | '"' :: _ => quotedNode? c
    | '\'' :: _ => quotedNode? c
    | _ => flowPlain? c

def flowValue? : Nat → Cursor → Option (Value × Cursor)
  | 0, _ => none
  | fuel + 1, c =>
    let c := nextContent true c
    match c.rest with
    | [] => none
    | first :: _ =>
      if first = ',' || first = ']' || first = '\x7d' then some (.null, c)
      else (flowNode? fuel c).map fun (node, c) ↦ (node.toValue, nextContent true c)

/-- Items up to the closing bracket. An item with a colon is a table of one entry. -/
def flowItems? : Nat → Cursor → Option (List Value × Cursor)
  | 0, _ => none
  | fuel + 1, c =>
    let c := nextContent true c
    match c.rest with
    | ']' :: rest => some ([], c.past rest)
    | _ =>
      match flowNode? fuel c with
      | none => none
      | some (node, c) =>
        let c := nextContent true c
        let item : Option (Value × Cursor) := match c.rest with
          | ':' :: rest => do
            let key ← node.key?
            let (value, c) ← flowValue? fuel (c.past rest)
            return (.table [(key, value)], c)
          | _ => some (node.toValue, c)
        match item with
        | none => none
        | some (item, c) =>
          match c.rest with
          | ',' :: rest => (flowItems? fuel (c.past rest)).map fun (items, c) ↦ (item :: items, c)
          | ']' :: rest => some ([item], c.past rest)
          | _ => none

def flowEntries? : Nat → Table → Cursor → Option (Table × Cursor)
  | 0, _, _ => none
  | fuel + 1, entries, c =>
    let c := nextContent true c
    match c.rest with
    | '\x7d' :: rest => some (entries, c.past rest)
    | _ =>
      match flowNode? fuel c with
      | none => none
      | some (node, c) =>
        let c := nextContent true c
        let value : Option (Value × Cursor) := match c.rest with
          | ':' :: rest => flowValue? fuel (c.past rest)
          | _ => some (.null, c)
        match node.key?, value with
        | some key, some (value, c) =>
          match c.rest with
          | ',' :: rest => flowEntries? fuel (putEntry key value entries) (c.past rest)
          | '\x7d' :: rest => some (putEntry key value entries, c.past rest)
          | _ => none
        | _, _ => none

end

/-- The lines of a block scalar, each with the number of empty lines in front, the number of empty lines behind the
last, and what follows. -/
def blockLines (indent : Nat) : Nat → Nat → List Char → List (Nat × List Char) × Nat × List Char
  | 0, empty, s => ([], empty, s)
  | fuel + 1, empty, s =>
    let spaces := (s.takeWhile (· = ' ')).length
    let line := s.takeWhile (· ≠ '\n')
    let after := (s.dropWhile (· ≠ '\n')).drop 1
    if s = [] then ([], empty, [])
    else if line.all (· = ' ') && spaces ≤ indent then blockLines indent fuel (empty + 1) after
    else if spaces < indent then ([], empty, s)
    else
      let (lines, trailing, rest) := blockLines indent fuel 0 after
      ((empty, line.drop indent) :: lines, trailing, rest)

def firstIndent (lines : List (List Char)) : Nat :=
  let empty := lines.takeWhile fun line ↦ line.all (· = ' ')
  let first := (lines.drop empty.length).head?.getD []
  (first :: empty).foldl (fun n line ↦ max n (line.takeWhile (· = ' ')).length) 0

def blockScalar? (folds : Bool) (least : Nat) (c : Cursor) : Option (Value × Cursor) := do
  let (style, rest) := BlockStyle.read { folds } c.rest
  let after := (c.past rest).skipBlanks
  if !after.atLineEnd && !(after.rest.head? = some '#' && startsSpace rest) then none
  let body := (after.rest.dropWhile (· ≠ '\n')).drop 1
  let indent := match style.indent with
    | some n => least - 1 + n
    | none => max least (firstIndent (Text.lines body))
  let (lines, trailing, rest) := blockLines indent (body.length + 1) 0 body
  return (.text (String.ofList (style.text lines trailing)), nextContent false ⟨0, rest⟩)

/-- A scalar or flow collection on one line, as far as it can be read without going on to further lines of plain
text. -/
def lineNode? (c : Cursor) : Option (Node × Cursor) :=
  match c.rest with
  | '[' :: _ => flowNode? (2 * c.rest.length + 2) c
  | '\x7b' :: _ => flowNode? (2 * c.rest.length + 2) c
  | '"' :: _ => quotedNode? c
  | '\'' :: _ => quotedNode? c
  | rest =>
    if startsPlain false rest then
      let (line, after) := plainLine false rest
      some (.plain line, c.past after)
    else none

def afterKey? (start c : Cursor) : Option Cursor :=
  let c := c.skipBlanks
  match c.rest with
  | ':' :: rest =>
    let consumed := start.rest.take (start.rest.length - rest.length)
    if startsSpace rest && !consumed.contains '\n' then some (c.past rest) else none
  | _ => none

def finishNode? (least : Nat) (node : Node) (c : Cursor) : Option (Value × Cursor) :=
  match node with
  | .plain line =>
    let (more, after) := plainLines false least c.rest.length c.rest
    (finishLine? (c.past after)).map fun c ↦ (plainValue (line ++ more), c)
  | node => (finishLine? c).map fun c ↦ (node.toValue, c)

def startsItem : List Char → Bool
  | '-' :: rest => startsSpace rest
  | _ => false

mutual

def blockNode? : Nat → Nat → Cursor → Option (Value × Cursor)
  | 0, _, _ => none
  | fuel + 1, least, c =>
    if startsItem c.rest then (blockItems? fuel c.column c).map fun (items, c) ↦ (.list items, c)
    else match c.rest with
      | '|' :: rest => blockScalar? false least (c.past rest)
      | '>' :: rest => blockScalar? true least (c.past rest)
      | _ =>
        match lineNode? c with
        | none => none
        | some (node, after) =>
          if (afterKey? c after).isSome then
            (blockEntries? fuel c.column [] c).map fun (entries, c) ↦ (.table entries, c)
          else finishNode? least node after

def blockItems? : Nat → Nat → Cursor → Option (List Value × Cursor)
  | 0, _, _ => none
  | fuel + 1, column, c =>
    let first := nextContent false ⟨c.column + 1, c.rest.drop 1⟩
    let item := if first.column ≤ column || first.rest = [] then some (.null, first)
      else blockNode? fuel (column + 1) first
    match item with
    | none => none
    | some (item, c) =>
      if c.rest = [] || c.column < column then some ([item], c)
      else if column < c.column then none
      else if startsItem c.rest then (blockItems? fuel column c).map fun (items, c) ↦ (item :: items, c)
      else some ([item], c)

def blockEntries? : Nat → Nat → Table → Cursor → Option (Table × Cursor)
  | 0, _, _, _ => none
  | fuel + 1, column, entries, start =>
    match lineNode? start with
    | none => none
    | some (node, c) =>
      match node.key?, afterKey? start c with
      | some key, some c =>
        match entryValue? fuel column c with
        | none => none
        | some (value, c) =>
          let entries := putEntry key value entries
          if c.rest = [] || c.column < column then some (entries, c)
          else if column < c.column then none
          else blockEntries? fuel column entries c
      | _, _ => none

def entryValue? : Nat → Nat → Cursor → Option (Value × Cursor)
  | 0, _, _ => none
  | fuel + 1, column, c =>
    let here := c.skipBlanks
    if here.atLineEnd || here.rest.head? = some '#' && c.column < here.column then
      let next := nextContent false c
      if next.rest = [] || next.column < column then some (.null, next)
      else if column < next.column then blockNode? fuel (column + 1) next
      else if startsItem next.rest then
        (blockItems? fuel column next).map fun (items, c) ↦ (.list items, c)
      else some (.null, next)
    else match here.rest with
      | '|' :: rest => blockScalar? false (column + 1) (here.past rest)
      | '>' :: rest => blockScalar? true (column + 1) (here.past rest)
      | _ =>
        match lineNode? here with
        | none => none
        | some (node, after) => finishNode? (column + 1) node after

end

def isMarker (mark : String) (line : List Char) : Bool :=
  mark.toList.isPrefixOf line && startsSpace (line.drop 3)

def hasContent (line : List Char) : Bool :=
  match line.dropWhile isLineSpace with
  | [] => false
  | c :: _ => c ≠ '#'

/-- The documents of a text, each as its lines. The flag says whether the current one has been opened. Before a marker
only directives and comments may stand outside a document; a marker's line may go on with a flow table. -/
def documents? (opened : Bool) (current : List (List Char)) : List (List Char) → Option (List (List (List Char)))
  | [] => some (if opened then [current] else [])
  | line :: rest =>
    if isMarker "---" line then
      let inline := (line.drop 3).dropWhile isLineSpace
      if hasContent inline && inline.head? ≠ some '\x7b' then none
      else
        let start := if hasContent inline then [inline] else []
        (documents? true start rest).map fun others ↦ if opened then current :: others else others
    else if isMarker "..." line then
      (documents? false [] rest).map fun others ↦ if opened then current :: others else others
    else if !opened && (!hasContent line || line.head? = some '%') then documents? false [] rest
    else documents? true (current ++ [line]) rest

def isAllowed (c : Char) : Bool :=
  let n := c.toNat
  n = 9 || n = 10 || n = 13 || (32 ≤ n && n < 127) || n = 0x85 || (0xA0 ≤ n && n ≠ 0xFFFE && n ≠ 0xFFFF)

def unifyLineEnds : List Char → List Char
  | '\r' :: '\n' :: rest => '\n' :: unifyLineEnds rest
  | '\r' :: rest => '\n' :: unifyLineEnds rest
  | c :: rest => c :: unifyLineEnds rest
  | [] => []

/-- Reads a text with at most one document, which has to be a table. An empty text is an empty table. -/
def readTable? (text : String) : Option Table := do
  let s := text.toList
  if !s.all isAllowed then none
  let s := if s.head? = some (Char.ofNat 0xFEFF) then s.tail else s
  match ← documents? false [] (Text.lines (unifyLineEnds s)) with
  | [] => some []
  | [lines] =>
    let s := lines.flatMap (· ++ ['\n'])
    let start := nextContent false ⟨0, s⟩
    if start.rest = [] then some []
    else match ← blockNode? (4 * s.length + 4) 0 start with
      | (.table entries, ⟨_, []⟩) => some entries
      | _ => none
  | _ => none

end MetricRelay.Yaml
