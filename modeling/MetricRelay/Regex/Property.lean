import MetricRelay.Regex.Expr
import MetricRelay.Unicode.Script

namespace MetricRelay.Regex

open Unicode (Category)

def categoryGroups : List (List String × List Category) := [
  (["l", "letter"], [.uppercaseLetter, .lowercaseLetter, .titlecaseLetter, .modifierLetter, .otherLetter]),
  (["lc", "casedletter"], [.uppercaseLetter, .lowercaseLetter, .titlecaseLetter]),
  (["m", "mark", "combiningmark"], [.nonspacingMark, .spacingMark, .enclosingMark]),
  (["n", "number"], [.decimalNumber, .letterNumber, .otherNumber]),
  (["p", "punctuation", "punct"], [.connectorPunctuation, .dashPunctuation, .openPunctuation, .closePunctuation,
    .initialPunctuation, .finalPunctuation, .otherPunctuation]),
  (["s", "symbol"], [.mathSymbol, .currencySymbol, .modifierSymbol, .otherSymbol]),
  (["z", "separator"], [.spaceSeparator, .lineSeparator, .paragraphSeparator]),
  (["c", "other"], [.control, .format, .surrogate, .privateUse, .unassigned]),
  (["lu", "uppercaseletter"], [.uppercaseLetter]),
  (["ll", "lowercaseletter"], [.lowercaseLetter]),
  (["lt", "titlecaseletter"], [.titlecaseLetter]),
  (["lm", "modifierletter"], [.modifierLetter]),
  (["lo", "otherletter"], [.otherLetter]),
  (["mn", "nonspacingmark"], [.nonspacingMark]),
  (["mc", "spacingmark"], [.spacingMark]),
  (["me", "enclosingmark"], [.enclosingMark]),
  (["nd", "decimalnumber", "digit"], [.decimalNumber]),
  (["nl", "letternumber"], [.letterNumber]),
  (["no", "othernumber"], [.otherNumber]),
  (["pc", "connectorpunctuation"], [.connectorPunctuation]),
  (["pd", "dashpunctuation"], [.dashPunctuation]),
  (["ps", "openpunctuation"], [.openPunctuation]),
  (["pe", "closepunctuation"], [.closePunctuation]),
  (["pi", "initialpunctuation"], [.initialPunctuation]),
  (["pf", "finalpunctuation"], [.finalPunctuation]),
  (["po", "otherpunctuation"], [.otherPunctuation]),
  (["sm", "mathsymbol"], [.mathSymbol]),
  (["sc", "currencysymbol"], [.currencySymbol]),
  (["sk", "modifiersymbol"], [.modifierSymbol]),
  (["so", "othersymbol"], [.otherSymbol]),
  (["zs", "spaceseparator"], [.spaceSeparator]),
  (["zl", "lineseparator"], [.lineSeparator]),
  (["zp", "paragraphseparator"], [.paragraphSeparator]),
  (["cc", "control", "cntrl"], [.control]),
  (["cf", "format"], [.format]),
  (["co", "privateuse"], [.privateUse]),
  (["cn", "unassigned"], [.unassigned])]

def category? (name : String) : Option CharSet :=
  match name with
  | "any" => some .all
  | "ascii" => some (.range (Char.ofNat 0) (Char.ofNat 127))
  | "assigned" => some (.complement (.category .unassigned))
  | _ => (categoryGroups.find? fun group ↦ group.1.contains name).map fun group ↦
      .unions (group.2.map .category)

def binaryProperty? : String → Option CharSet
  | "alphabetic" | "alpha" => some (.test Unicode.isAlphabetic)
  | "lowercase" | "lower" => some (.test Unicode.isLowercase)
  | "uppercase" | "upper" => some (.test Unicode.isUppercase)
  | "whitespace" | "wspace" | "space" => some (.test Text.isBlank)
  | "cased" => some (.test Unicode.isCased)
  | "caseignorable" | "ci" => some (.test Unicode.isCaseIgnorable)
  | "graphemeextend" | "grext" => some (.test Unicode.isGraphemeExtend)
  | "asciihexdigit" | "ahex" => some (.test fun c ↦ c.isDigit || 'a' ≤ c && c ≤ 'f' || 'A' ≤ c && c ≤ 'F')
  | "joincontrol" | "joinc" => some (.range (Char.ofNat 0x200C) (Char.ofNat 0x200D))
  | _ => none

def scriptSet? (name : String) : Option CharSet := (Unicode.script? name).map .ranges

/-- A name without case, separators and a leading `is`. -/
def normalizeName (name : List Char) : String :=
  let plain := (name.filter fun c ↦ c ≠ ' ' && c ≠ '_' && c ≠ '-' && c.toNat < 128).map Char.toLower
  String.ofList (match plain with
    | 'i' :: 's' :: rest => if rest = ['c'] then plain else rest
    | _ => plain)

def namedSet? (name : List Char) : Option CharSet :=
  let name := normalizeName name
  (binaryProperty? name).or ((category? name).or (scriptSet? name))

def valuedSet? (property value : List Char) : Option CharSet :=
  let value := normalizeName value
  match normalizeName property with
  | "gc" | "generalcategory" => category? value
  | "sc" | "script" | "scx" | "scriptextensions" => scriptSet? value
  | _ => none

def asciiSet (ranges : List (Char × Char)) : CharSet := .unions (ranges.map fun (low, high) ↦ .range low high)

def posixSet? : String → Option CharSet
  | "alnum" => some (asciiSet [('0', '9'), ('A', 'Z'), ('a', 'z')])
  | "alpha" => some (asciiSet [('A', 'Z'), ('a', 'z')])
  | "ascii" => some (asciiSet [(Char.ofNat 0, Char.ofNat 127)])
  | "blank" => some (asciiSet [('\t', '\t'), (' ', ' ')])
  | "cntrl" => some (asciiSet [(Char.ofNat 0, Char.ofNat 31), (Char.ofNat 127, Char.ofNat 127)])
  | "digit" => some (asciiSet [('0', '9')])
  | "graph" => some (asciiSet [('!', '~')])
  | "lower" => some (asciiSet [('a', 'z')])
  | "print" => some (asciiSet [(' ', '~')])
  | "punct" => some (asciiSet [('!', '/'), (':', '@'), ('[', Char.ofNat 0x60), (Char.ofNat 0x7B, '~')])
  | "space" => some (asciiSet [('\t', '\r'), (' ', ' ')])
  | "upper" => some (asciiSet [('A', 'Z')])
  | "word" => some (asciiSet [('0', '9'), ('A', 'Z'), ('a', 'z'), ('_', '_')])
  | "xdigit" => some (asciiSet [('0', '9'), ('A', 'F'), ('a', 'f')])
  | _ => none

def shortSet? (unicode : Bool) : Char → Option CharSet
  | 'd' => if unicode then some (.category .decimalNumber) else posixSet? "digit"
  | 's' => if unicode then some (.test Text.isBlank) else posixSet? "space"
  | 'w' => if unicode then some (.test Unicode.isWord) else posixSet? "word"
  | _ => none

end MetricRelay.Regex
