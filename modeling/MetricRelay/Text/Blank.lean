namespace MetricRelay.Text

/-- The Unicode property `White_Space`. -/
def isBlank (c : Char) : Bool :=
  let n := c.toNat
  (9 ≤ n && n ≤ 13) || n = 0x20 || n = 0x85 || n = 0xA0 || n = 0x1680 || (0x2000 ≤ n && n ≤ 0x200A) ||
    n = 0x2028 || n = 0x2029 || n = 0x202F || n = 0x205F || n = 0x3000

def isSpaceOrTab (c : Char) : Bool := c = ' ' || c = '\t'

variable (s : List Char)

def trimStart : List Char := s.dropWhile isBlank

def trimEnd : List Char := (s.reverse.dropWhile isBlank).reverse

def trim : List Char := trimEnd (trimStart s)

def stripBlanks : List Char := s.filter fun c ↦ !isBlank c

def skipBlanks : List Char := s.dropWhile isSpaceOrTab

theorem length_skipBlanks_le : (skipBlanks s).length ≤ s.length :=
  (List.dropWhile_suffix _).length_le

end MetricRelay.Text
