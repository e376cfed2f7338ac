import MetricRelay.Unicode.Category

namespace MetricRelay.Text

def escapeCodePoint (c : Char) : List Char :=
  '\\' :: 'u' :: '\x7b' :: (Nat.toDigits 16 c.toNat ++ ['\x7d'])

def escapeQuoted (c : Char) : List Char :=
  if c = '\x00' then ['\\', '0']
  else if c = '\t' then ['\\', 't']
  else if c = '\n' then ['\\', 'n']
  else if c = '\r' then ['\\', 'r']
  else if c = '"' then ['\\', '"']
  else if c = '\\' then ['\\', '\\']
  else if Unicode.isGraphemeExtend c || !Unicode.isPrintable c then escapeCodePoint c
  else [c]

def quoted (s : List Char) : List Char := '"' :: (s.flatMap escapeQuoted ++ ['"'])

def quote (s : String) : String := String.ofList (quoted s.toList)

end MetricRelay.Text
