import MetricRelay.Text.Blank
import MetricRelay.Unicode.Case

namespace MetricRelay.Regex

/-- Sets of characters. `folded` adds whatever differs from a member in case alone. -/
inductive CharSet
  | none
  | range (low high : Char)
  | category (c : Unicode.Category)
  | ranges (r : Unicode.Ranges)
  | test (f : Char → Bool)
  | union (a b : CharSet)
  | inter (a b : CharSet)
  | diff (a b : CharSet)
  | symDiff (a b : CharSet)
  | complement (a : CharSet)
  | folded (a : CharSet)
deriving Inhabited

namespace CharSet

def contains : CharSet → Char → Bool
  | none, _ => false
  | range low high, c => low ≤ c && c ≤ high
  | category k, c => Unicode.Category.of c = k
  | ranges r, c => r.contains c.toNat
  | test f, c => f c
  | union a b, c => a.contains c || b.contains c
  | inter a b, c => a.contains c && b.contains c
  | diff a b, c => a.contains c && !b.contains c
  | symDiff a b, c => a.contains c != b.contains c
  | complement a, c => !a.contains c
  | folded a, c => (Unicode.caseVariants c).any a.contains

def single (c : Char) : CharSet := range c c

def all : CharSet := complement none

def unions (sets : List CharSet) : CharSet := sets.foldl union none

end CharSet

inductive Look
  | textStart
  | textEnd
  | lineStart (crlf : Bool)
  | lineEnd (crlf : Bool)
  | boundary (unicode : Bool)
  | noBoundary (unicode : Bool)
  | wordStart (unicode : Bool)
  | wordEnd (unicode : Bool)
  | wordStartHalf (unicode : Bool)
  | wordEndHalf (unicode : Bool)
deriving DecidableEq, Repr

namespace Look

def isWord (unicode : Bool) : Option Char → Bool
  | some c => if unicode then Unicode.isWord c else c.isAlphanum || c = '_'
  | none => false

def holds (before after : Option Char) : Look → Bool
  | textStart => before.isNone
  | textEnd => after.isNone
  | lineStart false => before.isNone || before = some '\n'
  | lineStart true => before.isNone || before = some '\n' || before = some '\r' && after ≠ some '\n'
  | lineEnd false => after.isNone || after = some '\n'
  | lineEnd true => after.isNone || after = some '\r' || after = some '\n' && before ≠ some '\r'
  | boundary u => isWord u before != isWord u after
  | noBoundary u => isWord u before == isWord u after
  | wordStart u => !isWord u before && isWord u after
  | wordEnd u => isWord u before && !isWord u after
  | wordStartHalf u => !isWord u before
  | wordEndHalf u => !isWord u after

end Look

/-- Which of several matches is preferred does not show in whether there is one, so repetition is neither greedy nor
lazy. -/
inductive Expr
  | empty
  | chars (set : CharSet)
  | look (l : Look)
  | seq (a b : Expr)
  | alt (a b : Expr)
  | loop (e : Expr) (least : Nat) (most : Option Nat)
deriving Inhabited

/-- An expression on one text, its tests turned into masks of the positions where they hold. -/
inductive Plan
  | stay
  | move (mask : Nat)
  | check (mask : Nat)
  | seq (a b : Plan)
  | alt (a b : Plan)
  | loop (p : Plan) (least : Nat) (most : Option Nat)

def mask : List Bool → Nat
  | [] => 0
  | b :: rest => 2 * mask rest + b.toNat

def surroundings (before : Option Char) : List Char → List (Option Char × Option Char)
  | [] => [(before, none)]
  | c :: rest => (before, some c) :: surroundings (some c) rest

def Expr.plan (text : List Char) : Expr → Plan
  | empty => .stay
  | chars set => .move (mask (text.map set.contains))
  | look l => .check (mask ((surroundings none text).map fun (before, after) ↦ l.holds before after))
  | seq a b => .seq (a.plan text) (b.plan text)
  | alt a b => .alt (a.plan text) (b.plan text)
  | loop e least most => .loop (e.plan text) least most

/-- Applies `step` to what is new until nothing is, at most `fuel` times. -/
def saturate (step : Nat → Nat) : Nat → Nat → Nat → Nat
  | 0, reached, _ => reached
  | fuel + 1, reached, fresh =>
    let next := step fresh
    let fresh := next - (next &&& reached)
    if fresh = 0 then reached else saturate step fuel (reached ||| fresh) fresh

def iterate (step : Nat → Nat) : Nat → Nat → Nat
  | 0, positions => positions
  | n + 1, positions => if positions = 0 then 0 else iterate step n (step positions)

def iterateUpTo (step : Nat → Nat) : Nat → Nat → Nat
  | 0, positions => positions
  | n + 1, positions => if positions = 0 then 0 else positions ||| iterateUpTo step n (step positions)

/-- The positions where matches end that start at one of the given positions; `size` is the length of the text. -/
def Plan.ends (size : Nat) : Plan → Nat → Nat
  | stay, starts => starts
  | move mask, starts => (starts &&& mask) <<< 1
  | check mask, starts => starts &&& mask
  | seq a b, starts => b.ends size (a.ends size starts)
  | alt a b, starts => a.ends size starts ||| b.ends size starts
  | loop p least most, starts =>
    let first := iterate (p.ends size) least starts
    match most with
    | some most => iterateUpTo (p.ends size) (most - least) first
    | none => saturate (p.ends size) (size + 1) first first

def Expr.matches (e : Expr) (text : List Char) : Bool :=
  (e.plan text).ends text.length (1 <<< (text.length + 1) - 1) ≠ 0

def CharSet.weight : CharSet → Nat
  | none => 1
  | range _ high => if high.toNat < 128 then 1 else 4
  | category _ => 160
  | ranges r => 4 * r.size
  | test _ => 2000
  | union a b => a.weight + b.weight
  | inter a b => a.weight + b.weight
  | diff a b => a.weight + b.weight
  | symDiff a b => a.weight + b.weight
  | complement a => a.weight + 8
  | folded a => a.weight

def Expr.weight : Expr → Nat
  | empty => 1
  | chars set => set.weight
  | look _ => 1
  | seq a b => a.weight + b.weight
  | alt a b => a.weight + b.weight + 1
  | loop e least most => e.weight * max 1 (max least (most.getD 1)) + 1

end MetricRelay.Regex
