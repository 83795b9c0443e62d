import ContractRisk.Text.Blank
import ContractRisk.Text.LetterCase
import ContractRisk.Text.Numeral
import ContractRisk.Text.WordChar

/-!
# Regular expressions

A `Node` is an expression as it is matched: letter case, lines and alphabets are settled in each node,
no flag is left. `CharTest.holds` says which characters a set takes; `Node.width` bounds the length of
what a node can match.
-/

namespace ContractRisk.Regex

/-! ## sets of characters -/

/-- which letters count as equal -/
inductive Fold where
  | exact
  | ascii
  | full
deriving Repr, DecidableEq

namespace Fold

/-- the lower-case image -/
def low : Fold → Char → Char
  | exact, c => c
  | ascii, c => c.toLower
  | full, c => Text.lowerChar c

/-- the lower-case characters that count as equal to the lower-case `c` -/
def equals : Fold → Char → List Char
  | full, c => c :: Text.casePartners c
  | _, c => [c]

/-- the characters with the lower-case image `c` -/
def sources : Fold → Char → List Char
  | exact, c => [c]
  | ascii, c => [c, c.toUpper]
  | full, c => c :: Text.capitals c

/-- the lower-case image of a code point -/
def lowCode (f : Fold) (n : Nat) : Nat := if n.isValidChar then (f.low (Char.ofNat n)).toNat else n

end Fold

inductive Kind where
  | digit
  | space
  | word
deriving Repr, DecidableEq

def isAsciiSpace (c : Char) : Bool := c.toNat == 32 || (9 ≤ c.toNat && c.toNat ≤ 13)

def Kind.holds (ascii : Bool) (c : Char) : Kind → Bool
  | digit => if ascii then Text.isAsciiDigit c else Text.isDigit c
  | space => if ascii then isAsciiSpace c else Text.isBlank c
  | word => if ascii then Text.isAsciiWord c else Text.isWord c

/-- a part of a set; characters are given by code points, among which surrogates match nothing -/
inductive Member where
  | one (code : Nat)
  | between (lo hi : Nat)
  | kind (k : Kind) (ascii negated : Bool)
deriving Repr, DecidableEq

structure CharTest where
  negated : Bool
  fold : Fold
  members : List Member
deriving Repr, DecidableEq

def Member.holds (f : Fold) (c : Char) : Member → Bool
  | one n => (f.equals (f.low c)).any fun d => d.toNat == f.lowCode n
  | between lo hi =>
    (lo ≤ c.toNat && c.toNat ≤ hi) ||
      ((f.equals (f.low c)).flatMap f.sources).any fun d => lo ≤ d.toNat && d.toNat ≤ hi
  | kind k ascii negated => k.holds ascii (f.low c) != negated

def CharTest.holds (t : CharTest) (c : Char) : Bool := t.members.any (·.holds t.fold c) != t.negated

/-! ## expressions -/

inductive Anchor where
  /-- the start of the text -/
  | start
  | lineStart
  /-- the end of the text, or before a line break that ends it -/
  | finish
  | lineFinish
  /-- the very end of the text -/
  | bottom
  /-- between a word character and another one, or not there -/
  | boundary (ascii negated : Bool)
deriving Repr, DecidableEq

inductive Greed where
  | greedy
  | lazy
  | possessive
deriving Repr, DecidableEq

inductive Node where
  | empty
  | char (t : CharTest)
  /-- any character, line breaks only where `lines` -/
  | any (lines : Bool)
  | anchor (a : Anchor)
  | seq (a b : Node)
  | alt (a b : Node)
  | group (index : Nat) (a : Node)
  | backref (index : Nat) (fold : Fold)
  | conditional (index : Nat) (yes no : Node)
  | repeated (least : Nat) (most : Option Nat) (greed : Greed) (a : Node)
  /-- looks ahead, or from a number of characters behind -/
  | look (behind : Option Nat) (negated : Bool) (a : Node)
  | atomic (a : Node)
deriving Repr, Inhabited

namespace Node

def ofList (ns : List Node) : Node :=
  match ns with
  | [] => empty
  | [n] => n
  | n :: r => seq n (ofList r)

/-- the test of a node that takes one character -/
def single? : Node → Option (Char → Bool)
  | char t => some t.holds
  | any lines => some fun c => lines || c != '\n'
  | _ => none

/-- widths are counted up to this one, which also stands for no bound -/
def widest : Nat := 1 <<< 64

/-- least and greatest length of a match, given those of the groups -/
def width (groups : Nat → Nat × Nat) : Node → Nat × Nat
  | empty | anchor _ | look .. => (0, 0)
  | char _ | any _ => (1, 1)
  | seq a b =>
    let (l, h) := width groups a
    let (l', h') := width groups b
    (min (l + l') widest, min (h + h') widest)
  | alt a b | conditional _ a b =>
    let (l, h) := width groups a
    let (l', h') := width groups b
    (min l l', max h h')
  | group _ a | atomic a => width groups a
  | backref i _ => groups i
  | repeated least most _ a =>
    let (l, h) := width groups a
    (min (l * least) widest,
      match most with
      | none => if h = 0 then 0 else widest
      | some m => min (h * m) widest)

end Node

end ContractRisk.Regex
