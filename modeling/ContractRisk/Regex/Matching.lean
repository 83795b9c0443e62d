import ContractRisk.Regex.Syntax

/-!
# Matching

A node is run at a place of the text with what has to match after it; alternatives are tried in order,
so the first way through wins. `search?` gives the first match from the left. A repetition whose last
round took no character starts no further round.
-/

namespace ContractRisk.Regex

/-- where a match stands, and the spans of its groups, the latest one first -/
structure Place where
  pos : Nat
  spans : List (Nat × Nat × Nat)

/-- the rest of a match -/
abbrev Next := Place → Option Place

namespace Place

def span? (p : Place) (index : Nat) : Option (Nat × Nat) := p.spans.lookup index

def capture (p : Place) (index start : Nat) : Place := { p with spans := (index, start, p.pos) :: p.spans }

def ahead (p : Place) (n : Nat) : Place := { p with pos := p.pos + n }

end Place

/-! ## single places -/

def isBreakAt (text : Array Char) (i : Nat) : Bool := text[i]? == some '\n'

def isWordAt (text : Array Char) (ascii : Bool) (i : Nat) : Bool :=
  (text[i]?.map fun c => Kind.holds ascii c .word).getD false

def Anchor.holds (text : Array Char) (i : Nat) : Anchor → Bool
  | start => i == 0
  | lineStart => i == 0 || isBreakAt text (i - 1)
  | finish => i == text.size || (i + 1 == text.size && isBreakAt text i)
  | lineFinish => i == text.size || isBreakAt text i
  | bottom => i == text.size
  | boundary ascii negated =>
    text.size != 0 &&
      ((0 < i && isWordAt text ascii (i - 1)) != isWordAt text ascii i) != negated

/-- do the `n` characters at `j` equal those at `i`? -/
def equalsAt (text : Array Char) (f : Fold) (i j : Nat) : Nat → Bool
  | 0 => true
  | n + 1 =>
    match text[i]?, text[j]? with
    | some c, some d => f.low c == f.low d && equalsAt text f (i + 1) (j + 1) n
    | _, _ => false

/-! ## repetitions -/

/-- how many characters from `i` on pass the test, at most `limit` -/
def runLength (text : Array Char) (test : Char → Bool) (i : Nat) : (limit : Nat) → Nat
  | 0 => 0
  | n + 1 =>
    match text[i]? with
    | some c => if test c then runLength text test (i + 1) n + 1 else 0
    | none => 0

/-- tries `least + extra` characters, then fewer -/
def fewer (k : Next) (p : Place) (least : Nat) : (extra : Nat) → Option Place
  | 0 => k (p.ahead least)
  | e + 1 =>
    match k (p.ahead (least + e + 1)) with
    | some q => some q
    | none => fewer k p least e

/-- tries `n` characters, then more, at most `extra` of them -/
def more (k : Next) (p : Place) (n : Nat) : (extra : Nat) → Option Place
  | 0 => k (p.ahead n)
  | e + 1 =>
    match k (p.ahead n) with
    | some q => some q
    | none => more k p (n + 1) e

/-- repetition of a test of one character -/
def repeatSingle (text : Array Char) (test : Char → Bool) (least : Nat) (most : Option Nat)
    (greed : Greed) (p : Place) (k : Next) : Option Place :=
  let room := text.size - p.pos
  let length := runLength text test p.pos (min room (most.getD room))
  if length < least then none
  else match greed with
    | .greedy => fewer k p least (length - least)
    | .lazy => more k p least (length - least)
    | .possessive => k (p.ahead length)

def mayRepeat (most : Option Nat) (count : Nat) (last : Option Nat) (p : Place) : Bool :=
  most.all (count < ·) && last != some p.pos

section
variable (body : Place → Next → Option Place) (least : Nat) (most : Option Nat) (k : Next)

/-- as many rounds as possible, then fewer; `last` is where the latest free round began -/
def repeatGreedy : (fuel count : Nat) → (last : Option Nat) → Place → Option Place
  | 0, _, _, _ => none
  | fuel + 1, count, last, p =>
    if count < least then body p (repeatGreedy fuel (count + 1) last)
    else if mayRepeat most count last p then
      match body p (repeatGreedy fuel (count + 1) (some p.pos)) with
      | some q => some q
      | none => k p
    else k p

/-- as few rounds as possible, then more -/
def repeatLazy : (fuel count : Nat) → (last : Option Nat) → Place → Option Place
  | 0, _, _, _ => none
  | fuel + 1, count, last, p =>
    if count < least then body p (repeatLazy fuel (count + 1) last)
    else match k p with
      | some q => some q
      | none =>
        if mayRepeat most count last p then
          body p (repeatLazy fuel (count + 1) (some p.pos))
        else none

/-- as many rounds as possible, each matched once and for all -/
def repeatPossessive : (fuel count : Nat) → (last : Option Nat) → Place → Option Place
  | 0, _, _, _ => none
  | fuel + 1, count, last, p =>
    if count < least then (body p some).bind (repeatPossessive fuel (count + 1) last)
    else if mayRepeat most count last p then
      match body p some with
      | some q => repeatPossessive fuel (count + 1) (some p.pos) q
      | none => k p
    else k p

end

/-! ## nodes -/

/-- runs a node at a place, then the rest -/
def Node.run (text : Array Char) : Node → Place → Next → Option Place
  | .empty, p, k => k p
  | .char t, p, k => (text[p.pos]?.filter t.holds).bind fun _ => k (p.ahead 1)
  | .any lines, p, k => (text[p.pos]?.filter (lines || · != '\n')).bind fun _ => k (p.ahead 1)
  | .anchor a, p, k => if a.holds text p.pos then k p else none
  | .seq a b, p, k => a.run text p fun q => b.run text q k
  | .alt a b, p, k =>
    match a.run text p k with
    | some q => some q
    | none => b.run text p k
  | .group i a, p, k => a.run text p fun q => k (q.capture i p.pos)
  | .backref i f, p, k =>
    (p.span? i).bind fun (start, stop) =>
      if equalsAt text f start p.pos (stop - start) then k (p.ahead (stop - start)) else none
  | .conditional i yes no, p, k =>
    if (p.span? i).isSome then yes.run text p k else no.run text p k
  | .repeated least most greed a, p, k =>
    match a.single? with
    | some test => repeatSingle text test least most greed p k
    | none =>
      let fuel := least + (text.size - p.pos) + 2
      match greed with
      | .greedy => repeatGreedy (fun q next => a.run text q next) least most k fuel 0 none p
      | .lazy => repeatLazy (fun q next => a.run text q next) least most k fuel 0 none p
      | .possessive => repeatPossessive (fun q next => a.run text q next) least most k fuel 0 none p
  | .look behind negated a, p, k =>
    let back := behind.getD 0
    let found := if back ≤ p.pos then a.run text { p with pos := p.pos - back } some else none
    match found, negated with
    | some q, false => k { p with spans := q.spans }
    | none, true => k p
    | _, _ => none
  | .atomic a, p, k => (a.run text p some).bind k

/-- a match that starts at one of the `tries` places from `i` on -/
def searchFrom? (n : Node) (text : Array Char) (i : Nat) : (tries : Nat) → Option (Nat × Nat)
  | 0 => none
  | t + 1 =>
    match n.run text ⟨i, []⟩ some with
    | some q => some (i, q.pos)
    | none => searchFrom? n text (i + 1) t

/-- the text of the first match -/
def Node.search? (n : Node) (text : String) : Option (List Char) :=
  let cs := text.toList.toArray
  (searchFrom? n cs 0 (cs.size + 1)).map fun (start, stop) => (cs.extract start stop).toList

end ContractRisk.Regex
