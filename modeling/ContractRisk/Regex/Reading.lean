import ContractRisk.Regex.Syntax
import ContractRisk.Text.Quoted
import ContractRisk.Text.Search

/-!
# Reading regular expressions

`Regex.read` turns the text of an expression into a `Node`, or gives a `Refusal` with its cause and
position. A backslash and the character behind it are one token; a backslash that ends the expression is
refused as soon as it is the next token. An expression that nests more groups than there is room for is
refused where the first one too many is opened.
-/

namespace ContractRisk.Regex

/-! ## refusals -/

inductive Cause where
  | danglingEscape
  | badEscape (escape : String)
  | incompleteEscape (escape : String)
  | octalTooLarge (escape : String)
  | missing (what : String)
  | unknownCharacter (name : String)
  | openGroup
  | lookBehindGroup
  | noGroup (index : Nat)
  | groupZero
  | badGroupName (name : String)
  | unknownGroup (name : String)
  | groupTwice (name : String) (index earlier : Nat)
  | openSet
  | badRange (low high : String)
  | nothingToRepeat
  | multipleRepeat
  | repeatOrder
  | unexpectedEnd
  | unknownExtension (text : String)
  | threeBranches
  | lateFlags
  | unknownFlag
  | localeFlag
  | flagClash
  | globalFlagOn
  | globalFlagOff
  | alphabetFlagOff
  | flagOnAndOff
  | unbalanced
  | lookBehindWidth
  | lookBehindTooFar
  | noRepeats (greed : Greed)
deriving Repr, DecidableEq

def Cause.message : Cause → String
  | danglingEscape => "bad escape (end of pattern)"
  | badEscape e => "bad escape " ++ e
  | incompleteEscape e => "incomplete escape " ++ e
  | octalTooLarge e => "octal escape value " ++ e ++ " outside of range 0-0o377"
  | missing what => "missing " ++ what
  | unknownCharacter name => "undefined character name " ++ Text.quoted name
  | openGroup => "cannot refer to an open group"
  | lookBehindGroup => "cannot refer to group defined in the same lookbehind subpattern"
  | noGroup i => "invalid group reference " ++ Text.natText i
  | groupZero => "bad group number"
  | badGroupName name => "bad character in group name " ++ Text.quoted name
  | unknownGroup name => "unknown group name " ++ Text.quoted name
  | groupTwice name i earlier =>
    "redefinition of group name " ++ Text.quoted name ++ " as group " ++ Text.natText i ++
      "; was group " ++ Text.natText earlier
  | openSet => "unterminated character set"
  | badRange low high => "bad character range " ++ low ++ "-" ++ high
  | nothingToRepeat => "nothing to repeat"
  | multipleRepeat => "multiple repeat"
  | repeatOrder => "min repeat greater than max repeat"
  | unexpectedEnd => "unexpected end of pattern"
  | unknownExtension text => "unknown extension ?" ++ text
  | threeBranches => "conditional backref with more than two branches"
  | lateFlags => "global flags not at the start of the expression"
  | unknownFlag => "unknown flag"
  | localeFlag => "bad inline flags: cannot use 'L' flag with a str pattern"
  | flagClash => "bad inline flags: flags 'a', 'u' and 'L' are incompatible"
  | globalFlagOn => "bad inline flags: cannot turn on global flag"
  | globalFlagOff => "bad inline flags: cannot turn off global flag"
  | alphabetFlagOff => "bad inline flags: cannot turn off flags 'a', 'u' and 'L'"
  | flagOnAndOff => "bad inline flags: flag turned on and off"
  | unbalanced => "unbalanced parenthesis"
  | lookBehindWidth => "look-behind requires fixed-width pattern"
  | lookBehindTooFar => "looks too much behind"
  | noRepeats greed =>
    "internal: unsupported template operator " ++ match greed with
      | .greedy => "MAX_REPEAT"
      | .lazy => "MIN_REPEAT"
      | .possessive => "POSSESSIVE_REPEAT"

inductive Refusal where
  /-- a fault of the expression, perhaps with its position -/
  | fault (cause : Cause) (pos : Option Nat)
  | repetitionTooLarge
  /-- a repetition number with too many digits to be read -/
  | repetitionTooLong (digits : Nat)
  | localeFlag
  | flagClash
  /-- more groups are nested than there is room for -/
  | tooDeep
deriving Repr, DecidableEq

/-- the position, with line and column if the expression has several lines -/
def positionText (pattern : List Char) (pos : Nat) : String :=
  let before := pattern.take pos
  let lines := Text.splitOn '\n' before
  " at position " ++ Text.natText pos ++
    if pattern.contains '\n' then
      " (line " ++ Text.natText lines.length ++ ", column " ++
        Text.natText ((lines.getLast?.map List.length).getD 0 + 1) ++ ")"
    else ""

def Refusal.message (pattern : String) : Refusal → String
  | fault cause pos => cause.message ++ pos.elim "" (positionText pattern.toList)
  | repetitionTooLarge => "the repetition number is too large"
  | repetitionTooLong digits => Text.tooLongToRead digits
  | localeFlag => "cannot use LOCALE flag with a str pattern"
  | flagClash => "ASCII and UNICODE flags are incompatible"
  | tooDeep => Text.tooDeepText

/-! ## flags -/

inductive Flag where
  | ignoreCase
  | locale
  | multiline
  | dotAll
  | verbose
  | ascii
  | noRepeats
  | unicode
deriving Repr, DecidableEq

namespace Flag

def ofLetter? : Char → Option Flag
  | 'i' => some ignoreCase
  | 'L' => some locale
  | 'm' => some multiline
  | 's' => some dotAll
  | 'x' => some verbose
  | 'a' => some ascii
  | 't' => some noRepeats
  | 'u' => some unicode
  | _ => none

def bit : Flag → Nat
  | noRepeats => 1
  | ignoreCase => 2
  | locale => 4
  | multiline => 8
  | dotAll => 16
  | unicode => 32
  | verbose => 64
  | ascii => 256

def all : List Flag :=
  [ignoreCase, locale, multiline, dotAll, verbose, ascii, noRepeats, unicode]

def ofBits (n : Nat) : List Flag := all.filter fun f => n / f.bit % 2 == 1

/-- the flags that choose an alphabet; only one of them may be set -/
def isAlphabet (f : Flag) : Bool := f == ascii || f == locale || f == unicode

def isGlobal (f : Flag) : Bool := f == noRepeats

end Flag

abbrev Flags := List Flag

namespace Flags

def fold (fs : Flags) : Fold :=
  if fs.contains .ignoreCase then if fs.contains .ascii then .ascii else .full else .exact

/-- the flags inside a group that turns some on and some off -/
def within (fs on off : Flags) : Flags :=
  let kept := if on.any Flag.isAlphabet then fs.filter (!·.isAlphabet) else fs
  (kept ++ on).filter (!off.contains ·)

end Flags

/-! ## tokens -/

inductive Token where
  | plain (c : Char)
  | escaped (c : Char)
  /-- a backslash at the end -/
  | dangling
deriving Repr, DecidableEq

namespace Token

def ofChars : List Char → List Token
  | [] => []
  | '\\' :: c :: r => escaped c :: ofChars r
  | ['\\'] => [dangling]
  | c :: r => plain c :: ofChars r

def chars : Token → List Char
  | plain c => [c]
  | escaped c => ['\\', c]
  | dangling => ['\\']

def text (t : Token) : String := String.ofList t.chars

def width (t : Token) : Nat := t.chars.length

/-- the character of an unescaped token of the class -/
def among? (p : Char → Bool) : Token → Option Char
  | plain c => if p c then some c else none
  | _ => none

end Token

/-! ## the state of a reading -/

structure Reader where
  rest : List Token
  /-- the length of the whole expression -/
  length : Nat
  /-- flags of the whole expression -/
  flags : Flags
  /-- the widths of the groups met, none while a group is open -/
  groups : List (Option (Nat × Nat))
  names : List (String × Nat)
  /-- in a look-behind, the first group that it holds itself -/
  barrier : Option Nat
  /-- the groups of conditions, each where it is named first -/
  awaited : List (Nat × Nat)
  /-- the first fault that is reported only if there is no other one -/
  postponed : Option Cause
  /-- how many groups may still be opened inside each other -/
  levels : Nat
  /-- the codes of characters by their names -/
  characters : String → Option Nat

abbrev Read (β : Type) := StateT Reader (Except Refusal) β

namespace Reader

/-- the position of the next token -/
def pos (r : Reader) : Nat := r.length - r.rest.foldr (fun t n => t.width + n) 0

def groupWidth (r : Reader) (index : Nat) : Nat × Nat := ((r.groups[index - 1]?).join).getD (0, 0)

def isClosed (r : Reader) (index : Nat) : Bool := 0 < index && (r.groups[index - 1]?).join.isSome

end Reader

def refuse {β : Type} (cause : Cause) (back : Nat) : Read β := do
  let r ← get
  throw (.fault cause (some (r.pos - back)))

def peek : Read (Option Token) := do
  let r ← get
  return r.rest.head?

/-- refuses a dangling backslash that has become the next token -/
def settle (rest : List Token) : Read Unit := do
  let r ← get
  match rest with
  | .dangling :: _ => throw (.fault .danglingEscape (some (r.length - 1)))
  | _ => set { r with rest := rest }

def take : Read (Option Token) := do
  let r ← get
  match r.rest with
  | [] => return none
  | t :: ts =>
    settle ts
    return some t

/-- takes the next token if it is this character -/
def accept (c : Char) : Read Bool := do
  if (← peek) = some (.plain c) then
    let _ ← take
    return true
  else return false

/-- at most `n` characters of a class -/
def takeWhile (p : Char → Bool) : (n : Nat) → Read (List Char)
  | 0 => return []
  | n + 1 => do
    match (← peek).bind (Token.among? p) with
    | none => return []
    | some c =>
      let _ ← take
      return c :: (← takeWhile p n)

/-- a name up to a closing character, which is taken too -/
def takeUntil (closing : Char) (what : String) (acc : List Char) : (fuel : Nat) → Read String
  | 0 => refuse (.missing what) 0
  | fuel + 1 => do
    match ← take with
    | none =>
      if acc.isEmpty then refuse (.missing what) 0
      else refuse (.missing (String.ofList [closing] ++ ", unterminated name")) acc.length
    | some t =>
      if t = .plain closing then
        if acc.isEmpty then refuse (.missing what) 1 else return String.ofList acc
      else takeUntil closing what (acc ++ t.chars) fuel

def nameUntil (closing : Char) (what : String) : Read String := do
  takeUntil closing what [] ((← get).rest.length + 1)

/-! ## escapes -/

def isOctal (c : Char) : Bool := '0' ≤ c && c ≤ '7'

def isHex (c : Char) : Bool :=
  Text.isAsciiDigit c || ('a' ≤ c && c ≤ 'f') || ('A' ≤ c && c ≤ 'F')

def hexValue (c : Char) : Nat :=
  if Text.isAsciiDigit c then c.toNat - 48 else c.toLower.toNat - 87

def ofDigits (base : Nat) (cs : List Char) : Nat := cs.foldl (fun n c => n * base + hexValue c) 0

def control? : Char → Option Nat
  | 'a' => some 7
  | 'b' => some 8
  | 'f' => some 12
  | 'n' => some 10
  | 'r' => some 13
  | 't' => some 9
  | 'v' => some 11
  | '\\' => some 92
  | _ => none

def kind? : Char → Option (Kind × Bool)
  | 'd' => some (.digit, false)
  | 'D' => some (.digit, true)
  | 's' => some (.space, false)
  | 'S' => some (.space, true)
  | 'w' => some (.word, false)
  | 'W' => some (.word, true)
  | _ => none

def isAsciiLetter (c : Char) : Bool := c.isAlpha

/-- a code point in exactly `n` hexadecimal digits -/
def hexEscape (c : Char) (n : Nat) : Read Nat := do
  let ds ← takeWhile isHex n
  let escape := '\\' :: c :: ds
  if ds.length < n then refuse (.incompleteEscape (String.ofList escape)) escape.length
  else
    let code := ofDigits 16 ds
    if 0x110000 ≤ code then refuse (.badEscape (String.ofList escape)) escape.length
    else return code

/-- a character by its name -/
def namedEscape : Read Nat := do
  if ← accept '\x7b' then
    let name ← nameUntil '\x7d' "character name"
    match (← get).characters name with
    | some code => return code
    | none => refuse (.unknownCharacter name) (name.length + 4)
  else refuse (.missing "\x7b") 0

/-- an escape that stands for itself, unless it is a letter or a digit -/
def plainEscape (c : Char) : Read Nat :=
  if isAsciiLetter c || Text.isAsciiDigit c then refuse (.badEscape (String.ofList ['\\', c])) 2
  else return c.toNat

def octal (digits : List Char) : Read Nat := do
  let code := ofDigits 8 digits
  let escape := '\\' :: digits
  if 0o377 < code then refuse (.octalTooLarge (String.ofList escape)) escape.length
  else return code

/-- an escape that stands for one code point, in a set and outside of it -/
def codeEscape (c : Char) : Read Nat :=
  match c with
  | 'x' => hexEscape c 2
  | 'u' => hexEscape c 4
  | 'U' => hexEscape c 8
  | 'N' => namedEscape
  | _ => plainEscape c

/-- an escape in a set -/
def setEscape (flags : Flags) (c : Char) : Read Member :=
  match control? c, kind? c with
  | some n, _ => return .one n
  | _, some (k, negated) => return .kind k (flags.contains .ascii) negated
  | _, _ => do
    if isOctal c then return .one (← octal (c :: (← takeWhile isOctal 2)))
    else return .one (← codeEscape c)

/-- refuses groups that a look-behind cannot see -/
def checkBarrier (index : Nat) : Read Unit := do
  let r ← get
  match r.barrier with
  | none => return
  | some first =>
    if !r.isClosed index then refuse .openGroup 0
    else if first ≤ index then refuse .lookBehindGroup 0

/-- a reference to a group, written with so many characters -/
def reference (flags : Flags) (index written : Nat) : Read Node := do
  let r ← get
  if r.groups.length < index then refuse (.noGroup index) (written - 1)
  else if !r.isClosed index then refuse .openGroup written
  else
    checkBarrier index
    return .backref index (Flags.fold flags)

def one (flags : Flags) (code : Nat) : Node := .char ⟨false, Flags.fold flags, [.one code]⟩

/-- an escape that starts with a digit other than zero: three octal digits, or a group -/
def numberEscape (flags : Flags) (c : Char) : Read Node := do
  match ← takeWhile Text.isAsciiDigit 1 with
  | [d] =>
    if isOctal c && isOctal d then
      match ← takeWhile isOctal 1 with
      | [e] => return one flags (← octal [c, d, e])
      | _ => reference flags (ofDigits 10 [c, d]) 3
    else reference flags (ofDigits 10 [c, d]) 3
  | _ => reference flags (ofDigits 10 [c]) 2

inductive ItemKind where
  | anchor
  | repeated
  | other
deriving DecidableEq

/-- an escape outside of a set -/
def escape (flags : Flags) (c : Char) : Read (Node × ItemKind) := do
  let ascii := flags.contains .ascii
  match c with
  | 'A' => return (.anchor .start, .anchor)
  | 'Z' => return (.anchor .bottom, .anchor)
  | 'b' => return (.anchor (.boundary ascii false), .anchor)
  | 'B' => return (.anchor (.boundary ascii true), .anchor)
  | '0' => return (one flags (ofDigits 8 (← takeWhile isOctal 2)), .other)
  | _ =>
    match control? c, kind? c with
    | some n, _ => return (one flags n, .other)
    | _, some (k, negated) =>
      return (.char ⟨false, Flags.fold flags, [.kind k ascii negated]⟩, .other)
    | _, _ =>
      if Text.isAsciiDigit c then return (← numberEscape flags c, .other)
      else return (one flags (← codeEscape c), .other)

/-! ## sets -/

/-- one end of a range, or a member on its own -/
def member (flags : Flags) (t : Token) : Read Member :=
  match t with
  | .plain c => return .one c.toNat
  | .escaped c => setEscape flags c
  | .dangling => refuse .danglingEscape 0

/-- the members up to the closing bracket; the set was opened at `start` -/
def members (flags : Flags) (start : Nat) (acc : List Member) : (fuel : Nat) → Read (List Member)
  | 0 => refuse .openSet 0
  | fuel + 1 => do
    match ← take with
    | none => refuse .openSet ((← get).pos - start)
    | some low =>
      if low = .plain ']' ∧ acc ≠ [] then return acc
      else
        let first ← member flags low
        if ← accept '-' then
          match ← take with
          | none => refuse .openSet ((← get).pos - start)
          | some high =>
            if high = .plain ']' then return acc ++ [first, .one '-'.toNat]
            else
              let last ← member flags high
              let bad := refuse (.badRange low.text high.text) (low.width + 1 + high.width)
              match first, last with
              | .one a, .one b =>
                if b < a then bad else members flags start (acc ++ [.between a b]) fuel
              | _, _ => bad
        else members flags start (acc ++ [first]) fuel

/-- a set whose opening bracket has been taken -/
def charSet (flags : Flags) : Read Node := do
  let start := (← get).pos - 1
  let negated ← accept '^'
  let ms ← members flags start [] ((← get).rest.length + 1)
  return .char ⟨negated, Flags.fold flags, ms⟩

/-! ## repetitions -/

def repeatLimit : Nat := 4294967295

def bound? (ds : List Char) : Read (Option Nat) :=
  if ds.isEmpty then return none
  else if Text.digitLimit < ds.length then throw (.repetitionTooLong ds.length)
  else
    let n := ofDigits 10 ds
    if repeatLimit ≤ n then throw .repetitionTooLarge else return some n

/-- the bounds of a repetition in braces; nothing is taken if there are none -/
def braces : Read (Option (Nat × Option Nat)) := do
  let start ← get
  if start.rest.head? = some (.plain '\x7d') then return none
  else
    let size := start.rest.length
    let lo ← takeWhile Text.isAsciiDigit size
    let hi ← if ← accept ',' then takeWhile Text.isAsciiDigit size else pure lo
    if ← accept '\x7d' then
      let least ← bound? lo
      let most ← bound? hi
      if most.any (· < least.getD 0) then refuse .repeatOrder ((← get).pos - start.pos)
      else return some (least.getD 0, most)
    else
      set start
      return none

/-- the bounds that a repetition character opens -/
def bounds (c : Char) : Read (Option (Nat × Option Nat)) :=
  match c with
  | '?' => return some (0, some 1)
  | '*' => return some (0, none)
  | '+' => return some (1, none)
  | _ => braces

/-- puts the last item under a repetition whose bounds were opened before `start` -/
def repeatLast (flags : Flags) (start : Nat) (least : Nat) (most : Option Nat)
    (items : List (Node × ItemKind)) : Read (List (Node × ItemKind)) := do
  let back := (← get).pos - start + 1
  match items with
  | [] | (_, .anchor) :: _ => refuse .nothingToRepeat back
  | (_, .repeated) :: _ => refuse .multipleRepeat back
  | (n, .other) :: r =>
    let greed ← if ← accept '?' then pure .lazy
      else if ← accept '+' then pure .possessive else pure Greed.greedy
    if flags.contains .noRepeats then
      modify fun s => { s with postponed := s.postponed.or (some (.noRepeats greed)) }
    return (.repeated least most greed n, .repeated) :: r

/-! ## groups -/

/-- can the text be a name: letters, digits and underscores, no digit first? -/
def isName (s : String) : Bool :=
  match s.toList with
  | [] => false
  | c :: r => Text.isWord c && !Text.isDigit c && r.all Text.isWord

def isLetterToken : Token → Bool
  | .plain c => Text.isWord c && !Text.isDigit c && c != '_'
  | _ => false

def checkName (name : String) : Read Unit :=
  if isName name then return else refuse (.badGroupName name) (name.length + 1)

def openGroup (name : Option String) : Read Nat := do
  let r ← get
  let index := r.groups.length + 1
  match name with
  | none => set { r with groups := r.groups ++ [none] }
  | some n =>
    match r.names.lookup n with
    | some earlier => refuse (.groupTwice n index earlier) (n.length + 1)
    | none => set { r with groups := r.groups ++ [none], names := (n, index) :: r.names }
  return index

def closeGroup (index : Nat) (n : Node) : Read Unit :=
  modify fun r => { r with groups := r.groups.set (index - 1) (some (n.width r.groupWidth)) }

def flagOf? (t : Token) : Option Flag := (Token.among? (fun _ => true) t).bind Flag.ofLetter?

/-- after a token that is no flag: a letter is an unknown one -/
def notFlag {β : Type} (t : Token) (expected : String) : Read β :=
  refuse (if isLetterToken t then .unknownFlag else .missing expected) t.width

/-- the flags turned on from a first one on, and the character behind them -/
def flagsOn (acc : Flags) (f : Flag) : (fuel : Nat) → Read (Flags × Char)
  | 0 => refuse (.missing "-, : or )") 0
  | fuel + 1 => do
    if f = .locale then refuse .localeFlag 0
    else
      let acc := acc ++ [f]
      if f.isAlphabet ∧ acc.any (fun g => g.isAlphabet && g ≠ f) then refuse .flagClash 0
      else
        match ← take with
        | none => refuse (.missing "-, : or )") 0
        | some t =>
          match t, flagOf? t with
          | .plain ')', _ => return (acc, ')')
          | .plain '-', _ => return (acc, '-')
          | .plain ':', _ => return (acc, ':')
          | _, some g => flagsOn acc g fuel
          | _, none => notFlag t "-, : or )"

/-- the flags turned off from a first one on, up to the colon -/
def flagsOff (acc : Flags) (f : Flag) : (fuel : Nat) → Read Flags
  | 0 => refuse (.missing ":") 0
  | fuel + 1 => do
    if f.isAlphabet then refuse .alphabetFlagOff 0
    else
      let acc := acc ++ [f]
      match ← take with
      | none => refuse (.missing ":") 0
      | some t =>
        match t, flagOf? t with
        | .plain ':', _ => return acc
        | _, some g => flagsOff acc g fuel
        | _, none => notFlag t ":"

/-- the flags turned on and off by a group, or none if they are meant for the whole expression -/
def inlineFlags (first : Char) : Read (Option (Flags × Flags)) := do
  let fuel := (← get).rest.length + 1
  let (on, last) ← match Flag.ofLetter? first with
    | some f => flagsOn [] f fuel
    | none => pure ([], '-')
  if last = ')' then
    modify fun r => { r with flags := r.flags ++ on }
    return none
  else if on.any Flag.isGlobal then refuse .globalFlagOn 1
  else
    let off ←
      if last = '-' then
        match ← take with
        | none => refuse (.missing "flag") 0
        | some t =>
          match flagOf? t with
          | some f => flagsOff [] f fuel
          | none => notFlag t "flag"
      else pure []
    if off.any Flag.isGlobal then refuse .globalFlagOff 1
    else if on.any off.contains then refuse .flagOnAndOff 1
    else return some (on, off)

/-- the group that a condition names -/
def conditionGroup : Read Nat := do
  let name ← nameUntil ')' "group name"
  let back := name.length + 1
  let r ← get
  if isName name then
    match r.names.lookup name with
    | some index => return index
    | none => refuse (.unknownGroup name) back
  else
    match Text.shortInteger? name.toList with
    | some (.ofNat 0) => refuse .groupZero back
    | some (.ofNat n) =>
      if 1073741823 ≤ n then refuse (.noGroup n) back
      else
        if (r.awaited.lookup n).isNone then
          set { r with awaited := r.awaited ++ [(n, r.pos - back)] }
        return n
    | _ => refuse (.badGroupName name) back

/-- the rest of a comment in parentheses that was opened at `start` -/
def skipComment (start : Nat) : (fuel : Nat) → Read Unit
  | 0 => return
  | fuel + 1 => do
    match ← peek with
    | none => refuse (.missing "), unterminated comment") ((← get).pos - start)
    | some _ =>
      if (← take) = some (.plain ')') then return else skipComment start fuel

/-- the rest of a comment up to the end of the line -/
def skipLine : (fuel : Nat) → Read Unit
  | 0 => return
  | fuel + 1 => do
    match ← take with
    | none | some (.plain '\n') => return
    | some _ => skipLine fuel

/-- the parenthesis that closes a group opened at `start` -/
def close (start : Nat) : Read Unit := do
  if ← accept ')' then return
  else refuse (.missing "), unterminated subpattern") ((← get).pos - start)

/-- postpones a fault of a look-behind whose width is not fixed -/
def checkLookBehind (n : Node) : Read Nat := do
  let r ← get
  let (l, h) := n.width r.groupWidth
  let cause? := if repeatLimit < l then some Cause.lookBehindTooFar
    else if l ≠ h then some .lookBehindWidth else none
  set { r with postponed := r.postponed.or cause? }
  return l

def pushItem (n : Node) (items : List (Node × ItemKind)) : List (Node × ItemKind) := (n, .other) :: items

def ofItems (items : List (Node × ItemKind)) : Node := Node.ofList (items.reverse.map Prod.fst)

/-- reads what a group holds -/
def nested {β : Type} (read : Read β) : Read β := do
  let levels := (← get).levels
  if levels = 0 then throw .tooDeep
  else
    modify fun r => { r with levels := levels - 1 }
    let x ← read
    modify fun r => { r with levels }
    return x

mutual

/-- alternatives up to a closing parenthesis or the end; at the top level flags can be changed inside -/
def alternatives (top : Bool) (flags : Flags) (first : Bool) : (fuel : Nat) → Read Node
  | 0 => return .empty
  | fuel + 1 => do
    let n ← sequence flags (top && first) [] fuel
    if ← accept '|' then
      let whole := (← get).flags
      return .alt n (← alternatives top (if top then whole else flags) false fuel)
    else return n

/-- items up to a bar, a closing parenthesis or the end, the last one first in `items` -/
def sequence (flags : Flags) (first : Bool) (items : List (Node × ItemKind)) :
    (fuel : Nat) → Read Node
  | 0 => return .empty
  | fuel + 1 => do
    match ← peek with
    | none | some (.plain '|') | some (.plain ')') => return ofItems items
    | some t =>
      let _ ← take
      match t with
      | .dangling => refuse .danglingEscape 0
      | .escaped c => sequence flags first ((← escape flags c) :: items) fuel
      | .plain c =>
        if flags.contains .verbose ∧ isAsciiSpace c then sequence flags first items fuel
        else if flags.contains .verbose ∧ c = '#' then
          skipLine ((← get).rest.length + 1)
          sequence flags first items fuel
        else match c with
          | '[' => sequence flags first (pushItem (← charSet flags) items) fuel
          | '.' => sequence flags first (pushItem (.any (flags.contains .dotAll)) items) fuel
          | '^' =>
            let a := if flags.contains .multiline then Anchor.lineStart else .start
            sequence flags first ((.anchor a, .anchor) :: items) fuel
          | '$' =>
            let a := if flags.contains .multiline then Anchor.lineFinish else .finish
            sequence flags first ((.anchor a, .anchor) :: items) fuel
          | '(' => group flags first items ((← get).pos - 1) fuel
          | _ =>
            if c = '?' ∨ c = '*' ∨ c = '+' ∨ c = '\x7b' then
              let start := (← get).pos
              match ← bounds c with
              | some (least, most) =>
                sequence flags first (← repeatLast flags start least most items) fuel
              | none => sequence flags first (pushItem (one flags c.toNat) items) fuel
            else sequence flags first (pushItem (one flags c.toNat) items) fuel

/-- a group whose parenthesis at `start` has been taken, and the items behind it -/
def group (flags : Flags) (first : Bool) (items : List (Node × ItemKind)) (start : Nat) :
    (fuel : Nat) → Read Node
  | 0 => return .empty
  | fuel + 1 => do
    if ← accept '?' then
      match ← take with
      | none => refuse .unexpectedEnd 0
      | some (.plain 'P') =>
        if ← accept '<' then
          let name ← nameUntil '>' "group name"
          checkName name
          let index ← openGroup (some name)
          let n ← nested (alternatives false flags false fuel)
          close start
          closeGroup index n
          sequence flags first (pushItem (.group index n) items) fuel
        else if ← accept '=' then
          let name ← nameUntil ')' "group name"
          checkName name
          let r ← get
          match r.names.lookup name with
          | none => refuse (.unknownGroup name) (name.length + 1)
          | some index =>
            if !r.isClosed index then refuse .openGroup (name.length + 1)
            else
              checkBarrier index
              sequence flags first (pushItem (.backref index (Flags.fold flags)) items) fuel
        else
          match ← take with
          | none => refuse .unexpectedEnd 0
          | some t => refuse (.unknownExtension ("P" ++ t.text)) (t.width + 2)
      | some (.plain ':') =>
        let n ← nested (alternatives false flags false fuel)
        close start
        sequence flags first (pushItem n items) fuel
      | some (.plain '#') =>
        skipComment start ((← get).rest.length + 1)
        sequence flags first items fuel
      | some (.plain '=') => look flags first items start false fuel
      | some (.plain '!') => look flags first items start true fuel
      | some (.plain '<') =>
        match ← take with
        | none => refuse .unexpectedEnd 0
        | some (.plain '=') => lookBehind flags first items start false fuel
        | some (.plain '!') => lookBehind flags first items start true fuel
        | some t => refuse (.unknownExtension ("<" ++ t.text)) (t.width + 2)
      | some (.plain '(') =>
        let index ← conditionGroup
        checkBarrier index
        let yes ← nested (sequence flags false [] fuel)
        let no ← if ← accept '|' then
            let no ← nested (sequence flags false [] fuel)
            if (← peek) = some (.plain '|') then refuse .threeBranches 0 else pure no
          else pure .empty
        close start
        sequence flags first (pushItem (.conditional index yes no) items) fuel
      | some (.plain '>') =>
        let n ← nested (alternatives false flags false fuel)
        close start
        sequence flags first (pushItem (.atomic n) items) fuel
      | some t =>
        match Token.among? (fun c => c = '-' || (Flag.ofLetter? c).isSome) t with
        | none => refuse (.unknownExtension t.text) (t.width + 1)
        | some c =>
          match ← inlineFlags c with
          | some (on, off) =>
            let n ← nested (alternatives false (Flags.within flags on off) false fuel)
            close start
            sequence flags first (pushItem n items) fuel
          | none =>
            if !first ∨ !items.isEmpty then refuse .lateFlags ((← get).pos - start)
            else sequence (← get).flags first items fuel
    else
      let index ← openGroup none
      let n ← nested (alternatives false flags false fuel)
      close start
      closeGroup index n
      sequence flags first (pushItem (.group index n) items) fuel

/-- the rest of a look-ahead, and the items behind it -/
def look (flags : Flags) (first : Bool) (items : List (Node × ItemKind)) (start : Nat)
    (negated : Bool) : (fuel : Nat) → Read Node
  | 0 => return .empty
  | fuel + 1 => do
    let n ← nested (alternatives false flags false fuel)
    close start
    sequence flags first (pushItem (.look none negated n) items) fuel

/-- the rest of a look-behind, and the items behind it -/
def lookBehind (flags : Flags) (first : Bool) (items : List (Node × ItemKind)) (start : Nat)
    (negated : Bool) : (fuel : Nat) → Read Node
  | 0 => return .empty
  | fuel + 1 => do
    let outer := (← get).barrier
    modify fun r => { r with barrier := r.barrier.or (some (r.groups.length + 1)) }
    let n ← nested (alternatives false flags false fuel)
    modify fun r => { r with barrier := outer }
    close start
    let behind ← checkLookBehind n
    sequence flags first (pushItem (.look (some behind) negated n) items) fuel

end

/-! ## whole expressions -/

/-- what is checked after the last token -/
def finish : Read Unit := do
  let r ← get
  if r.flags.contains .locale then throw .localeFlag
  else if r.flags.contains .ascii && r.flags.contains .unicode then throw .flagClash
  else if !r.rest.isEmpty then refuse .unbalanced 0
  else match r.awaited.find? fun a => r.groups.length < a.1 with
    | some (index, pos) => throw (.fault (.noGroup index) (some pos))
    | none =>
      match r.postponed with
      | some cause => throw (.fault cause none)
      | none => return

def expression : Read Node := do
  let r ← get
  settle r.rest
  let n ← alternatives true r.flags true (4 * r.rest.length + 8)
  finish
  return n

/-- reads a whole expression under flags given as bits; so many groups may be nested, and characters may be
called by these names -/
def read (pattern : String) (bits levels : Nat) (characters : String → Option Nat) : Except Refusal Node :=
  let cs := pattern.toList
  (expression.run
    ⟨Token.ofChars cs, cs.length, Flag.ofBits bits, [], [], none, [], none, levels, characters⟩).map Prod.fst

end ContractRisk.Regex
