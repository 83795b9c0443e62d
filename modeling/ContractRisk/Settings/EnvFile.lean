import ContractRisk.Text.Blank
import ContractRisk.Text.Lines

/-!
# Environment files

An environment file binds names to values, one binding a line: `NAME=value`, perhaps behind the word
`export`. Values may be quoted and then span lines; a comment starts with a number sign. A line that
cannot be read is passed over. References such as `${NAME:-default}` inside values are resolved.
-/

namespace ContractRisk.EnvFile

def isBreak (c : Char) : Bool := c == '\n' || c == '\r'

/-- a blank that does not end the line -/
def isGap (c : Char) : Bool := Text.isBlank c && !isBreak c

/-! ## values -/

/-- the text up to the closing quote, and the rest; a quote behind a backslash closes only if no later
one does -/
def quoted? (quote : Char) : List Char → Option (List Char × List Char)
  | [] => none
  | '\\' :: c :: r =>
    if c = quote then
      match quoted? quote r with
      | some (v, rest) => some ('\\' :: c :: v, rest)
      | none => some (['\\'], r)
    else (quoted? quote (c :: r)).map fun (v, rest) => ('\\' :: v, rest)
  | c :: r =>
    if c = quote then some ([], r) else (quoted? quote r).map fun (v, rest) => (c :: v, rest)

def control (c : Char) : Char :=
  match c with
  | 'a' => '\x07'
  | 'b' => '\x08'
  | 'f' => '\x0c'
  | 'n' => '\n'
  | 'r' => '\r'
  | 't' => '\t'
  | 'v' => '\x0b'
  | c => c

/-- resolves the escapes of some characters -/
def unescape (escapable : List Char) : List Char → List Char
  | '\\' :: c :: r =>
    if escapable.contains c then control c :: unescape escapable r
    else '\\' :: unescape escapable (c :: r)
  | c :: r => c :: unescape escapable r
  | [] => []

def singleEscapes : List Char := ['\\', '\'']
def doubleEscapes : List Char := ['\\', '\'', '"', 'a', 'b', 'f', 'n', 'r', 't', 'v']

/-- the text before the first number sign that follows a blank, without blanks at its end -/
def uncommented (before : List Char) : List Char → List Char
  | [] => (before.dropWhile Text.isBlank).reverse
  | c :: r =>
    if c = '#' ∧ before.head?.any Text.isBlank then (before.dropWhile Text.isBlank).reverse
    else uncommented (c :: before) r

/-- a value and the rest, or the rest at which the binding is given up -/
def value (cs : List Char) : Except (List Char) (List Char × List Char) :=
  let within (quote : Char) (escapable : List Char) (r : List Char) :=
    match quoted? quote r with
    | some (v, rest) => .ok (unescape escapable v, rest)
    | none => .error cs
  match cs with
  | '\'' :: r => within '\'' singleEscapes r
  | '"' :: r => within '"' doubleEscapes r
  | _ =>
    let line := cs.takeWhile (!isBreak ·)
    .ok (uncommented [] line, cs.dropWhile (!isBreak ·))

/-! ## bindings -/

def isKeyChar (c : Char) : Bool := c != '=' && c != '#' && !Text.isBlank c

/-- a name, none in front of a comment -/
def key (cs : List Char) : Except (List Char) (Option (List Char) × List Char) :=
  match cs with
  | '#' :: _ => .ok (none, cs)
  | '\'' :: r =>
    let name := r.takeWhile (· != '\'')
    match name, r.dropWhile (· != '\'') with
    | _ :: _, _ :: rest => .ok (some name, rest)
    | _, _ => .error cs
  | _ =>
    let name := cs.takeWhile isKeyChar
    if name.isEmpty then .error cs else .ok (some name, cs.dropWhile isKeyChar)

/-- what follows the word `export`, if it stands in front -/
def unexported (cs : List Char) : List Char :=
  match cs with
  | 'e' :: 'x' :: 'p' :: 'o' :: 'r' :: 't' :: c :: r => if isGap c then r.dropWhile isGap else cs
  | _ => cs

/-- the rest behind a comment and the end of the line -/
def endLine (cs : List Char) : Except (List Char) (List Char) :=
  let afterGap := cs.dropWhile isGap
  let cs := if afterGap.head? = some '#' then afterGap.dropWhile (!isBreak ·) else cs
  match cs.dropWhile isGap with
  | [] => .ok []
  | '\r' :: '\n' :: r => .ok r
  | c :: r => if isBreak c then .ok r else .error cs

def afterLine (cs : List Char) : List Char :=
  match cs.dropWhile (!isBreak ·) with
  | [] => []
  | _ :: r => r

abbrev Binding := String × Option String

/-- one binding, or nothing, and the rest -/
def binding (cs : List Char) : Except (List Char) (Option Binding × List Char) := do
  let cs := cs.dropWhile Text.isBlank
  if cs.isEmpty then return (none, [])
  let (name, cs) ← key (unexported cs)
  let cs := cs.dropWhile isGap
  let (v, cs) ← match cs with
    | '=' :: r => (value (r.dropWhile isGap)).map fun (v, rest) => (some v, rest)
    | _ => Except.ok (none, cs)
  let cs ← endLine cs
  return (name.map fun n => (String.ofList n, v.map String.ofList), cs)

def bindings (cs : List Char) : (fuel : Nat) → List Binding
  | 0 => []
  | fuel + 1 =>
    if cs.isEmpty then []
    else match binding cs with
      | .ok (some b, rest) => b :: bindings rest fuel
      | .ok (none, rest) => bindings rest fuel
      | .error rest => bindings (afterLine rest) fuel

/-! ## references -/

/-- a reference behind its dollar sign and brace: the name, the default and the rest -/
def reference? (cs : List Char) : Option (List Char × List Char × List Char) :=
  let name := cs.takeWhile fun c => c != '\x7d' && c != ':'
  match cs.dropWhile fun c => c != '\x7d' && c != ':' with
  | '\x7d' :: rest => some (name, [], rest)
  | ':' :: '-' :: r =>
    match r.dropWhile (· != '\x7d') with
    | _ :: rest => some (name, r.takeWhile (· != '\x7d'), rest)
    | [] => none
  | _ => none

def resolve (look : String → Option String) (cs : List Char) : (fuel : Nat) → List Char
  | 0 => []
  | fuel + 1 =>
    match cs with
    | [] => []
    | '$' :: '\x7b' :: r =>
      match reference? r with
      | some (name, standard, rest) =>
        ((look (String.ofList name)).elim standard String.toList) ++ resolve look rest fuel
      | none => '$' :: resolve look ('\x7b' :: r) fuel
    | c :: r => c :: resolve look r fuel

/-- binds a name: anew in its place, or at the end -/
def put (b : Binding) : List Binding → List Binding
  | [] => [b]
  | c :: r => if c.1 = b.1 then b :: r else c :: put b r

/-- the value of a name: of an earlier binding, which may be without one, or of a variable around the file -/
def look (outer : List (String × String)) (earlier : List Binding) (name : String) : Option String :=
  match earlier.lookup name with
  | some v => some (v.getD "")
  | none => outer.lookup name

/-- resolves references in order, each to what is bound before it -/
def resolveAll (outer : List (String × String)) (bs : List Binding) : List Binding :=
  bs.foldl (fun earlier b =>
    let v := b.2.map fun s =>
      String.ofList (resolve (look outer earlier) s.toList (s.length + 1))
    put (b.1, v) earlier) []

/-- the bindings of a file, one for each name -/
def read (outer : List (String × String)) (text : List Char) : List Binding :=
  let cs := Text.unifyBreaks text
  resolveAll outer (bindings cs (cs.length + 1))

end ContractRisk.EnvFile
