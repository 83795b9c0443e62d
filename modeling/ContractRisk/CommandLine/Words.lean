import ContractRisk.Text.Numeral
import ContractRisk.Text.Quoted
import ContractRisk.Text.Search

/-!
# Words of a command line

A `Grammar` lists the switches of a command and says what its other arguments are. `Grammar.read` takes the
words of a command line for what they are and gives the acts that they ask for, in order, with the words
that are left over and the fault at which reading stopped.

A long switch may be shortened as long as no other one starts the same way, and may have its value behind an
equals sign. Short switches may share one word. Behind a word of two dashes no word is a switch.
-/

namespace ContractRisk.CommandLine

inductive ArgumentFault where
  | ambiguous (word : String) (names : List String)
  | noValue (argument : String)
  /-- a value for a switch that takes none -/
  | strayValue (argument value : String)
  | badChoice (argument value : String) (choices : List String)
  | badNumber (argument kind value : String)
  | missing (argument : String)
  | unrecognized (words : List String)
deriving Repr, DecidableEq

namespace ArgumentFault

/-- a complaint about one argument -/
def about (argument complaint : String) : String := "argument " ++ argument ++ ": " ++ complaint

def message : ArgumentFault → String
  | ambiguous word names =>
    "ambiguous option: " ++ word ++ " could match " ++ ", ".intercalate names
  | noValue argument => about argument "expected one argument"
  | strayValue argument value =>
    about argument ("ignored explicit argument " ++ Text.quoted value)
  | badChoice argument value choices =>
    about argument ("invalid choice: " ++ Text.quoted value ++ " (choose from " ++
      ", ".intercalate (choices.map Text.quoted) ++ ")")
  | badNumber argument kind value =>
    about argument ("invalid " ++ kind ++ " value: " ++ Text.quoted value)
  | missing argument => "the following arguments are required: " ++ argument
  | unrecognized words => "unrecognized arguments: " ++ " ".intercalate words

end ArgumentFault

structure Switch (κ : Type) where
  key : κ
  names : List String
  takesValue : Bool

/-- the name of a switch in messages -/
def Switch.label {κ : Type} (s : Switch κ) : String := "/".intercalate s.names

/-- what the arguments are that belong to no switch -/
inductive Operand where
  | none
  | single
  /-- one argument with all words behind it -/
  | command
deriving Repr, DecidableEq

structure Grammar (κ : Type) where
  switches : List (Switch κ)
  operand : Operand

inductive Act (κ : Type) where
  | switch (s : Switch κ) (value : Option String)
  | operand (words : List String)

/-! ## kinds of words -/

/-- a value in the same word as its switch -/
structure Attached where
  /-- does it stand behind an equals sign? -/
  marked : Bool
  text : List Char

inductive Word (κ : Type) where
  | plain
  /-- the word of two dashes -/
  | dashes
  /-- it looks like a switch, but is none -/
  | unknown
  | switch (s : Switch κ) (short : Bool) (value : Option Attached)

variable {κ : Type}

namespace Grammar

/-- all names with their switches, in order -/
def names (g : Grammar κ) : List (List Char × Switch κ) :=
  g.switches.flatMap fun s => s.names.map fun n => (n.toList, s)

def find? (g : Grammar κ) (name : List Char) : Option (Switch κ) := g.names.lookup name

/-- the text before the first equals sign, and the text behind it if there is one -/
def cut (cs : List Char) : List Char × Option Attached :=
  match cs.dropWhile (· ≠ '=') with
  | _ :: text => (cs.takeWhile (· ≠ '='), some ⟨true, text⟩)
  | [] => (cs, none)

def isShort (name : List Char) : Bool := name.drop 1 |>.head? |>.any (· ≠ '-')

/-- the switches that a word may stand for, by name, when it is no name itself -/
def candidates (g : Grammar κ) (cs : List Char) : List (List Char × Word κ) :=
  if isShort cs then
    g.names.filterMap fun (name, s) =>
      if name = cs.take 2 then some (name, .switch s true (some ⟨false, cs.drop 2⟩))
      else if cs.isPrefixOf name then some (name, .switch s (isShort name) none)
      else none
  else
    let (start, value) := cut cs
    (g.names.filter fun n => start.isPrefixOf n.1).map fun (name, s) =>
      (name, .switch s (isShort name) value)

/-- a minus sign with digits, among them perhaps a point that is not the last character -/
def isNegativeNumber (cs : List Char) : Bool :=
  match cs with
  | '-' :: r =>
    match r.dropWhile Text.isDigit with
    | [] | ['\n'] => r.head?.any Text.isDigit
    | '.' :: t =>
      t.head?.any Text.isDigit &&
        (t.dropWhile Text.isDigit == [] || t.dropWhile Text.isDigit == ['\n'])
    | _ => false
  | _ => false

/-- the kind of a word that starts with a dash and is longer than that -/
def kindOf (g : Grammar κ) (cs : List Char) : Except ArgumentFault (Word κ) :=
  let (start, value) := cut cs
  match g.find? start, value with
  | some s, some _ => .ok (.switch s (isShort start) value)
  | _, _ =>
    match g.candidates cs with
    | [(_, word)] => .ok word
    | [] => .ok (if isNegativeNumber cs || cs.contains ' ' then .plain else .unknown)
    | several => .error (.ambiguous (String.ofList cs) (several.map fun c => String.ofList c.1))

def word (g : Grammar κ) (cs : List Char) : Except ArgumentFault (Word κ) :=
  match cs with
  | '-' :: r =>
    match g.find? cs with
    | some s => .ok (.switch s (isShort cs) none)
    | none => if r.isEmpty then .ok .plain else g.kindOf cs
  | _ => .ok .plain

/-- the words with their kinds -/
def words (g : Grammar κ) : List String → Except ArgumentFault (List (String × Word κ))
  | [] => .ok []
  | w :: r =>
    if w = "--" then .ok ((w, .dashes) :: r.map fun v => (v, .plain))
    else do
      let kind ← g.word w.toList
      let rest ← g.words r
      return (w, kind) :: rest

/-! ## switches that share a word -/

/-- what a word of switches leaves to do -/
inductive Tail (κ : Type) where
  | done
  /-- the next word is the value of this switch -/
  | value (s : Switch κ)
  /-- the end of the word is no switch -/
  | leftover (text : List Char)

/-- the acts of a short switch and of those that its word goes on with -/
def chain (g : Grammar κ) (s : Switch κ) :
    List Char → Except ArgumentFault (List (Act κ) × Tail κ)
  | [] => .ok (if s.takesValue then ([], .value s) else ([.switch s none], .done))
  | '=' :: text =>
    if s.takesValue then .ok ([.switch s (some (String.ofList text))], .done)
    else .error (.strayValue s.label (String.ofList text))
  | c :: r =>
    if s.takesValue then .ok ([.switch s (some (String.ofList (c :: r)))], .done)
    else if c = '-' then .error (.strayValue s.label (String.ofList (c :: r)))
    else match g.find? ['-', c] with
      | none => .ok ([.switch s none], .leftover ('-' :: c :: r))
      | some t => (g.chain t r).map fun (acts, tail) => (.switch s none :: acts, tail)

/-- the acts of one word of switches, and what is left to do -/
def unpack (g : Grammar κ) (s : Switch κ) (short : Bool) (value : Option Attached) :
    Except ArgumentFault (List (Act κ) × Tail κ) :=
  match value with
  | none => g.chain s []
  | some v =>
    if s.takesValue then .ok ([.switch s (some (String.ofList v.text))], .done)
    else if v.marked || !short || v.text.isEmpty then
      .error (.strayValue s.label (String.ofList v.text))
    else g.chain s v.text

/-! ## reading -/

/-- what the words of a command line ask for -/
structure Reading (κ : Type) where
  acts : List (Act κ)
  /-- words that nothing stands for -/
  extras : List String
  fault : Option ArgumentFault

namespace Reading

def empty : Reading κ := ⟨[], [], none⟩

def stopped (f : ArgumentFault) : Reading κ := ⟨[], [], some f⟩

def after (r : Reading κ) (acts : List (Act κ)) : Reading κ := { r with acts := acts ++ r.acts }

def leaving (r : Reading κ) (extras : List String) : Reading κ := { r with extras := extras ++ r.extras }

end Reading

/-- whether the operand is still to come -/
inductive Stage where
  | waiting
  /-- it has just been read; two dashes behind it belong to it -/
  | taken
  | past
deriving Repr, DecidableEq

/-- the stage behind a switch -/
def Stage.passed : Stage → Stage
  | waiting => waiting
  | taken | past => past

/-- what two dashes and the words behind them ask for -/
def readPlain (g : Grammar κ) (stage : Stage) (dashes : String) (r : List String) : Reading κ :=
  match stage, g.operand, r with
  | .waiting, .single, v :: r => (Reading.empty.leaving r).after [.operand [v]]
  | .waiting, .command, _ :: _ => Reading.empty.after [.operand (dashes :: r)]
  | .taken, _, _ => Reading.empty.leaving r
  | _, _, _ => Reading.empty.leaving (dashes :: r)

/-- reads words at a stage -/
def readFrom (g : Grammar κ) (stage : Stage) : List (String × Word κ) → Reading κ
  | [] => .empty
  | (w, .plain) :: r =>
    match stage, g.operand with
    | .waiting, .single => (readFrom g .taken r).after [.operand [w]]
    | .waiting, .command => Reading.empty.after [.operand (w :: r.map Prod.fst)]
    | .waiting, .none => (readFrom g .waiting r).leaving [w]
    | _, _ => (readFrom g .past r).leaving [w]
  | (w, .dashes) :: r => g.readPlain stage w (r.map Prod.fst)
  | (w, .unknown) :: r => (readFrom g stage.passed r).leaving [w]
  | (_, .switch s short value) :: r =>
    match g.unpack s short value with
    | .error f => .stopped f
    | .ok (acts, .done) => (readFrom g stage.passed r).after acts
    | .ok (acts, .leftover text) => ((readFrom g stage.passed r).leaving [String.ofList text]).after acts
    | .ok (acts, .value t) =>
      match r with
      | (v, .plain) :: r' => (readFrom g stage.passed r').after (acts ++ [.switch t (some v)])
      | _ => .stopped (.noValue t.label)

def read (g : Grammar κ) (line : List String) : Reading κ :=
  match g.words line with
  | .error f => .stopped f
  | .ok words => g.readFrom .waiting words

end Grammar

end ContractRisk.CommandLine
