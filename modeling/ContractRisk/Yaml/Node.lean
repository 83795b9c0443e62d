import ContractRisk.Yaml.Tag
import ContractRisk.Yaml.Token

/-!
# Nodes

A `Node` is a tagged scalar, list or map. `Node.ofTokens` builds the one node of a document. An alias is
the node of its anchor; inside that node itself it only says which one that is.
-/

namespace ContractRisk.Yaml

inductive Node where
  | scalar (tag : Tag) (text : String)
  | list (tag : Tag) (items : List Node)
  | map (tag : Tag) (entries : List (Node × Node))
  /-- the list or map that the node is inside of, so many levels further out -/
  | around (tag : Tag) (up : Nat)

namespace Node

def tag : Node → Tag
  | scalar t _ | list t _ | map t _ | around t _ => t

/-- the node of a place where none is written -/
def absent : Node := scalar (Tag.ofPlain "") ""

end Node

/-! ## what is left to build from -/

/-- what has an anchor -/
inductive Anchored where
  | node (n : Node)
  /-- a collection that is being built, with the levels that were left in front of it -/
  | opened (tag : Tag) (levels : Nat)

structure Stock where
  tokens : List Token
  anchors : List (String × Anchored)
  /-- what the handles of tags mean -/
  handles : List (String × String)
  /-- how many collections may still be opened inside each other -/
  levels : Nat

abbrev Build := StateT Stock (Except Fault)

namespace Build

def refuse {β : Type} : Build β := fun _ => .error .malformed

def peek : Build (Option Token) := fun s => .ok (s.tokens.head?, s)

def drop : Build Unit := fun s => .ok ((), { s with tokens := s.tokens.drop 1 })

/-- is the next token one of these? -/
def sees (ts : List Token) : Build Bool := fun s => .ok (s.tokens.head?.any ts.contains, s)

/-- takes the next token if it is this one -/
def takes (t : Token) : Build Bool := fun s =>
  match s.tokens with
  | u :: r => if u = t then .ok (true, { s with tokens := r }) else .ok (false, s)
  | [] => .ok (false, s)

def expect (t : Token) : Build Unit := do if ← takes t then return () else refuse

def putAnchor (name : Option String) (x : Anchored) : Build Unit := fun s =>
  match name with
  | none => .ok ((), s)
  | some a => .ok ((), { s with anchors := (a, x) :: s.anchors })

/-- builds a collection; its anchor can be seen inside of it -/
def opening {β : Type} (name : Option String) (tag : Tag) (build : Build β) : Build β := do
  putAnchor name (.opened tag (← get).levels)
  build

/-- an anchor must be new -/
def newAnchor (name : Option String) : Build Unit := fun s =>
  if name.any fun a => (s.anchors.lookup a).isSome then .error .malformed else .ok ((), s)

/-- builds what a collection holds -/
def nested {β : Type} (build : Build β) : Build β := fun s =>
  if s.levels = 0 then .error .tooDeep
  else (build { s with levels := s.levels - 1 }).map fun (x, t) => (x, { t with levels := s.levels })

def find (name : String) : Build Node := fun s =>
  match s.anchors.lookup name with
  | some (.node n) => .ok (n, s)
  | some (.opened tag levels) => .ok (.around tag (levels - s.levels), s)
  | none => .error .malformed

/-! ## properties of nodes -/

/-- the tag of a node as it is written; the mark alone says nothing -/
inductive Given where
  | none
  | mark
  | tag (t : Tag)

def anchorName? : Build (Option String) := do
  match ← peek with
  | some (.anchor name) => drop; return some name
  | _ => return none

def tagText? : Build (Option String) := fun s =>
  match s.tokens with
  | .tag none suffix :: r => .ok (some suffix, { s with tokens := r })
  | .tag (some handle) suffix :: r =>
    match s.handles.lookup handle with
    | some meaning => .ok (some (meaning ++ suffix), { s with tokens := r })
    | none => .error .malformed
  | _ => .ok (none, s)

def given : Option String → Given
  | none => .none
  | some "!" => .mark
  | some s => .tag (.ofText s)

def Given.orElse (t : Tag) : Given → Tag
  | .none | .mark => t
  | .tag u => u

/-- anchor and tag in any order -/
def properties : Build (Option String × Option String) := do
  match ← anchorName? with
  | some name => return (some name, ← tagText?)
  | none =>
    let tag ← tagText?
    if tag.isSome then return (← anchorName?, tag) else return (none, none)

/-- the node of a scalar that is written out -/
def scalarNode (tag : Given) (text : String) (isPlain : Bool) : Node :=
  let byText := Node.scalar (.ofPlain text) text
  match tag, isPlain with
  | .none, true | .mark, _ => byText
  | .none, false => .scalar .text text
  | .tag t, _ => .scalar t text

/-! ## nodes -/

mutual

/-- a node; blocks only if `block`, lists without a block of their own only if `bare` -/
def node (block bare : Bool) : (fuel : Nat) → Build Node
  | 0 => refuse
  | fuel + 1 => do
    match ← peek with
    | some (.alias name) => drop; find name
    | _ =>
      let (anchor, tagText) ← properties
      newAnchor anchor
      content block bare anchor (given tagText) (anchor.isSome || tagText.isSome) fuel

/-- what follows the properties -/
def content (block bare : Bool) (anchor : Option String) (tag : Given) (hasProperties : Bool) :
    (fuel : Nat) → Build Node
  | 0 => refuse
  | fuel + 1 => do
    let listTag := tag.orElse .list
    let mapTag := tag.orElse .map
    match ← peek with
    | some .entry =>
      if bare then
        close anchor (.list listTag (← opening anchor listTag (nested (bareItems fuel))))
      else absent
    | some (.scalar text isPlain) => drop; close anchor (scalarNode tag text isPlain)
    | some .openList =>
      drop
      close anchor (.list listTag (← opening anchor listTag (nested (flowItems true fuel))))
    | some .openMap =>
      drop
      close anchor (.map mapTag (← opening anchor mapTag (nested (flowEntries true fuel))))
    | some .listBlock =>
      if block then
        drop
        close anchor (.list listTag (← opening anchor listTag (nested (blockItems fuel))))
      else absent
    | some .mapBlock =>
      if block then
        drop
        close anchor (.map mapTag (← opening anchor mapTag (nested (blockEntries fuel))))
      else absent
    | _ => absent
where
  close (anchor : Option String) (n : Node) : Build Node := do
    putAnchor anchor (.node n)
    return n
  /-- nothing is written; the properties must say so -/
  absent : Build Node :=
    if hasProperties then
      close anchor (match tag with
        | .tag t => .scalar t ""
        | _ => Node.absent)
    else refuse

/-- a node, or nothing in front of some tokens -/
def nodeUnless (stops : List Token) (block bare : Bool) : (fuel : Nat) → Build Node
  | 0 => refuse
  | fuel + 1 => do
    if ← sees stops then return Node.absent else node block bare fuel

def blockItems : (fuel : Nat) → Build (List Node)
  | 0 => refuse
  | fuel + 1 => do
    if ← takes .entry then
      let n ← nodeUnless [.entry, .blockEnd] true false fuel
      return n :: (← blockItems fuel)
    else
      expect .blockEnd
      return []

def bareItems : (fuel : Nat) → Build (List Node)
  | 0 => refuse
  | fuel + 1 => do
    if ← takes .entry then
      let n ← nodeUnless [.entry, .key, .value, .blockEnd] true false fuel
      return n :: (← bareItems fuel)
    else return []

def blockEntries : (fuel : Nat) → Build (List (Node × Node))
  | 0 => refuse
  | fuel + 1 => do
    let stops := [.key, .value, .blockEnd]
    if ← takes .key then
      let k ← nodeUnless stops true true fuel
      let v ← if ← takes .value then nodeUnless stops true true fuel else pure Node.absent
      return (k, v) :: (← blockEntries fuel)
    else
      expect .blockEnd
      return []

/-- the entry of a map behind its key mark, inside brackets -/
def flowEntry (closing : Token) : (fuel : Nat) → Build (Node × Node)
  | 0 => refuse
  | fuel + 1 => do
    let k ← nodeUnless [.value, .comma, closing] false false fuel
    let v ← if ← takes .value then nodeUnless [.comma, closing] false false fuel else pure Node.absent
    return (k, v)

def flowItems (isFirst : Bool) : (fuel : Nat) → Build (List Node)
  | 0 => refuse
  | fuel + 1 => do
    if ← takes .closeList then return []
    else
      if !isFirst then expect .comma
      if ← takes .closeList then return []
      else
        let n ← if ← takes .key then do
            let e ← nested (flowEntry .closeList fuel)
            pure (Node.map .map [e])
          else node false false fuel
        return n :: (← flowItems false fuel)

def flowEntries (isFirst : Bool) : (fuel : Nat) → Build (List (Node × Node))
  | 0 => refuse
  | fuel + 1 => do
    if ← takes .closeMap then return []
    else
      if !isFirst then expect .comma
      if ← takes .closeMap then return []
      else
        let e ← if ← takes .key then flowEntry .closeMap fuel
          else do
            let k ← node false false fuel
            pure (k, Node.absent)
        return e :: (← flowEntries false fuel)

end

/-! ## documents -/

def standardHandles : List (String × String) := [("!", "!"), ("!!", Tag.standardMark)]

/-- reads directives: one version at most, no handle twice -/
def directives (versioned : Bool) (handles : List (String × String)) :
    List Token → Except Fault (List (String × String) × List Token)
  | .version major :: r =>
    if versioned || major != 1 then .error .malformed else directives true handles r
  | .handle name meaning :: r =>
    if (handles.lookup name).isSome then .error .malformed
    else directives versioned ((name, meaning) :: handles) r
  | .otherDirective :: r => directives versioned handles r
  | r => .ok (handles, r)

def startsExplicitly : List Token → Bool
  | .version _ :: _ | .handle .. :: _ | .otherDirective :: _ | .documentStart :: _ => true
  | _ => false

/-- the node of a document behind its start -/
def document (levels : Nat) (handles : List (String × String)) (ts : List Token) :
    Except Fault Node := do
  let stops : List Token → Bool := fun ts => ts.isEmpty || startsExplicitly ts ||
    ts.head? == some .documentEnd
  let (n, s) ← if stops ts then Except.ok (Node.absent, Stock.mk ts [] handles levels)
    else (node true false (6 * ts.length + 6)).run ⟨ts, [], handles, levels⟩
  if (s.tokens.dropWhile (· == .documentEnd)).isEmpty then return n else .error .malformed

end Build

/-- the node of the one document, if there is a document; so many collections may be nested -/
def Node.ofTokens (levels : Nat) (ts : List Token) : Except Fault (Option Node) :=
  if ts.isEmpty then .ok none
  else if Build.startsExplicitly ts then
    match Build.directives false [] ts with
    | .error f => .error f
    | .ok (handles, .documentStart :: r) =>
      (Build.document levels (handles ++ Build.standardHandles) r).map some
    | .ok _ => .error .malformed
  else if ts.head? = some .documentEnd then .error .malformed
  else (Build.document levels Build.standardHandles ts).map some

end ContractRisk.Yaml
