import ContractRisk.Value

/-!
# Data as JSON documents

JSON has no byte strings, no times and no sets, and its keys are texts. `Value.document` puts data into
these terms. Byte strings are read as texts, so bytes that are none have no document, and neither have data
that are nested too deeply or inside of themselves. Keys that become the same text stay apart until `Value.merged` joins them.
-/

namespace ContractRisk

/-- why data have no document, or why the document cannot be written -/
inductive DocumentFault where
  | noText (bytes : List UInt8)
  | keyNoText (bytes : List UInt8)
  | tooDeep
  | insideItself
  /-- a whole number has too many digits to be written -/
  | tooLong
deriving Repr, DecidableEq

namespace DocumentFault

def kind : DocumentFault → String
  | noText _ | keyNoText _ => "UnicodeDecodeError"
  | tooDeep | insideItself | tooLong => "ValueError"

def message : DocumentFault → String
  | noText bytes | keyNoText bytes => Text.Utf8.faultMessage bytes
  | tooDeep => "Circular reference detected (depth exceeded)"
  | insideItself => "Circular reference detected (id repeated)"
  | tooLong => Value.unwritable

/-- what is told of the fault when data are serialised -/
def detail : DocumentFault → String
  | noText bytes => Text.Utf8.faultText bytes
  | f => f.kind ++ ": " ++ f.message

end DocumentFault

namespace Value

/-- a `T` divides date and time of day, and a `Z` stands for universal time -/
def momentText (m : Moment) : String :=
  if m.offset = some 0 then { m with offset := none }.iso "T" ++ "Z" else m.iso "T"

mutual

/-- the text of a key -/
def keyText : Value → Except DocumentFault String
  | bool b => .ok (if b then "true" else "false")
  | int i => if Text.isWritable i then .ok (Text.intText i) else .error .tooLong
  | bytes bs => (bytes bs).asText?.elim (.error (.keyNoText bs)) .ok
  | moment m => .ok (momentText m)
  | tuple xs => (keyTexts xs).map ",".intercalate
  | v => .ok v.display

def keyTexts : List Value → Except DocumentFault (List String)
  | [] => .ok []
  | x :: xs => do
    let t ← keyText x
    let ts ← keyTexts xs
    .ok (t :: ts)

end

mutual

/-- data as a document with so many levels: a container takes one, and so does what lies in the innermost -/
def document (levels : Nat) (v : Value) : Except DocumentFault Value :=
  if levels = 0 then .error .tooDeep
  else match v with
    | around _ => .error .insideItself
    | bytes bs => (bytes bs).asText?.elim (.error (.noText bs)) fun s => .ok (text s)
    | date d => .ok (text d.iso)
    | moment m => .ok (text (momentText m))
    | list xs => (documents (levels - 1) xs).map list
    | tuple xs => (documents (levels - 1) xs).map list
    | set xs => (documents (levels - 1) xs).map list
    | map es => (documentEntries (levels - 1) es).map map
    | v => .ok v

def documents (levels : Nat) : List Value → Except DocumentFault (List Value)
  | [] => .ok []
  | x :: xs => do
    let v ← document levels x
    let vs ← documents levels xs
    .ok (v :: vs)

def documentEntries (levels : Nat) :
    List (Value × Value) → Except DocumentFault (List (Value × Value))
  | [] => .ok []
  | (k, v) :: es => do
    let t ← keyText k
    let w ← document levels v
    let fs ← documentEntries levels es
    .ok ((text t, w) :: fs)

end

/-- the levels that there are for the document of a value under a key -/
def documentLevels : Nat := 255

mutual

/-- of entries with the same key, the last value at the place of the first -/
def merged : Value → Value
  | list xs => list (mergedAll xs)
  | map es => map ((mergedEntries es).foldl (fun fs e => putEntry e.1 e.2 fs) [])
  | v => v

def mergedAll : List Value → List Value
  | [] => []
  | x :: xs => merged x :: mergedAll xs

def mergedEntries : List (Value × Value) → List (Value × Value)
  | [] => []
  | (k, v) :: es => (k, merged v) :: mergedEntries es

end

end Value

/-- the documents of values under text keys -/
def documentFields (fs : List (String × Value)) : Except DocumentFault (List (String × Value)) :=
  fs.mapM fun f => (f.2.document Value.documentLevels).map (f.1, ·)

end ContractRisk
