import ContractRisk.Text.Lines
import ContractRisk.Text.Quoted
import ContractRisk.Text.Search
import ContractRisk.Text.Utf8

/-!
# Paths

A path is shown with single slashes and without parts that stand for the place itself. A `FileTree` says
what is found at a path; `FileTree.ofList` is the tree of a folder that holds the given files.
-/

namespace ContractRisk

namespace Path

/-- the slashes in front: two stay two, any other number is one -/
def root (cs : List Char) : List Char :=
  match cs.takeWhile (· == '/') with
  | [] => []
  | ['/', '/'] => ['/', '/']
  | _ => ['/']

/-- the parts that lead somewhere -/
def parts (cs : List Char) : List (List Char) :=
  (Text.splitOn '/' cs).filter fun p => !p.isEmpty && p != ['.']

def shown (path : String) : String :=
  let cs := path.toList
  let text := root cs ++ (['/'].intercalate (parts cs))
  if text.isEmpty then "." else String.ofList text

end Path

/-! ## trees of files -/

/-- why nothing can be read at a path -/
inductive FileFault where
  | missing
  /-- the way leads through a file -/
  | noFolder
  | folder
  | nameTooLong
  /-- reading is not allowed -/
  | denied
deriving Repr, DecidableEq

namespace FileFault

def number : FileFault → Nat
  | missing => 2
  | denied => 13
  | noFolder => 20
  | folder => 21
  | nameTooLong => 36

def reason : FileFault → String
  | missing => "No such file or directory"
  | denied => "Permission denied"
  | noFolder => "Not a directory"
  | folder => "Is a directory"
  | nameTooLong => "File name too long"

/-- number, reason and the path as it is shown -/
def message (f : FileFault) (path : String) : String :=
  "[Errno " ++ Text.natText f.number ++ "] " ++ f.reason ++ ": " ++ Text.quoted (Path.shown path)

/-- is it known that there is no file at the path? -/
def isAbsence : FileFault → Bool
  | missing | noFolder | folder => true
  | nameTooLong | denied => false

end FileFault

/-- the bytes of the file at a path, or why there are none -/
abbrev FileTree := String → Except FileFault (List UInt8)

/-- why no text can be read at a path -/
inductive TextFault where
  /-- a path cannot hold a zero character -/
  | noPath
  | file (f : FileFault)
  /-- the bytes are no text -/
  | noText
deriving Repr, DecidableEq

/-- the text of the file at a path, every line end a line feed -/
def FileTree.text (files : FileTree) (path : String) : Except TextFault (List Char) :=
  if path.toList.contains '\x00' then .error .noPath
  else match files path with
  | .error f => .error (.file f)
  | .ok bytes =>
    match Text.Utf8.decode bytes with
    | .ok cs => .ok (Text.unifyBreaks cs)
    | .error _ => .error .noText

/-- a file with its bytes, or an empty folder, at a place under the folder of the tree -/
structure FileEntry where
  place : List (List Char)
  bytes : Option (List UInt8)

namespace FileEntry

def ofName (name : String) (bytes : Option (List UInt8)) : FileEntry :=
  ⟨Path.parts name.toList, bytes⟩

/-- is the place a folder because of this entry? -/
def opens (e : FileEntry) (place : List (List Char)) : Bool :=
  place.isPrefixOf e.place && (place.length < e.place.length || e.bytes.isNone)

end FileEntry

namespace FileTree

def isFolder (es : List FileEntry) (place : List (List Char)) : Bool :=
  place.isEmpty || es.any (·.opens place)

/-- the bytes of the file at a place -/
def bytes? (es : List FileEntry) (place : List (List Char)) : Option (List UInt8) :=
  es.findSome? fun e => if e.place = place then e.bytes else none

/-- the longest name of a file, and the longest path, in bytes -/
def nameLimit : Nat := 255
def pathLimit : Nat := 4095

/-- the place to which the parts of a path lead from a folder -/
def walk (es : List FileEntry) (place : List (List Char)) :
    List (List Char) → Except FileFault (List (List Char))
  | [] => .ok place
  | part :: rest =>
    if (bytes? es place).isSome then .error .noFolder
    else if !isFolder es place then .error .missing
    else if nameLimit < (Text.Utf8.encode part).length then .error .nameTooLong
    else if part = ['.', '.'] then walk es place.dropLast rest
    else walk es (place ++ [part]) rest

def at? (es : List FileEntry) (place : List (List Char)) : Except FileFault (List UInt8) :=
  match bytes? es place with
  | some bytes => .ok bytes
  | none => .error (if isFolder es place then .folder else .missing)

/-- the tree of a folder with these files, outside of which there is nothing -/
def ofList (es : List FileEntry) : FileTree := fun path =>
  let cs := path.toList
  if pathLimit < (Text.Utf8.encode cs).length then .error .nameTooLong
  else if Path.root cs ≠ [] then .error (if (Path.parts cs).isEmpty then .folder else .missing)
  else match walk es [] (Path.parts cs) with
    | .error f => .error f
    | .ok place => at? es place

end FileTree

end ContractRisk
