import PodPolicy.Manifest.Load
import PodPolicy.Text.Encoding

/-!
# Manifest files

Files are named by paths, of which only the components count. A file is read as
a whole, decoded as UTF-8, and all its line ends become line feeds.
-/

namespace PodPolicy

open Text

/-- What a path leads to. -/
inductive FileState
  | octets (content : List UInt8)
  | missing
  | directory
  | belowFile
  | tooLong
  /-- Any other refusal of the system, by its number and its words. -/
  | refused (code : Nat) (reason : String)
deriving DecidableEq, Repr

/-- The files that a run can see, by the paths that lead to them. -/
abbrev Files := String → FileState

namespace FileState

def refusal? : FileState → Option String
  | .octets _ => none
  | .missing => some "[Errno 2] No such file or directory"
  | .directory => some "[Errno 21] Is a directory"
  | .belowFile => some "[Errno 20] Not a directory"
  | .tooLong => some "[Errno 36] File name too long"
  | .refused code reason => some s!"[Errno {code}] {reason}"

end FileState

namespace Path

/-- Two slashes at the start differ from one and from three. -/
def root : List Char → String
  | '/' :: '/' :: '/' :: _ => "/"
  | '/' :: '/' :: _ => "//"
  | '/' :: _ => "/"
  | _ => ""

def components (path : String) : List String :=
  ((path.toList.splitOn '/').map String.ofList).filter fun name => name ≠ "" && name ≠ "."

/-- A path without the components that lead nowhere. -/
def shorten (path : String) : String :=
  let short := root path.toList ++ "/".intercalate (components path)
  if short.isEmpty then "." else short

end Path

def normalLines : List Char → List Char
  | '\r' :: '\n' :: rest => '\n' :: normalLines rest
  | '\r' :: rest => '\n' :: normalLines rest
  | c :: rest => c :: normalLines rest
  | [] => []

def decodeFile (octets : List UInt8) : Except Obstacle String :=
  match utf8? octets with
  | some s => .ok (String.ofList (normalLines s.toList))
  | none => .error (.fault .undecodable)

def readFile (files : Files) (path : String) : Except Obstacle String :=
  if path.toList.contains '\x00' then .error (.fault .unusablePath)
  else
    let short := Path.shorten path
    match files short with
    | .octets content => decodeFile content
    | state => .error (.noText path ((state.refusal?.getD "") ++ ": " ++ quoted short))

def loadFile (files : Files) (path : String) : Except Obstacle (List Entries) := do
  Manifest.load (← readFile files path)

end PodPolicy
