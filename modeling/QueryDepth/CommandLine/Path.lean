import QueryDepth.Text.Quoted
import QueryDepth.Text.Utf8

/-! Paths of files, and the files themselves as a tree. A path is kept in its plain form: parts
that lead nowhere are left out, and parts that lead upwards stay. Its parts are texts, so names with
bytes that stand for no character are not among them. -/
namespace QueryDepth

/-- A path. `root` is empty if the path is relative. -/
structure Path where
  root : String
  parts : List String
  deriving DecidableEq, Repr

namespace Path

/-- The root of a written path. Two slashes at the beginning are kept, more are the same as one. -/
def rootOf : List Char → String
  | ['/', '/'] => "//"
  | '/' :: '/' :: c :: _ => if c = '/' then "/" else "//"
  | '/' :: _ => "/"
  | _ => ""

def ofText (text : String) : Path :=
  let names := (text.toList.splitOn '/').map String.ofList
  ⟨rootOf text.toList, names.filter fun name => name != "" && name != "."⟩

def render (path : Path) : String :=
  if path.root = "" && path.parts.isEmpty then "."
  else path.root ++ "/".intercalate path.parts

/-- Whether a path holds a null character. No file has such a path, and the system is never asked
for it. -/
def holdsNull (path : Path) : Bool := path.render.toList.contains '\x00'

end Path

/-- Why a file cannot be opened. -/
structure FileFault where
  code : Nat
  reason : String
  deriving DecidableEq, Repr

namespace FileFault

def missing : FileFault := ⟨2, "No such file or directory"⟩

/-- A part of the path before the last is a file. -/
def notDirectory : FileFault := ⟨20, "Not a directory"⟩

def isDirectory : FileFault := ⟨21, "Is a directory"⟩

def tooLong : FileFault := ⟨36, "File name too long"⟩

def message (fault : FileFault) (path : Path) : String :=
  s!"[Errno {fault.code}] {fault.reason}: {quoted path.render}"

end FileFault

/-- What a name in a directory stands for. -/
inductive FileEntry where
  | file (bytes : List UInt8)
  | directory
  deriving DecidableEq, Repr

/-- Files and directories below a directory, each with the names that lead to it. The directories in
between need not be listed. -/
structure FileTree where
  entries : List (List String × FileEntry)

namespace FileTree

def find? (tree : FileTree) (names : List String) : Option FileEntry :=
  match tree.entries.lookup names with
  | some entry => some entry
  | none =>
    if tree.entries.any fun entry => names.isPrefixOf entry.1 then some .directory else none

/-- The longest path and the longest name, in bytes. -/
def longestPath : Nat := 4095

def longestName : Nat := 255

/-- Goes on along the parts of a path. The names that lead to where one is are given latest first,
and there are none where one has left the tree. -/
def follow (tree : FileTree) (names : Option (List String)) :
    List String → Except FileFault FileEntry
  | [] =>
    match names with
    | none | some [] => .ok .directory
    | some names =>
      match tree.find? names.reverse with
      | some entry => .ok entry
      | none => .error .missing
  | part :: rest =>
    match names with
    | none => if part = ".." then tree.follow none rest else .error .missing
    | some names =>
      let here := if names.isEmpty then some .directory else tree.find? names.reverse
      match here with
      | none => .error .missing
      | some (.file _) => .error .notDirectory
      | some .directory =>
        if part = ".." then
          match names with
          | [] => tree.follow none rest
          | _ :: outer => tree.follow (some outer) rest
        else if longestName < part.utf8ByteSize then .error .tooLong
        else tree.follow (some (part :: names)) rest

def read (tree : FileTree) (path : Path) : Except FileFault (List UInt8) :=
  if longestPath < path.render.utf8ByteSize then .error .tooLong
  else match tree.follow (if path.root = "" then some [] else none) path.parts with
    | .ok (.file bytes) => .ok bytes
    | .ok .directory => .error .isDirectory
    | .error fault => .error fault

end FileTree

end QueryDepth
