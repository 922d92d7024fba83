import SecureBinding.Go.PathSound

/-!
# Go.Os

A file tree without symbolic links, and the functions of `os` that read and write it.

A path of the tree is the list of its elements from the root. The system may refuse to open a
path for a reason of its own (permissions, a name that is too long); which paths those are is
part of the tree.
-/

namespace SecureBinding.Go

open Go.Path

/-- What a path of the tree leads to. -/
inductive Node
  | dir
  | file (content : Bytes)
  deriving Repr, DecidableEq

structure Tree where
  /-- The working directory. -/
  cwd : List GoString
  nodes : List (List GoString × Node)
  /-- Why the system would not read or write a path. -/
  refusesRead : List GoString → Option GoString := fun _ => none
  refusesWrite : List GoString → Option GoString := fun _ => none

namespace Tree

variable (t : Tree)

/-- The elements a path stands for. -/
def resolve (path : GoString) : List GoString := Path.resolve t.cwd path

def lookup (p : List GoString) : Option Node := t.nodes.lookup p

def set (p : List GoString) (node : Node) : Tree :=
  { t with nodes := (p, node) :: t.nodes.filter fun n => n.1 != p }

def isDir (p : List GoString) : Bool := p.isEmpty || t.lookup p == some .dir

def readFile (path : GoString) : Except GoString Bytes :=
  match t.refusesRead (t.resolve path) with
  | some err => .error err
  | none =>
    match t.lookup (t.resolve path) with
    | some (.file content) => .ok content
    | some .dir => .error (lit "is a directory")
    | none => .error (lit "no such file or directory")

/-- `os.WriteFile`, if it writes everything. -/
def writeFile (path : GoString) (data : Bytes) : Except GoString Tree :=
  match t.refusesWrite (t.resolve path) with
  | some err => .error err
  | none =>
    if ¬t.isDir (t.resolve path).dropLast then .error (lit "no such file or directory")
    else if t.isDir (t.resolve path) then .error (lit "is a directory")
    else .ok (t.set (t.resolve path) (.file data))

/-- The directories on the way from `done`, created where there is nothing, and the error. -/
def mkdirFrom (t : Tree) (done : List GoString) : List GoString → Tree × Option GoString
  | [] => (t, none)
  | e :: rest =>
    match t.lookup (done ++ [e]) with
    | some .dir => mkdirFrom t (done ++ [e]) rest
    | some (.file _) => (t, some (lit "not a directory"))
    | none =>
      match t.refusesWrite (done ++ [e]) with
      | some err => (t, some err)
      | none => mkdirFrom (t.set (done ++ [e]) .dir) (done ++ [e]) rest

def mkdirAll (path : GoString) : Tree × Option GoString := t.mkdirFrom [] (t.resolve path)

end Tree

end SecureBinding.Go
