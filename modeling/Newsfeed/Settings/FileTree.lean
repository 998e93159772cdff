import Newsfeed.Unicode.Table

/-!
# File trees

The files that a lookup of settings can see: whether something stands at a path, and what can be
read there. A directory with everything below it is one way to have such files; its paths are
relative to that directory.

* `FileTree.resolve?` : what stands at a path of a tree.
* `FileTree.insert` : puts something at a path and makes the directories on the way.
* `Files` : the state of the files, `Files.ofTree` : that of a tree.
* `Files.text?` : the text at a path.
-/

namespace Newsfeed

/-- A file with its bytes, or a directory. -/
inductive FileTree where
  | file (bytes : List UInt8)
  | dir (children : List (String × FileTree))
deriving Repr, Inhabited

namespace FileTree

/-- The names that a path consists of, parted by slashes. -/
def components (path : String) : List String :=
  (Unicode.parts '/' path.toList).map String.ofList

/-- The children of a directory; a file has none to look into. -/
def children? : FileTree → Option (List (String × FileTree))
  | dir cs => some cs
  | file _ => none

/-- Follows names from a place. The directories above it are held innermost first; what lies above
the outermost one counts as an empty directory. -/
def walk? (above : List FileTree) (here : FileTree) : List String → Option FileTree
  | [] => some here
  | name :: rest =>
    match here.children? with
    | none => none
    | some cs =>
      if name = "" || name = "." then walk? above here rest
      else if name = ".." then
        walk? above.tail (above.head?.getD (dir [])) rest
      else
        match cs.lookup name with
        | some child => walk? (here :: above) child rest
        | none => none

/-- What stands at a path. The empty path leads nowhere, and a path that begins with a slash leads
outside the tree. -/
def resolve? (root : FileTree) (path : String) : Option FileTree :=
  if path = "" then none
  else walk? [] (if path.toList.head? = some '/' then dir [] else root) (components path)

/-- The bytes of a file. A directory has none. -/
def bytes? : FileTree → Option (List UInt8)
  | file bytes => some bytes
  | dir _ => none

/-- Replaces a child of a directory, or adds it. -/
def setChild (name : String) (t : FileTree) : List (String × FileTree) → List (String × FileTree)
  | [] => [(name, t)]
  | c :: rest => if c.1 = name then (name, t) :: rest else c :: setChild name t rest

/-- Puts something at the end of some names. A directory that is there is kept when a directory is
put in its place. -/
def insertAt (node : FileTree) : List String → FileTree → FileTree
  | [], here =>
    match node, here with
    | dir [], dir cs => dir cs
    | _, _ => node
  | name :: rest, here =>
    let cs := (here.children?).getD []
    dir (setChild name (insertAt node rest ((cs.lookup name).getD (dir []))) cs)

/-- Puts something at a path. -/
def insert (root : FileTree) (path : String) (node : FileTree) : FileTree :=
  insertAt node ((components path).filter fun c => c ≠ "" ∧ c ≠ ".") root

end FileTree

/-- The state of the files, as a program sees it: whether something stands at a path, and the bytes
that can be read there. -/
structure Files where
  isThere : String → Bool
  bytes? : String → Option (List UInt8)

namespace Files

/-- The files of a tree. -/
def ofTree (root : FileTree) : Files where
  isThere path := (root.resolve? path).isSome
  bytes? path := (root.resolve? path).bind FileTree.bytes?

instance : Coe FileTree Files := ⟨ofTree⟩

/-- The text at a path: bytes can be read there, and they are UTF-8. -/
def text? (files : Files) (path : String) : Option String :=
  (files.bytes? path).bind fun bytes => String.fromUTF8? ⟨bytes.toArray⟩

end Files

end Newsfeed
