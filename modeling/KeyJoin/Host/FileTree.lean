import KeyJoin.Host.Clock
import KeyJoin.Host.RawText
import KeyJoin.Host.SystemFault

/-!
# The tree of files

Files, directories, links and devices are nodes that directories name.  A path
is walked part by part from the root or the current directory: every part but
the last must name a directory, a part that goes up leads to the directory the
walk came from, and a link is replaced by the path it holds.  Walking changes
nothing; the operations on the tree give a new tree.
-/

namespace KeyJoin

inductive Device
  | null
  | zero
  | full
  | random
  | terminal
  | ownDescriptor (number : Nat)
  deriving DecidableEq, Repr

inductive NodeContent
  | file (text : RawText)
  | directory (entries : List (RawText × Nat))
  | link (target : RawText)
  | device (device : Device)
  | fifo (pipe : Nat)
  | program (name : String)

structure Node where
  content : NodeContent
  permissions : Nat
  modified : Nat := startTime

def Node.isDirectory (node : Node) : Bool :=
  match node.content with
  | .directory _ => true
  | _ => false

def Node.isExecutable (node : Node) : Bool :=
  !node.isDirectory && node.permissions &&& 0o111 != 0

/-- The nodes by their numbers; number zero is the root. -/
structure FileTree where
  nodes : Array Node

def emptyTree : FileTree :=
  ⟨#[⟨.directory [], 0o755, startTime⟩]⟩

/-- Where a path leads: the directory it ends in, the name there and the node if there is one,
with the parts of the path that leads there without links.  `asFolder` tells that the path asks
for a directory by a slash at its end. -/
structure Place where
  folder : Nat
  name : RawText
  node? : Option Nat
  parts : List RawText
  asFolder : Bool := false

namespace FileTree

def node (tree : FileTree) (id : Nat) : Node :=
  tree.nodes.getD id ⟨.file [], 0o644, startTime⟩

def entries (tree : FileTree) (id : Nat) : List (RawText × Nat) :=
  match (tree.node id).content with
  | .directory entries => entries
  | _ => []

def modifyNode (tree : FileTree) (id : Nat) (f : Node → Node) : FileTree :=
  ⟨tree.nodes.modify id f⟩

def setContent (tree : FileTree) (id : Nat) (content : NodeContent) : FileTree :=
  tree.modifyNode id fun node => { node with content := content }

def addEntry (tree : FileTree) (folder : Nat) (name : RawText) (id : Nat) : FileTree :=
  tree.setContent folder
    (.directory ((name, id) :: (tree.entries folder).filter fun entry => entry.1 != name))

def removeEntry (tree : FileTree) (folder : Nat) (name : RawText) : FileTree :=
  tree.setContent folder (.directory ((tree.entries folder).filter fun entry => entry.1 != name))

/-- Adds a node under a name, and gives its number. -/
def addNode (tree : FileTree) (folder : Nat) (name : RawText) (node : Node) : FileTree × Nat :=
  let id := tree.nodes.size
  (addEntry ⟨tree.nodes.push node⟩ folder name id, id)

/-- How often directories name a node; a directory is also named by itself, its parent and the
directories in it. -/
def linkCount (tree : FileTree) (id : Nat) : Nat :=
  match (tree.node id).content with
  | .directory entries =>
    2 + (entries.filter fun entry => (tree.node entry.2).isDirectory).length
  | _ =>
    tree.nodes.foldl
      (fun count node =>
        match node.content with
        | .directory entries =>
          entries.foldl (fun count entry => if entry.2 = id then count + 1 else count) count
        | _ => count)
      0

/-! ## Walking -/

def longestName : Nat := 255

def longestPath : Nat := 4095

/-- The nodes from the current one back to the root, with their names. -/
abbrev Trail := List (RawText × Nat)

def Trail.place (trail : Trail) : Place :=
  match trail with
  | (name, id) :: (_, folder) :: _ =>
    ⟨folder, name, some id, (trail.map (·.1)).reverse.drop 1, false⟩
  | _ => ⟨0, [], some 0, [], false⟩

/-- Walks the parts of a path; `links` is the number of links that may still be met. -/
def walk (tree : FileTree) (follows : Bool) :
    Nat → Nat → Trail → List RawText → Except SystemFault Place
  | 0, _, _, _ => .error .tooManyLinks
  | _, _, trail, [] => .ok (Trail.place trail)
  | fuel + 1, links, trail, part :: rest =>
    let current := (trail.head?.map (·.2)).getD 0
    if !(tree.node current).isDirectory then .error .notADirectory
    else if part.isEmpty || part == ['.'] then tree.walk follows fuel links trail rest
    else if part == ['.', '.'] then
      tree.walk follows fuel links (if trail.length ≤ 1 then trail else trail.drop 1) rest
    else if longestName < part.length then .error .nameTooLong
    else
      match (tree.entries current).lookup part with
      | none =>
        if rest.all List.isEmpty then
          .ok ⟨current, part, none, ((part, 0) :: trail |>.map (·.1)).reverse.drop 1,
            !rest.isEmpty⟩
        else .error .notFound
      | some id =>
        match (tree.node id).content with
        | .link target =>
          if rest.isEmpty && !follows then .ok (Trail.place ((part, id) :: trail))
          else
            match links with
            | 0 => .error .tooManyLinks
            | links + 1 =>
              let start := if target.head? == some '/' then trail.drop (trail.length - 1) else trail
              tree.walk follows fuel links start (splitAtAll '/' target ++ rest)
        | _ => tree.walk follows fuel links ((part, id) :: trail) rest

/-- The trail to a directory given by its parts. -/
def trailTo (tree : FileTree) (parts : List RawText) : Trail :=
  parts.foldl
    (fun trail part =>
      let current := (trail.head?.map (·.2)).getD 0
      (part, ((tree.entries current).lookup part).getD tree.nodes.size) :: trail)
    [([], 0)]

/-- Where a path leads from a current directory; `follows` tells whether a link at its end is
replaced too. -/
def place (tree : FileTree) (directory : List RawText) (follows : Bool) (path : RawText) :
    Except SystemFault Place :=
  if path.isEmpty then .error .notFound
  else if path.contains '\x00' then .error .nulByte
  else if longestPath < path.length then .error .nameTooLong
  else
    let start := if path.head? == some '/' then [([], 0)] else tree.trailTo directory
    tree.walk follows (path.length + 200000) 40 start (splitAtAll '/' path)

/-- The node a path leads to. -/
def locate (tree : FileTree) (directory : List RawText) (follows : Bool) (path : RawText) :
    Except SystemFault (Nat × Place) :=
  match tree.place directory follows path with
  | .error fault => .error fault
  | .ok place =>
    match place.node? with
    | some id => .ok (id, place)
    | none => .error .notFound

/-! ## Building -/

/-- The directory of the given parts, made with those above it where they are missing. -/
def makeFolder (tree : FileTree) : Nat → List RawText → FileTree × Nat
  | folder, [] => (tree, folder)
  | folder, part :: rest =>
    match (tree.entries folder).lookup part with
    | some id => tree.makeFolder id rest
    | none =>
      let (tree, id) := tree.addNode folder part ⟨.directory [], 0o755, startTime⟩
      tree.makeFolder id rest

def pathParts (path : RawText) : List RawText :=
  (splitAtAll '/' path).filter fun part => !part.isEmpty && part != ['.']

/-- Puts a node at a path below a directory and makes the directories on the way. -/
def putNode (tree : FileTree) (directory : List RawText) (path : RawText) (node : Node) :
    FileTree :=
  let parts := (if path.head? == some '/' then [] else directory) ++ pathParts path
  match parts.getLast? with
  | none => tree
  | some name =>
    let (tree, folder) := tree.makeFolder 0 parts.dropLast
    match (tree.entries folder).lookup name, node.content with
    | some _, .directory _ => tree
    | _, _ => (tree.addNode folder name node).1

def putFile (tree : FileTree) (directory : List RawText) (path text : RawText) : FileTree :=
  tree.putNode directory path ⟨.file text, 0o644, startTime⟩

end FileTree

end KeyJoin
