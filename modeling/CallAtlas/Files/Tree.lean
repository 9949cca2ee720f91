/-
File trees as values.

A tree maps absolute paths, as lists of names, to regular files and directories; the root is always a directory. A file
may be there without the right to read it or without the right to write it, a directory may take no new file, and the
room for what is written to a file may be limited. `locate?` walks a path the way a file system does: every directory on
the way has to exist, also when the next step leads out of it again. Writing opens a file, new or old, and can still
fail then: the file is left with what has room. `access` gives the three questions of `FileAccess` for a tree, seen from
a working directory; of these only writing changes the tree.
-/
import CallAtlas.Files.Path

namespace CallAtlas

/-- a regular file: what is in it, and what may be done with it -/
structure File where
  contents : List UInt8
  readable : Bool := true
  writable : Bool := true
  deriving DecidableEq, Repr

/-- what is in a file, if it may be read -/
def File.read? (f : File) : Option (List UInt8) :=
  if f.readable then some f.contents else none

/-- what stands at a path -/
inductive Entry where
  | file (f : File)
  | directory
  deriving DecidableEq, Repr

/-- a file tree: entries with the names that lead to them -/
structure FileTree where
  entries : List (List String × Entry) := []
  /-- directories that take no new file -/
  closed : List (List String) := []
  /-- how many bytes can be written to a file, if not any number -/
  room : Option Nat := none
  deriving DecidableEq, Repr

namespace FileTree

/-- what stands at a list of names -/
def find? (t : FileTree) (names : List String) : Option Entry :=
  if names = [] then some .directory else t.entries.lookup names

/-- a tree with another entry at a list of names -/
def put (t : FileTree) (names : List String) (e : Entry) : FileTree :=
  { t with entries := (names, e) :: t.entries.filter fun x => x.1 ≠ names }

/-- a tree with the directories that lead to a list of names, and that list's own if it is missing -/
def makeDirectories (t : FileTree) (names : List String) : FileTree :=
  (List.range (names.length + 1)).foldl (fun t n =>
    match t.find? (names.take n) with
    | some _ => t
    | none => t.put (names.take n) .directory) t

/-- a tree with a file, and with the directories that lead to it -/
def addFile (t : FileTree) (names : List String) (bytes : List UInt8) : FileTree :=
  (t.makeDirectories names.dropLast).put names (.file { contents := bytes })

/-- the names that steps from a directory lead to -/
def walk? (t : FileTree) (place : List String) : List String → Option (List String)
  | [] => some place
  | step :: r =>
    if t.find? place ≠ some .directory then none
    else if Path.isIdle step then t.walk? place r
    else if step = ".." then t.walk? place.dropLast r
    else t.walk? (place ++ [step]) r

/-- the names that a path leads to from a working directory -/
def locate? (t : FileTree) (working : List String) (path : String) : Option (List String) :=
  if path = "" then none
  else t.walk? (if path.toList.head? = some '/' then [] else working) (Text.pieces '/' path)

/-- what a path leads to -/
def at? (t : FileTree) (working : List String) (path : String) : Option Entry := do
  t.find? (← t.locate? working path)

def isFile (t : FileTree) (working : List String) (path : String) : Bool :=
  match t.at? working path with
  | some (.file _) => true
  | _ => false

def read? (t : FileTree) (working : List String) (path : String) : Option (List UInt8) :=
  match t.at? working path with
  | some (.file f) => f.read?
  | _ => none

/-- where a path can be written: at a regular file that may be written, or at a name that is missing in a directory that
takes new files -/
def target? (t : FileTree) (working : List String) (path : String) : Option (List String) := do
  let names ← t.locate? working path
  match t.find? names with
  | some (.file f) => if f.writable then some names else none
  | some .directory => none
  | none => if names.dropLast ∈ t.closed then none else some names

/-- the file at a list of names, a new one if none is there -/
def fileAt (t : FileTree) (names : List String) : File :=
  match t.find? names with
  | some (.file f) => f
  | _ => { contents := [] }

/-- what has room in a file -/
def fitting (t : FileTree) (bytes : List UInt8) : List UInt8 :=
  match t.room with
  | some room => bytes.take room
  | none => bytes

/-- writes to a file, new or old, and says whether all of it was written -/
def write (t : FileTree) (working : List String) (path : String) (bytes : List UInt8) : Bool × FileTree :=
  match t.target? working path with
  | some names =>
    (t.fitting bytes = bytes, t.put names (.file { t.fileAt names with contents := t.fitting bytes }))
  | none => (false, t)

/-- a tree seen from a working directory -/
def access (working : List String) : FileAccess (StateM FileTree) where
  isFile path := do return (← get).isFile working path
  read path := do return (← get).read? working path
  write path text := modifyGet fun t => t.write working path text.toUTF8.toList

@[simp] theorem run_isFile (t : FileTree) (working : List String) (path : String) :
    ((access working).isFile path).run t = (t.isFile working path, t) := rfl

@[simp] theorem run_read (t : FileTree) (working : List String) (path : String) :
    ((access working).read path).run t = (t.read? working path, t) := rfl

/-- what comes after an action goes on from the tree that the action leaves -/
theorem run_bind {α β : Type} {action : StateM FileTree α} {next : α → StateM FileTree β} {t t' : FileTree} {a : α}
    (h : action.run t = (a, t')) : (action >>= next).run t = (next a).run t' := by
  rw [StateT.run_bind, h]
  rfl

@[simp] theorem run_write (t : FileTree) (working : List String) (path text : String) :
    ((access working).write path text).run t = t.write working path text.toUTF8.toList := rfl

theorem lookup_filter_ne {xs : List (List String × Entry)} {names names' : List String} (h : names' ≠ names) :
    (xs.filter fun x => x.1 ≠ names).lookup names' = xs.lookup names' := by
  induction xs with
  | nil => rfl
  | cons x r ih =>
    obtain ⟨n, e⟩ := x
    by_cases hn : n = names
    · have : (names' == n) = false := by simpa [hn] using h
      rw [List.filter_cons_of_neg (by simp [hn]), ih, List.lookup_cons, this]
    · simp only [ne_eq, hn, not_false_eq_true, decide_true, List.filter_cons_of_pos, List.lookup_cons]
      split
      · rfl
      · exact ih

/-- what was put is found, and everything else is as it was -/
theorem find?_put (t : FileTree) {names : List String} (e : Entry) (names' : List String) (h : names ≠ []) :
    (t.put names e).find? names' = if names' = names then some e else t.find? names' := by
  by_cases heq : names' = names
  · subst heq
    simp [find?, put, h]
  · have hb : (names' == names) = false := by simpa using heq
    simp only [find?, put, List.lookup_cons, hb, lookup_filter_ne heq, heq, if_false]

end FileTree

end CallAtlas
