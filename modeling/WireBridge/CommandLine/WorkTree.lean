import WireBridge.Text.Identifier

/-!
# Files around a working directory

A `WorkTree` holds files by their places: the names that lead to them from the working directory, from a directory
above it, or from the root. A directory is there if it holds something or has been made. Of what is outside the
working directory only the usual directories of a system and the file that takes everything are known.

* `read?`, `write` : the text of a file, and the tree with a text in a file whose directory is there; the file then
  has the text (`fileAt?_put_self`) and no other has changed (`fileAt?_put_of_ne`);
* `makeDirectories` : the tree with a directory and all above it;
* `perform` : some effects one after the other, up to the first that fails.
-/

set_option autoImplicit false

namespace WireBridge

/-- Why a path cannot be used. -/
inductive FileFault
  | missing
  | isDirectory
  /-- A part of the path is a file. -/
  | notDirectory
  /-- A file is in the place of a directory. -/
  | inTheWay
  deriving DecidableEq, Repr

/-- What a command does to files. -/
inductive Effect
  | directory (path : String)
  | file (path text : String)
  deriving DecidableEq, Repr

/-- Where the way to a place begins. -/
inductive PlaceBase
  /-- So many directories above the working directory. -/
  | above (n : Nat)
  | root
  deriving DecidableEq, Repr

/-- A place: where the way to it begins, and the names on the way. -/
structure Place where
  base : PlaceBase
  names : List String
  deriving DecidableEq, Repr

namespace Place

def workingDirectory : Place := ⟨.above 0, []⟩

def child (p : Place) (name : String) : Place := ⟨p.base, p.names ++ [name]⟩

/-- The directory above a place; the root is above itself. -/
def parent (p : Place) : Place :=
  if p.names ≠ [] then ⟨p.base, p.names.dropLast⟩
  else
    match p.base with
    | .above n => ⟨.above (n + 1), []⟩
    | .root => p

/-- Whether a place is on the way to another. -/
def isBefore (p q : Place) : Bool := p.base = q.base && p.names.isPrefixOf q.names && p ≠ q

/-- The place that a name leads to from a directory. -/
def step (p : Place) (name : String) : Place :=
  if name = "" ∨ name = "." then p else if name = ".." then p.parent else p.child name

end Place

structure WorkTree where
  files : List (Place × String)
  directories : List Place
  deriving DecidableEq, Repr

namespace WorkTree

/-- The names in a path. -/
def namesOf (path : String) : List String := (Text.splitAt '/' path.toList).map String.ofList

def isAbsolute (path : String) : Bool := path.toList.head? = some '/'

/-- The place where the way of a path begins. -/
def startOf (path : String) : Place := if isAbsolute path then ⟨.root, []⟩ else .workingDirectory

/-- The file that is empty whatever is written to it. -/
def sink : Place := ⟨.root, ["dev", "null"]⟩

/-- The usual directories of a system. -/
def systemDirectories : List Place :=
  ["bin", "boot", "dev", "etc", "home", "lib", "media", "mnt", "opt", "proc", "root", "run", "sbin", "srv", "sys",
    "tmp", "usr", "var"].map fun name => ⟨.root, [name]⟩

/-- The tree of some files by their paths below the working directory. -/
def ofFiles (files : List (String × String)) : WorkTree :=
  ⟨(files.map fun (path, text) => (⟨.above 0, namesOf path⟩, text)) ++ [(sink, "")], systemDirectories⟩

variable (t : WorkTree)

def fileAt? (place : Place) : Option String := t.files.lookup place

def hasDirectory (place : Place) : Bool :=
  place.names.isEmpty || t.directories.contains place || t.files.any fun f => place.isBefore f.1

/-- The place that some names lead to from a directory. -/
def follow (place : Place) : List String → Except FileFault Place
  | [] => .ok place
  | name :: names =>
    if (t.fileAt? place).isSome then .error .notDirectory
    else if !t.hasDirectory place then .error .missing
    else follow (place.step name) names

/-- The place of a path. -/
def locate (path : String) : Except FileFault Place :=
  if path = "" then .error .missing else t.follow (startOf path) (namesOf path)

def read? (path : String) : Except FileFault String := do
  let place ← t.locate path
  match t.fileAt? place with
  | some text => return text
  | none => throw (if t.hasDirectory place then .isDirectory else .missing)

/-- The tree with a text at a place. -/
def put (place : Place) (text : String) : WorkTree :=
  ⟨t.files.filter (·.1 ≠ place) ++ [(place, text)], t.directories⟩

theorem fileAt?_put_self (place : Place) (text : String) : (t.put place text).fileAt? place = some text := by
  have hnone : (t.files.filter (·.1 ≠ place)).lookup place = none := by
    rw [List.lookup_eq_none_iff]
    intro f hf
    have hne : f.1 ≠ place := by simpa using (List.mem_filter.1 hf).2
    simpa using hne.symm
  rw [fileAt?, put, List.lookup_append, hnone]
  simp

theorem fileAt?_put_of_ne {place other : Place} (text : String) (h : other ≠ place) :
    (t.put place text).fileAt? other = t.fileAt? other := by
  have hfilter : ∀ fs : List (Place × String), (fs.filter (·.1 ≠ place)).lookup other = fs.lookup other := by
    intro fs
    induction fs with
    | nil => rfl
    | cons f fs ih =>
      by_cases hf : f.1 = place
      · have hother : (other == f.1) = false := by simpa [hf] using h
        rw [List.filter_cons_of_neg (by simp [hf]), ih, List.lookup_cons, hother]
      · rw [List.filter_cons_of_pos (by simpa using hf), List.lookup_cons, List.lookup_cons, ih]
  have hother : (other == place) = false := by simpa using h
  rw [fileAt?, put, List.lookup_append, hfilter, List.lookup_cons, hother]
  simp [fileAt?]

/-- The tree with a text in the file of a path; a path that ends in a slash is one of a directory. -/
def write (path text : String) : Except FileFault WorkTree := do
  let named := (namesOf path).reverse.dropWhile (· = "")
  if path.endsWith "/" then
    let directory ← t.follow (startOf path) (named.drop 1).reverse
    if t.hasDirectory directory then throw .isDirectory
  let place ← t.locate path
  if t.hasDirectory place then throw .isDirectory
  return if place = sink then t else t.put place text

/-- The tree with a directory, where the one above it is there. -/
def makeDirectory (t : WorkTree) (start : Place) (names : List String) : Except FileFault WorkTree := do
  let place ← t.follow start names
  if (t.fileAt? place).isSome then throw .inTheWay
  return if t.hasDirectory place then t else ⟨t.files, t.directories ++ [place]⟩

/-- The tree with the directory that some names lead to, given from the last to the first, and with those above it
where they are missing. -/
def makeUpwards (t : WorkTree) (start : Place) : List String → Except FileFault WorkTree
  | [] => .ok t
  | name :: above =>
    match t.makeDirectory start (name :: above).reverse with
    | .error .missing => do (← makeUpwards t start above).makeDirectory start (name :: above).reverse
    | made => made

def makeDirectories (path : String) : Except FileFault WorkTree :=
  t.makeUpwards (startOf path) ((namesOf path).filter fun n => n ≠ "" && n ≠ ".").reverse

def performOne : Effect → Except FileFault WorkTree
  | .directory path => t.makeDirectories path
  | .file path text => t.write path text

/-- The tree after some effects, and the fault that stops them. -/
def perform (t : WorkTree) : List Effect → WorkTree × Option FileFault
  | [] => (t, none)
  | e :: es =>
    match t.performOne e with
    | .ok t => perform t es
    | .error fault => (t, some fault)

/-- The files below the working directory that another tree does not have, by path. -/
def filesBeyond (before : WorkTree) : List (String × String) :=
  (t.files.filter fun f => f.1.base = .above 0 && (before.fileAt? f.1).isNone).map fun (place, text) =>
    ("/".intercalate place.names, text)

end WorkTree

end WireBridge
