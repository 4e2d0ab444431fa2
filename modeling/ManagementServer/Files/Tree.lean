import ManagementServer.Files.Path

/-!
# File trees

A file tree as far as a server touches it: directories, files, sockets and links. `Tree.makeAll`
makes a directory with all that leads to it.
-/

namespace ManagementServer.Files

/-- What stands at a place in the tree. -/
inductive Entry where
  | directory (mode : Nat)
  | file (contents : String)
  | socket (isLive : Bool)
  | link (target : String)
  deriving DecidableEq, Repr, Inhabited

/-- Why the system refuses a path. -/
inductive Fault where
  | missing
  | notDirectory
  | occupied
  | nameTooLong
  | malformed
  | loop
  deriving DecidableEq, Repr

/-- A file tree: entries by their names from the root, which is always a directory, and the
directory from which relative paths lead. -/
structure Tree where
  entries : List (List String × Entry)
  home : List String
  deriving Repr, Inhabited

namespace Tree

/-- The tree that holds nothing but the directories that lead to the working directory. -/
def ofHome (home : List String) : Tree :=
  ⟨(inits home).tail.map (·, .directory 0o755), home⟩
where
  /-- Every beginning of a list, the shortest first. -/
  inits : List String → List (List String)
    | [] => [[]]
    | x :: rest => [] :: (inits rest).map (x :: ·)

/-- What stands at a place. -/
def at? (t : Tree) (place : List String) : Option Entry :=
  if place.isEmpty then some (.directory 0o755) else t.entries.lookup place

/-- Puts an entry at a place. -/
def put (t : Tree) (place : List String) (entry : Entry) : Tree :=
  { t with entries := (place, entry) :: t.entries.filter (·.1 != place) }

/-- Clears a place. -/
def erase (t : Tree) (place : List String) : Tree :=
  { t with entries := t.entries.filter (·.1 != place) }

/-- The longest name that a directory can hold, in bytes. -/
def maxNameSize : Nat := 255

/-- The place that a name leads to, without looking whether something is there. -/
def step (place : List String) (name : String) : Except Fault (List String) :=
  if name == "." then .ok place
  else if name == ".." then .ok place.dropLast
  else if maxNameSize < Text.Utf8.size name.toList then .error .nameTooLong
  else .ok (place ++ [name])

/-- Where names lead from a directory; `follows` says whether a link at the end is followed. At most
`fuel` steps are taken, links included. -/
def walk (t : Tree) (follows : Bool) (place : List String) :
    Nat → List String → Except Fault (List String)
  | _, [] => .ok place
  | 0, _ => .error .loop
  | fuel + 1, name :: rest => do
    let next ← step place name
    match t.at? next with
    | some (.link target) =>
      if rest.isEmpty && !follows then return next
      let steps := Path.steps target
      walk t follows (if steps.isAbsolute then [] else place) fuel (steps.names ++ rest)
    | some (.directory _) => walk t follows next fuel rest
    | some _ => if rest.isEmpty then return next else throw .notDirectory
    | none => if rest.isEmpty then return next else throw .missing

/-- How many steps a path may take. -/
def maxSteps : Nat := 4096

/-- Where a path leads. -/
def locate (t : Tree) (follows : Bool) (path : Steps) : Except Fault (List String) :=
  if path.names.any fun s => s.toList.contains (Char.ofNat 0) then .error .malformed
  else t.walk follows (if path.isAbsolute then [] else t.home) maxSteps path.names

/-- What a path leads to. -/
def find? (t : Tree) (follows : Bool) (path : Steps) : Option Entry :=
  match t.locate follows path with
  | .ok place => t.at? place
  | .error _ => none

/-- The text of the file that a path leads to. -/
def read? (t : Tree) (path : String) : Option String :=
  match t.find? true (Path.steps path) with
  | some (.file contents) => some contents
  | _ => none

/-- Writes a file, with the directories that lead to it where they are missing. -/
def write (t : Tree) (path contents : String) : Tree :=
  let steps := Path.steps path
  let place := if steps.isAbsolute then steps.names else t.home ++ steps.names
  ((List.range place.length).foldl
    (fun t n =>
      if (t.at? (place.take n)).isSome then t else t.put (place.take n) (.directory 0o755))
    t).put place (.file contents)

/-- Whether a path leads to a directory. -/
def isDirectory (t : Tree) (path : Steps) : Bool :=
  match t.find? true path with
  | some (.directory _) => true
  | _ => false

/-- The mode of the directories that are made: nobody but the owner may enter. -/
def ownerOnly : Nat := 0o700

/-- Makes one directory. -/
def make (t : Tree) (path : Steps) : Except Fault Tree := do
  let place ← t.locate false path
  match t.at? place with
  | some _ => throw .occupied
  | none => return t.put place (.directory ownerOnly)

/-- Makes a directory, first those that lead to it where they are missing. Returns the tree as far
as it was changed. -/
def makeAll (t : Tree) (isAbsolute : Bool) : List String → Tree × Option Fault
  | names =>
    if names = [] ∧ !isAbsolute then (t, none)
    else
      let path : Steps := ⟨isAbsolute, names⟩
      match t.make path with
      | .ok t => (t, none)
      | .error .missing =>
        if _ : names = [] then (t, some .missing)
        else
          match makeAll t isAbsolute names.dropLast with
          | (t, some fault) => (t, some fault)
          | (t, none) =>
            match t.make path with
            | .ok t => (t, none)
            | .error fault => if t.isDirectory path then (t, none) else (t, some fault)
      | .error fault => if t.isDirectory path then (t, none) else (t, some fault)
  termination_by names => names.length
  decreasing_by
    have := List.length_pos_iff.2 ‹¬names = []›
    change names.dropLast.length < names.length
    rw [List.length_dropLast]
    omega

end Tree

end ManagementServer.Files
