import Stylesheet.Path
import Stylesheet.Text.Quoted

/-!
# Trees of files

A tree says which places hold a file and which a directory; every other place is empty. A
place is the list of names from the root, and the root is always a directory. Paths that are
not absolute start from the working directory.

Following a path, every name must be looked up in a directory, and a double dot leads to the
directory above. Reading needs a file; writing needs a place that is empty or holds a file, and
changes nothing if it fails.

Main statement: after writing to a place, that place holds what was written and every other
place what it held before (`entryAt_put`).
-/

namespace Stylesheet

/-- A place in a tree: the names from the root on. -/
abbrev Location := List String

/-- What a place holds. -/
inductive Entry where
  /-- A file with its octets. -/
  | file (content : List UInt8)
  /-- A directory. -/
  | directory
  deriving DecidableEq, Repr

/-- A tree of files with a working directory. -/
structure FileTree where
  /-- Where paths start that are not absolute. -/
  working : Location
  /-- What the places hold that are not empty. -/
  entries : List (Location × Entry)
  deriving DecidableEq, Repr

/-- Why a path cannot be followed, read or written. -/
inductive FileFault where
  /-- There is nothing there. -/
  | notFound
  /-- The path goes on below a file. -/
  | notDirectory
  /-- It is a directory. -/
  | isDirectory
  /-- A name, or the whole path, is too long. -/
  | nameTooLong
  /-- A name holds the character of code zero. -/
  | nullInName
  deriving DecidableEq, Repr

/-- The wording of a fault on a path. -/
def FileFault.message (f : FileFault) (p : Path) : String :=
  match f with
  | .notFound => "[Errno 2] No such file or directory: " ++ Text.quoted p.text
  | .notDirectory => "[Errno 20] Not a directory: " ++ Text.quoted p.text
  | .isDirectory => "[Errno 21] Is a directory: " ++ Text.quoted p.text
  | .nameTooLong => "[Errno 36] File name too long: " ++ Text.quoted p.text
  | .nullInName => "embedded null byte"

/-- Without the entries of one key, any other key finds what it found. -/
theorem lookup_filter_ne {α β : Type} [BEq α] [LawfulBEq α] (entries : List (α × β)) {key other : α}
    (h : other ≠ key) : (entries.filter (·.1 != key)).lookup other = entries.lookup other := by
  induction entries with
  | nil => rfl
  | cons first rest ih =>
    obtain ⟨k, e⟩ := first
    by_cases hk : k = key
    · have ho : (other == key) = false := by simpa using h
      simp [hk, List.lookup_cons, ih, ho]
    · by_cases ho : other = k <;> simp [hk, List.lookup_cons, ho, ih]

namespace FileTree

/-! ### Places -/

/-- What a place holds; the root is a directory. -/
def entryAt (t : FileTree) : Location → Option Entry
  | [] => some .directory
  | place => t.entries.lookup place

/-- Puts an entry at a place. -/
def put (t : FileTree) (place : Location) (e : Entry) : FileTree :=
  ⟨t.working, (place, e) :: t.entries.filter (·.1 != place)⟩

/-- A place holds what was put there last, and putting something touches no other place. -/
theorem entryAt_put (t : FileTree) {place : Location} (e : Entry) (other : Location)
    (h : place ≠ []) :
    (t.put place e).entryAt other = if other = place then some e else t.entryAt other := by
  cases other with
  | nil => simp [entryAt, Ne.symm h]
  | cons name rest =>
    by_cases ho : name :: rest = place
    · simp [entryAt, put, ho]
    · have hb : (name :: rest == place) = false := by simpa using ho
      simp only [entryAt, put, List.lookup_cons, hb, if_neg ho]
      exact lookup_filter_ne t.entries ho

/-! ### Building a tree -/

/-- The tree that holds nothing but the directories down to the working directory. -/
def ofWorking (working : Location) : FileTree :=
  ⟨working, (List.range working.length).map fun n => (working.take (n + 1), .directory)⟩

/-- Makes a place a directory if nothing is there. -/
def addDirectory (t : FileTree) (place : Location) : FileTree :=
  match t.entryAt place with
  | some _ => t
  | none => t.put place .directory

/-- Makes every place down to the given one a directory where nothing is yet. -/
def addDirectories (t : FileTree) (place : Location) : FileTree :=
  (List.range place.length).foldl (fun u n => u.addDirectory (place.take (n + 1))) t

/-- Adds a file and the directories above it. -/
def addFile (t : FileTree) (place : Location) (content : List UInt8) : FileTree :=
  (t.addDirectories place.dropLast).put place (.file content)

/-! ### Following paths -/

/-- The longest name, in octets. -/
def maxName : Nat := 255

/-- The octets at which a whole path is too long. -/
def maxPath : Nat := 4096

/-- Follows names from a place. Each is looked up in a directory. -/
def follow (t : FileTree) : Location → List String → Except FileFault Location
  | place, [] => .ok place
  | place, name :: rest =>
    match t.entryAt place with
    | none => .error .notFound
    | some (.file _) => .error .notDirectory
    | some .directory =>
      if name = ".." then t.follow place.dropLast rest
      else if maxName < name.utf8ByteSize then .error .nameTooLong
      else t.follow (place ++ [name]) rest

/-- The place a path leads to, which may be empty. -/
def locate (t : FileTree) (p : Path) : Except FileFault Location :=
  if p.parts.any fun name => name.toList.contains '\x00' then .error .nullInName
  else if maxPath ≤ p.text.utf8ByteSize then .error .nameTooLong
  else t.follow (if p.root = .relative then t.working else []) p.parts

/-- The places that a path passes and the one it leads to, as far as its names tell. -/
def waypoints (t : FileTree) (p : Path) : List Location :=
  go (if p.root = .relative then t.working else []) p.parts
where
  /-- The places passed from a place on. -/
  go (place : Location) : List String → List Location
    | [] => [place]
    | name :: rest => place :: go (if name = ".." then place.dropLast else place ++ [name]) rest

/-- The octets of the file at a path. -/
def read (t : FileTree) (p : Path) : Except FileFault (List UInt8) := do
  let place ← t.locate p
  match t.entryAt place with
  | none => .error .notFound
  | some .directory => .error .isDirectory
  | some (.file content) => return content

/-- Writes a file at a path. -/
def write (t : FileTree) (p : Path) (content : List UInt8) : Except FileFault FileTree := do
  let place ← t.locate p
  match t.entryAt place with
  | some .directory => .error .isDirectory
  | _ => return t.put place (.file content)

/-! ### Comparing trees -/

/-- The files of a tree that another one does not hold with the same octets. -/
def filesNotIn (t before : FileTree) : List (Location × List UInt8) :=
  t.entries.filterMap fun (place, e) =>
    match e with
    | .directory => none
    | .file content => if before.entryAt place = some e then none else some (place, content)

/-- The path of a place as seen from the working directory, if it lies below it. -/
def fromWorking? (t : FileTree) (place : Location) : Option String :=
  if t.working.isPrefixOf place then some ("/".intercalate (place.drop t.working.length)) else none

end FileTree

end Stylesheet
