import SessionReplay.Storage.Fault
import SessionReplay.Storage.Path

/-!
# Disks

Files and folders, each at its place. Paths are looked up from a working folder, one part after
the other; every part but the last has to be a folder.

Two things are left out. Names are Unicode texts; other names that a file system can hold are on no
disk (`Storage.Stray` are those that count elsewhere). And there are no permissions but those of
single files to be written and removed: every folder can be listed and added to.

* `Storage.isPlace`: where something can stand.
* `Disk`: what stands where, in the order in which folders are listed.
* `Disk.find`: what a path names; `Disk.has`, `isFile`, `isFolder`.
* `Disk.read`, `readText`, `list`.
* `Disk.write`, `append`, `remove`, `makeFolder`: the disk afterwards, or the fault and no change.
* `Disk.makeFolders`: a folder with all those above it, some of which may be made before a fault.
-/

namespace SessionReplay

namespace Storage

/-- The largest size of a name, and of a path, in bytes. -/
def maxName : Nat := 255

def maxPath : Nat := 4095

/-- Whether something in a folder can have this name. -/
def isName (s : String) : Bool :=
  match Path.partOf s with
  | some (.name _) =>
    !s.toList.contains '/' && !s.toList.contains '\x00' && s.utf8ByteSize ≤ maxName
  | _ => false

/-- The names on the way from the root. -/
abbrev Place := List String

/-- Whether something can be put at a place: its last name is one that things can have. -/
def isPlace (place : Place) : Bool := place.getLast?.any isName

inductive Entry where
  | file (bytes : ByteArray)
  | folder

/-- Files are equal if their bytes are. -/
instance : DecidableEq Entry
  | .folder, .folder => isTrue rfl
  | .file a, .file b =>
    if h : a.data = b.data then isTrue (congrArg Entry.file (ByteArray.ext h))
    else isFalse fun e => h (congrArg ByteArray.data (Entry.file.inj e))
  | .file _, .folder => isFalse fun e => Entry.noConfusion e
  | .folder, .file _ => isFalse fun e => Entry.noConfusion e

end Storage

open Storage

structure Disk where
  entries : List (Place × Entry)
  /-- No place has two entries. -/
  nodup : (entries.map (·.1)).Nodup
  /-- Nothing stands where nothing can be put. -/
  placed : ∀ e ∈ entries, isPlace e.1 = true
  /-- Where paths without a leading slash begin. -/
  home : Place
  /-- Places whose file can be neither written nor removed. -/
  locked : List Place

namespace Disk

def empty (home : Place) : Disk := ⟨[], List.nodup_nil, by simp, home, []⟩

instance : Inhabited Disk := ⟨empty []⟩

/-! ## Places -/

/-- What stands at a place. The root is a folder. -/
def entry? (d : Disk) (place : Place) : Option Entry :=
  if place.isEmpty then some .folder
  else (d.entries.find? fun e => e.1 == place).map (·.2)

/-- The entries with one put in, where the old one of its place stood or else at the end. -/
def putEntry (place : Place) (entry : Entry) : List (Place × Entry) → List (Place × Entry)
  | [] => [(place, entry)]
  | e :: rest => if e.1 = place then (place, entry) :: rest else e :: putEntry place entry rest

theorem eq_or_mem_of_mem_putEntry {place : Place} {entry : Entry} {l : List (Place × Entry)}
    {e : Place × Entry} (h : e ∈ putEntry place entry l) : e = (place, entry) ∨ e ∈ l := by
  induction l with
  | nil => simpa [putEntry] using h
  | cons first rest ih =>
    unfold putEntry at h
    split at h
    · simp only [List.mem_cons] at h ⊢
      exact h.imp_right Or.inr
    · simp only [List.mem_cons] at h ⊢
      rcases h with h | h
      · exact .inr (.inl h)
      · exact (ih h).imp_right .inr

theorem mem_putEntry {place : Place} {entry : Entry} {l : List (Place × Entry)} {p : Place}
    (h : p ∈ (putEntry place entry l).map (·.1)) : p = place ∨ p ∈ l.map (·.1) := by
  obtain ⟨e, he, rfl⟩ := List.mem_map.1 h
  rcases eq_or_mem_of_mem_putEntry he with rfl | he
  · exact .inl rfl
  · exact .inr (List.mem_map_of_mem he)

theorem nodup_putEntry (place : Place) (entry : Entry) {l : List (Place × Entry)}
    (h : (l.map (·.1)).Nodup) : ((putEntry place entry l).map (·.1)).Nodup := by
  induction l with
  | nil => simp [putEntry]
  | cons e rest ih =>
    simp only [List.map_cons, List.nodup_cons] at h
    unfold putEntry
    split
    · next he => simpa [he] using h
    · next he =>
      simp only [List.map_cons, List.nodup_cons]
      refine ⟨fun hm => ?_, ih h.2⟩
      rcases mem_putEntry hm with hp | hp
      · exact he hp
      · exact h.1 hp

theorem nodup_filter (keep : Place × Entry → Bool) {l : List (Place × Entry)}
    (h : (l.map (·.1)).Nodup) : ((l.filter keep).map (·.1)).Nodup :=
  h.sublist (List.filter_sublist.map _)

def put (d : Disk) (place : Place) (entry : Entry)
    (hplace : isPlace place = true := by decide) : Disk :=
  { d with
    entries := putEntry place entry d.entries
    nodup := nodup_putEntry place entry d.nodup
    placed := fun _ he => (eq_or_mem_of_mem_putEntry he).elim (fun h => h ▸ hplace) (d.placed _) }

def erase (d : Disk) (place : Place) : Disk :=
  { d with
    entries := d.entries.filter fun e => e.1 != place
    nodup := nodup_filter _ d.nodup
    placed := fun e he => d.placed e (List.mem_filter.1 he).1 }

def isLocked (d : Disk) (place : Place) : Bool := d.locked.contains place

/-! ## Paths -/

/-- A place has to be a folder. -/
def enter (d : Disk) (place : Place) : Except Fault Unit :=
  match d.entry? place with
  | some .folder => .ok ()
  | some (.file _) => .error .notFolder
  | none => .error .notFound

/-- The place of a path of these pieces, seen from a place. The last piece need not exist. -/
def walk (d : Disk) (place : Place) : List String → Except Fault Place
  | [] => .ok place
  | piece :: rest => do
    d.enter place
    match Path.partOf piece with
    | none | some .root | some .here => walk d place rest
    | some .up => walk d place.dropLast rest
    | some (.name name) =>
      if maxName < name.utf8ByteSize then .error .nameTooLong
      else walk d (place ++ [name]) rest

/-- Where the first piece of a path is looked up. -/
def start (d : Disk) (path : String) : Place := if Path.isAbsolute path then [] else d.home

/-- What is wrong with a path before anything is looked up. -/
def checkPath (path : String) : Except Fault Unit :=
  if path.isEmpty then .error .notFound
  else if path.toList.contains '\x00' then .error .zeroInPath
  else if maxPath < path.utf8ByteSize then .error .nameTooLong
  else .ok ()

/-- The place of a path and what stands there. -/
def find (d : Disk) (path : String) : Except Fault (Place × Entry) := do
  checkPath path
  let place ← d.walk (d.start path) (Path.pieces path)
  match d.entry? place with
  | some entry => .ok (place, entry)
  | none => .error .notFound

/-- Where something is to be made: a name in a folder that exists, and whether a slash behind the
name asks for a folder. -/
structure Target where
  folder : Place
  name : String
  slash : Bool
  named : isName name = true

def Target.place (t : Target) : Place := t.folder ++ [t.name]

theorem Target.isPlace_place (t : Target) : isPlace t.place = true := by
  simpa [isPlace, Target.place] using t.named

/-- The target of a path, none where it does not end in a name. -/
def target (d : Disk) (path : String) : Except Fault (Option Target) := do
  checkPath path
  let pieces := Path.pieces path
  let reversed := pieces.reverse.dropWhile (·.isEmpty)
  let folder ← d.walk (d.start path) reversed.tail.reverse
  d.enter folder
  match reversed.head?.bind Path.partOf with
  | some (.name name) =>
    if h : isName name = true then .ok (some ⟨folder, name, reversed.length < pieces.length, h⟩)
    else .error .nameTooLong
  | _ => .ok none

/-! ## Questions -/

def has (d : Disk) (path : String) : Bool :=
  match d.find path with
  | .ok _ => true
  | .error _ => false

def isFile (d : Disk) (path : String) : Bool :=
  match d.find path with
  | .ok (_, .file _) => true
  | _ => false

def isFolder (d : Disk) (path : String) : Bool :=
  match d.find path with
  | .ok (_, .folder) => true
  | _ => false

def read (d : Disk) (path : String) : Except Fault ByteArray := do
  let (_, entry) ← d.find path
  match entry with
  | .file bytes => .ok bytes
  | .folder => .error .isFolder

def readText (d : Disk) (path : String) : Except Fault String := do
  let bytes ← d.read path
  match String.fromUTF8? bytes with
  | some text => .ok text
  | none => .error .notText

/-- The name of an entry that stands directly in a folder. -/
def nameIn (folder : Place) (place : Place) : Option String :=
  if place.dropLast = folder then place.getLast? else none

/-- The names in a folder. -/
def list (d : Disk) (path : String) : Except Fault (List String) := do
  let (place, entry) ← d.find path
  match entry with
  | .folder => .ok (d.entries.filterMap fun e => nameIn place e.1)
  | .file _ => .error .notFolder

/-! ## Changes -/

def write (d : Disk) (path : String) (bytes : ByteArray) : Except Fault Disk := do
  match ← d.target path with
  | none => .error .isFolder
  | some t =>
    match d.entry? t.place with
    | some .folder => .error .isFolder
    | some (.file _) =>
      if t.slash then .error .notFolder
      else if d.isLocked t.place then .error .notPermitted
      else .ok (d.put t.place (.file bytes) t.isPlace_place)
    | none =>
      if t.slash then .error .isFolder
      else if d.isLocked t.place then .error .notPermitted
      else .ok (d.put t.place (.file bytes) t.isPlace_place)

def writeText (d : Disk) (path : String) (text : String) : Except Fault Disk :=
  d.write path text.toUTF8

/-- Adds bytes at the end of a file, which is made if there is none. -/
def append (d : Disk) (path : String) (bytes : ByteArray) : Except Fault Disk :=
  match d.read path with
  | .ok old => d.write path (old ++ bytes)
  | .error _ => d.write path bytes

/-- Removes a file. -/
def remove (d : Disk) (path : String) : Except Fault Disk := do
  match ← d.target path with
  | none => .error .isFolder
  | some t =>
    match d.entry? t.place with
    | none => .error .notFound
    | some .folder => .error .isFolder
    | some (.file _) =>
      if t.slash then .error .notFolder
      else if d.isLocked t.place then .error .notPermitted
      else .ok (d.erase t.place)

def makeFolder (d : Disk) (path : String) : Except Fault Disk := do
  match ← d.target path with
  | none => .error .alreadyExists
  | some t =>
    match d.entry? t.place with
    | some _ => .error .alreadyExists
    | none => .ok (d.put t.place .folder t.isPlace_place)

/-- Makes a folder if there is none. -/
def ensureFolder (d : Disk) (path : String) : Except Fault Unit × Disk :=
  match d.makeFolder path with
  | .ok d => (.ok (), d)
  | .error fault => if d.isFolder path then (.ok (), d) else (.error fault, d)

/-- Makes the first of the paths; each of them is the parent of the one before. -/
def makeEach (d : Disk) : List String → Except Fault Unit × Disk
  | [] => (.error .noRoot, d)
  | path :: parents =>
    if path.isEmpty then (.ok (), d)
    else
      match d.ensureFolder path with
      | (.error .notFound, _) =>
        match d.makeEach parents with
        | (.ok (), d) => d.ensureFolder path
        | failed => failed
      | result => result

/-- Makes a folder and all those above it. The empty path is the folder that is there. -/
def makeFolders (d : Disk) (path : String) : Except Fault Unit × Disk :=
  d.makeEach (Path.upwards path)

end Disk
end SessionReplay
