import SessionReplay.Program.Shell.Pattern
import SessionReplay.Program.Shell.Tool.Basic

/-!
# Tools for paths and files

Part of what stands in for the programs of a host; no result rests on it.
-/

namespace SessionReplay.Shell

/-! ## Paths -/

def dirname : Tool
  | path :: _, s =>
    let up := match Path.parent? path with
      | some up => if up.isEmpty then "." else up
      | none => if Path.isAbsolute path then "/" else "."
    s.writeText (up ++ "\n")
  | [], s => s.complain 1 "dirname: missing operand"

def basename : Tool
  | path :: suffix, s =>
    let name := (Path.fileName? path).getD path
    let cs := name.toList
    let ending := (suffix.head?.getD "").toList
    let name :=
      if ending.isSuffixOf cs && ending.length < cs.length then
        String.ofList (cs.take (cs.length - ending.length))
      else name
    s.writeText (name ++ "\n")
  | [], s => s.complain 1 "basename: missing operand"

/-- The path of a place. -/
def pathOf (place : Storage.Place) : String := "/" ++ String.intercalate "/" place

def pwd : Tool := fun _ s => s.writeText (pathOf s.disk.home ++ "\n")

/-! ## Changes -/

/-- Applies a change of the disk to each path, and complains about those where it fails. -/
def changeEach (complaint : String)
    (change : String → Disk → Except Storage.Fault Unit × Disk)
    (paths : List String) (s : Shell) : Shell :=
  paths.foldl (fun s path =>
    match change path s.disk with
    | (.ok (), d) => { s with disk := d }
    | (.error fault, d) =>
      { s with disk := d }.complain 1 (complaint ++ quotedPath path ++ ": " ++ fault.reason))
    (s.exit 0)

def orKeep (d : Disk) (r : Except Storage.Fault Disk) : Except Storage.Fault Unit × Disk :=
  match r with
  | .ok d => (.ok (), d)
  | .error fault => (.error fault, d)

def touch : Tool := fun args =>
  changeEach "touch: cannot touch " (fun path d =>
    if d.has path then (.ok (), d) else orKeep d (d.write path ByteArray.empty)) (operands args)

def mkdir : Tool := fun args =>
  let (flags, paths) := splitFlags args
  changeEach "mkdir: cannot create directory " (fun path d =>
    if flags.contains 'p' then d.makeFolders path else orKeep d (d.makeFolder path)) paths

/-- Removes a file, or a folder with all that is in it. -/
def removeTree (d : Disk) (path : String) : Except Storage.Fault Disk :=
  match d.find path with
  | .error fault => .error fault
  | .ok (_, .file _) => d.remove path
  | .ok (place, .folder) =>
    .ok (d.entries.foldl (fun d e => if place.isPrefixOf e.1 then d.erase e.1 else d) d)

def rm : Tool := fun args =>
  let (flags, paths) := splitFlags args
  changeEach "rm: cannot remove " (fun path d =>
    if flags.contains 'f' && !d.has path then (.ok (), d)
    else if flags.contains 'r' || flags.contains 'R' then orKeep d (removeTree d path)
    else orKeep d (d.remove path)) paths

/-- Removes empty folders. -/
def rmdir : Tool := fun args s =>
  (operands args).foldl (fun s path =>
    match s.disk.list path with
    | .ok [] => { s with disk := (removeTree s.disk path).toOption.getD s.disk }
    | .ok _ => s.complain 1 (complaint path ++ "Directory not empty")
    | .error fault => s.complain 1 (complaint path ++ fault.reason))
    (s.exit 0)
where
  complaint (path : String) : String := "rmdir: failed to remove " ++ quotedPath path ++ ": "

/-- Where a file that is copied or moved comes to stand. -/
def destination (d : Disk) (source target : String) : String :=
  if d.isFolder target then Path.join target ((Path.fileName? source).getD source) else target

/-- Copies a file, or a folder with all that is in it. -/
def copyTree (source target : String) (d : Disk) : Except Storage.Fault Disk :=
  match d.find source with
  | .error fault => .error fault
  | .ok (_, .file bytes) => d.write (destination d source target) bytes
  | .ok (old, .folder) => do
    let path := destination d source target
    let made ← d.makeFolder path
    let (new, _) ← made.find path
    .ok (d.entries.foldl (fun copied e =>
      if old.isPrefixOf e.1 then
        if h : Storage.isPlace (new ++ e.1.drop old.length) = true then
          copied.put (new ++ e.1.drop old.length) e.2 h
        else copied
      else copied) made)

/-- Does something with each source and the target behind them. -/
def toTarget (tool : String) (change : String → String → Disk → Except Storage.Fault Disk)
    (paths : List String) (s : Shell) : Shell :=
  match paths.reverse with
  | target :: source :: more =>
    if more.isEmpty || s.disk.isFolder target then
      changeEach (tool ++ ": cannot stat ") (fun source d => orKeep d (change source target d))
        (source :: more).reverse s
    else s.complain 1 (tool ++ ": target " ++ quotedPath target ++ ": Not a directory")
  | _ => s.complain 1 (tool ++ ": missing file operand")

def cp : Tool := fun args =>
  let (flags, paths) := splitFlags args
  let isDeep := flags.any fun c => c == 'r' || c == 'R' || c == 'a'
  toTarget "cp" (fun source target d =>
    if d.isFolder source && !isDeep then .error .isFolder else copyTree source target d) paths

def mv : Tool := fun args =>
  toTarget "mv" (fun source target d => do
    let d ← copyTree source target d
    removeTree d source) (operands args)

/-! ## Folders -/

def listing (flags : List Char) (names : List String) : String :=
  let isHidden (n : String) : Bool := n.toList.head? == some '.'
  let shown := if flags.contains 'a' then names ++ [".", ".."]
    else if flags.contains 'A' then names
    else names.filter fun n => !isHidden n
  String.join ((sortTexts shown).map (· ++ "\n"))

def ls : Tool := fun args s =>
  let (flags, paths) := splitFlags args
  let paths := if paths.isEmpty then ["."] else paths
  let isFile (path : String) : Bool := s.disk.isFile path || flags.contains 'd' && s.disk.has path
  let missing := paths.filter fun p => !s.disk.has p
  let files := sortTexts (paths.filter isFile)
  let folders := sortTexts (paths.filter fun p => !isFile p && s.disk.has p)
  let s := missing.foldl (fun s path =>
    let reason := match s.disk.find path with
      | .error fault => fault.reason
      | .ok _ => ""
    s.complain 2 ("ls: cannot access " ++ quotedPath path ++ ": " ++ reason)) (s.exit 0)
  let s := s.writeTo 1 (String.join (files.map (· ++ "\n"))).toUTF8
  folders.foldl (fun s path =>
    let gap := if files.isEmpty && folders.head? == some path then "" else "\n"
    let headline := if paths.length < 2 then "" else gap ++ path ++ ":\n"
    match s.disk.list path with
    | .ok names => s.writeTo 1 (headline ++ listing flags names).toUTF8
    | .error _ => s) s

end SessionReplay.Shell
