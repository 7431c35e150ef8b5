import Rhc.Go.Filepath
import Rhc.Conf.Resolve
/-
  Rhc.Conf.Source — `ConfigSource`: the file system, `Read` and `init`.
  ──────────────────────────────────────
  **`Read` is a pipeline of three stages over the file system, each of which can
  stop the run; `init` turns a stopped run into the baseline.**

  The file system is what the `os` calls return: `os.Stat`, `os.ReadDir` and
  `os.ReadFile` (the last through the TOML decoder, see `TomlText`).  Quantifying
  over every `FileSystem` quantifies over every state of the main file and of the
  drop-in directory.  It also answers the one network call of the configuration
  path, the `http.Get` with which `altsrc` fetches a `--config` URL.  What the OS promises of a listing is carried by the types:
  a `DirEntry`'s name is one path element, and a `DirListing`'s names are distinct.

  The stages of `Read` (`config.go`):
    1. the embedded defaults, applied to `Config{}`;
    2. `loadMain` — the main file, skipped when it does not exist;
    3. `parseDropInFiles` — all drop-ins parsed first, then applied in order.
  A stage that fails returns the value accumulated BEFORE it, with its error.
-/

namespace Rhc.Conf

open Rhc.Go

/-! ## §1. The file system. -/

/-- The error of an `os` call, as the code tells errors apart. -/
inductive IOError
  /-- an error `os.IsNotExist` holds of -/
  | notExist
  /-- any other failure (permission, I/O, not a directory, ...) -/
  | other (msg : String)
  deriving DecidableEq, Repr

/-- `os.IsNotExist(err)`. -/
def IOError.isNotExist : IOError → Bool
  | .notExist => true
  | .other _ => false

/-- `os.IsNotExist(err)` of a call's error; a nil error is not a not-exist error. -/
def isNotExist {α : Type} : Except IOError α → Bool
  | .error err => err.isNotExist
  | .ok _ => false

/-- An `os.DirEntry`: its name is one path element. -/
structure DirEntry where
  name : GoString
  isDir : Bool
  name_elem : IsPathElem name

/-- The entries `os.ReadDir` returns, with distinct names. -/
structure DirListing where
  entries : List DirEntry
  names_nodup : (entries.map DirEntry.name).Nodup

/-- The file system as the configuration engine queries it, and what an HTTP `GET` of a
    URL returns: the error of `http.Get` or of reading the body, or the body through the
    TOML decoder, whatever the status code. -/
structure FileSystem where
  stat : GoString → Except IOError Unit
  readDir : GoString → Except IOError DirListing
  readFile : GoString → Except IOError TomlText
  httpGet : GoString → Except String TomlText

/-- A file system with one directory `dir` listing `listing`, and the files `files`;
    every other path does not exist, and no host can be reached. -/
def FileSystem.ofFiles (dir : GoString) (listing : DirListing)
    (files : List (GoString × TomlText)) : FileSystem where
  stat p := if p = dir then .ok () else .error .notExist
  readDir p := if p = dir then .ok listing else .error .notExist
  readFile p := match files.lookup p with
    | some data => .ok data
    | none => .error .notExist
  httpGet _ := .error "connect: network is unreachable"

/-! ## §2. `ConfigSource` and its errors. -/

/-- `ConfigSource`: where the main file and the drop-in directory are. -/
structure ConfigSource where
  path : GoString
  dropInDir : GoString

/-- The errors `Read` returns, by the text they are formatted with. -/
inductive ConfError
  /-- "failed to parse embedded defaults: %w" -/
  | embeddedDefaults (err : ParseError)
  /-- "failed to load %s: %w", the main file unreadable -/
  | load (path : GoString) (err : IOError)
  /-- "failed to parse %s: %w", the main file or a drop-in malformed -/
  | parse (path : GoString) (err : ParseError)
  /-- "failed to read drop-in directory %s: %w" -/
  | readDropInDir (dir : GoString) (err : IOError)
  /-- a drop-in's `os.ReadFile` error, returned as it is -/
  | readDropIn (err : IOError)
  deriving DecidableEq

/-- The configuration-document extension. -/
def tomlExt : GoString := utf8 ".toml"

/-- What `findDropInFiles` keeps of an entry: not a directory, name ending in `.toml`. -/
def DirEntry.isDropIn (e : DirEntry) : Bool := !e.isDir && tomlExt.isSuffixOf e.name

/-- `findDropInFiles`: the joined paths of the drop-ins, sorted; none when the directory
    does not exist. -/
def ConfigSource.findDropInFiles (fs : FileSystem) (cs : ConfigSource) :
    Except ConfError (List GoString) :=
  if isNotExist (fs.stat cs.dropInDir) then .ok []
  else
    match fs.readDir cs.dropInDir with
    | .error err => .error (.readDropInDir cs.dropInDir err)
    | .ok listing =>
      let filenames := listing.entries.filterMap fun e =>
        if e.isDir then none
        else if tomlExt.isSuffixOf e.name then some (join cs.dropInDir e.name) else none
      .ok (GoString.sortStrings filenames)

/-- One iteration of `parseDropInFiles`' loop: read a drop-in, then parse it. -/
def loadDropIn (fs : FileSystem) (path : GoString) : Except ConfError ConfigDTO :=
  match fs.readFile path with
  | .error err => .error (.readDropIn err)
  | .ok data =>
    match parseConfigDTO data with
    | .error err => .error (.parse path err)
    | .ok dto => .ok dto

/-- `parseDropInFiles`: every drop-in parsed, in path order; the first failure stops it. -/
def ConfigSource.parseDropInFiles (fs : FileSystem) (cs : ConfigSource) :
    Except ConfError (List ConfigDTO) := do
  let paths ← cs.findDropInFiles fs
  paths.mapM (loadDropIn fs)

/-- Step 2 of `Read`: the main file over `resolved`, skipped when it does not exist. -/
def ConfigSource.loadMain (fs : FileSystem) (cs : ConfigSource) (resolved : Config) :
    Except ConfError Config :=
  match fs.readFile cs.path with
  | .error err => if err.isNotExist then .ok resolved else .error (.load cs.path err)
  | .ok data =>
    match parseConfigDTO data with
    | .error err => .error (.parse cs.path err)
    | .ok mainDTO => .ok (resolved.update mainDTO)

/-- `(*ConfigSource).Read`: the resolved value, and the error that stopped the run. -/
def ConfigSource.read (fs : FileSystem) (cs : ConfigSource) : Config × Option ConfError :=
  match parseConfigDTO defaultConfig with
  | .error err => (Config.zero, some (.embeddedDefaults err))
  | .ok dto =>
    let resolved := Config.zero.update dto
    match cs.loadMain fs resolved with
    | .error err => (resolved, some err)
    | .ok resolved =>
      match cs.parseDropInFiles fs with
      | .error err => (resolved, some err)
      | .ok dropInDTOs => (dropInDTOs.foldl Config.update resolved, none)

/-! ## §3. `init`. -/

/-- The canonical locations `init` reads. -/
def sources : ConfigSource :=
  ⟨utf8 "/etc/rhc/config.toml", utf8 "/etc/rhc/config.toml.d/"⟩

/-- `init`: the process-wide `Configuration`.  When `Read` fails, the embedded defaults
    are applied on top of the value it returned; `.error` is the panic when they do not
    parse. -/
def init (fs : FileSystem) : Except ParseError Config :=
  match sources.read fs with
  | (config, none) => .ok config
  | (config, some _) =>
    match parseConfigDTO defaultConfig with
    | .error parseErr => .error parseErr
    | .ok dto => .ok (config.update dto)

end Rhc.Conf
