import Rhc.Go.Url
import Rhc.Conf.Source
/-
  Rhc.Cli.Altsrc — `altsrc`'s TOML input source: how the `--config` file is loaded, and
  how a flag reads it.
  ──────────────────────────────────────
  **`NewTomlSourceFromFile` parses the path as a URL, fetches or reads it, decodes it and
  walks every table in it: a datetime anywhere is an error, an array of tables anywhere
  a panic.**

  `loadDataFrom` sends a URL with a host to the network (`http` and `https` only) and
  one with only a path to the file system, where any `os.Stat` error is reported as a
  missing file.  The decoded document goes to `(*tomlMap).UnmarshalTOML`, that is to
  `unmarshalMap`, which converts each value by its `reflect.Kind`: a `time.Time` (kind
  `Struct`) has no case and is an error, and an array of tables
  (`[]map[string]interface{}`) fails the assertion `val.([]interface{})` of the slice
  case, which panics.  Nested tables are walked, inline arrays are not.  Go ranges over
  a map in a random order; the model fixes the order of `entries`, so on a document
  holding both a datetime and an array of tables, which one stops the walk is that
  order's choice.

  `(*StringFlag).ApplyInputSourceValue` consults the source only for a flag the command
  line did not set.  `(*MapInputSource).String` looks the name up exactly (these names
  hold no `.`, so there is no nested lookup), answers `""` for an absent key and fails
  on a value of another type; an empty string leaves the flag's default in place.

  `altsrc` (urfave/cli v2) is not in the sources; it is modelled from its code, for the
  Linux build and the calls `beforeAction` makes.

  Main results:
    * `loadDataFrom_of_plainAbsolute` — a plain absolute path is read from the file
      system once `os.Stat` succeeds on it.
    * `applyInputSourceValue_error_iff` — a flag fails exactly when the command line did
      not set it and its key holds a value other than a string.
-/

namespace Rhc.Cli

open Rhc.Go Rhc.Conf

/-! ## §1. `loadDataFrom`. -/

/-- The error `readCommandToml` returns; `NewTomlSourceFromFile` wraps it as
    "Unable to load TOML file '%s': inner error: \n'%v'". -/
inductive LoadError
  /-- `url.Parse`'s `*url.Error` -/
  | parseURL (url : GoString) (err : URLError)
  /-- the error of `http.Get` or of reading the response body -/
  | fetch (err : String)
  /-- "scheme of %s is unsupported" -/
  | unsupportedScheme
  /-- "Cannot read from file: '%s' because it does not exist.", on every `os.Stat` error -/
  | notExist
  /-- `os.ReadFile`'s error -/
  | readFile (err : IOError)
  /-- "unable to determine how to load from path %s" -/
  | undetermined
  /-- the TOML decoder's syntax error -/
  | invalidToml (msg : String)
  /-- "Unsupported: type = %#v", from `unmarshalMap` on a datetime -/
  | unsupportedType
  deriving DecidableEq, Repr

/-- `loadDataFrom` on Linux: a URL with a host is fetched when its scheme is `http` or
    `https`, one with only a path is read from the file system. -/
def loadDataFrom (fs : FileSystem) (filePath : GoString) : Except LoadError TomlText :=
  match urlParse filePath with
  | .error (url, err) => .error (.parseURL url err)
  | .ok u =>
    if u.host ≠ [] then
      if u.scheme = utf8 "http" ∨ u.scheme = utf8 "https" then
        (fs.httpGet filePath).mapError .fetch
      else .error .unsupportedScheme
    else if u.path ≠ [] then
      match fs.stat filePath with
      | .error _ => .error .notExist
      | .ok () => (fs.readFile filePath).mapError .readFile
    else .error .undetermined

/-- **A plain absolute path is a file.**  Once `os.Stat` succeeds on it, `loadDataFrom`
    returns what `os.ReadFile` returns. -/
theorem loadDataFrom_of_plainAbsolute {fs : FileSystem} {p : GoString} (hp : PlainAbsolute p)
    (hstat : fs.stat p = .ok ()) : loadDataFrom fs p = (fs.readFile p).mapError .readFile := by
  have hne : p ≠ [] := fun h => by simp [h, PlainAbsolute] at hp
  simp [loadDataFrom, urlParse_of_plainAbsolute hp, hne, hstat]

/-! ## §2. `unmarshalMap`. -/

/-- How `unmarshalMap` stops. -/
inductive UnmarshalFault
  /-- "Unsupported: type = %#v": a kind the `switch` has no case for -/
  | unsupportedType
  /-- the panic of `val.([]interface{})` on an array of tables -/
  | panic
  deriving DecidableEq, Repr

mutual
/-- The `switch v.Kind()` of `unmarshalMap` on one value: strings, numbers, booleans and
    inline arrays are stored as they are, a table is converted by `unmarshalMap`. -/
def unmarshalValue : TomlValue → Except UnmarshalFault Unit
  | .table entries => unmarshalMap entries
  | .datetime => .error .unsupportedType
  | .tableArray => .error .panic
  | _ => .ok ()

/-- `unmarshalMap`: the values of a table in the map's iteration order, the first that
    fails stopping it.  The map it builds holds the same keys and values, an `int64`
    converted to an `int`. -/
def unmarshalMap : List (String × TomlValue) → Except UnmarshalFault Unit
  | [] => .ok ()
  | (_, v) :: entries => do
    unmarshalValue v
    unmarshalMap entries
end

/-! ## §3. `NewTomlSourceFromFile` and the flags. -/

/-- How `beforeAction` stops inside `altsrc`: an error it returns, or a panic. -/
inductive CliError
  /-- "Unable to load TOML file '%s': inner error: \n'%v'" -/
  | loadToml (path : GoString) (err : LoadError)
  /-- "Mismatched type for flag '%s'. Expected '%s' but actual is '%s'" -/
  | mismatchedType (flag type : String)
  /-- the process panics, and stops without returning -/
  | panic
  deriving DecidableEq, Repr

/-- `NewTomlSourceFromFile`: `readCommandToml`, that is `loadDataFrom` and then
    `toml.Unmarshal` into a `tomlMap`, whose `UnmarshalTOML` is `unmarshalMap`.  The
    source is the decoded table. -/
def newTomlSourceFromFile (fs : FileSystem) (file : GoString) : Except CliError TomlTable :=
  match loadDataFrom fs file with
  | .error err => .error (.loadToml file err)
  | .ok (.malformed msg) => .error (.loadToml file (.invalidToml msg))
  | .ok (.table t) =>
    match unmarshalMap t.entries with
    | .ok () => .ok t
    | .error .unsupportedType => .error (.loadToml file .unsupportedType)
    | .error .panic => .error .panic

/-- The name `incorrectTypeForFlagError` gives the type of a value `unmarshalMap` stored,
    `reflect.Type.Name()`: an integer is stored as an `int`, and slices and maps have no
    name.  A datetime or an array of tables is never stored. -/
def storedTypeName : TomlValue → String
  | .string _ => "string"
  | .integer => "int"
  | .float => "float64"
  | .boolean => "bool"
  | .datetime => "Time"
  | .array | .table _ | .tableArray => ""

/-- `(*MapInputSource).String(name)`: the string under the exact key, `""` when the key
    is absent. -/
def inputSourceString (t : TomlTable) (name : String) : Except CliError String :=
  match t.entries.lookup name with
  | none => .ok ""
  | some (.string s) => .ok s
  | some v => .error (.mismatchedType name (storedTypeName v))

/-- `(*altsrc.StringFlag).ApplyInputSourceValue`: the flag's value after it, `none`
    meaning unset (the flag keeps its default). -/
def applyInputSourceValue (t : TomlTable) (name : String) (given : Option String) :
    Except CliError (Option String) :=
  match given with
  | some v => .ok (some v)
  | none => do
    let value ← inputSourceString t name
    pure (if value = "" then none else some value)

theorem mem_of_lookup {es : List (String × TomlValue)} {key : String} {v : TomlValue}
    (h : es.lookup key = some v) : (key, v) ∈ es := by
  induction es with
  | nil => simp at h
  | cons kv es ih =>
    obtain ⟨k, w⟩ := kv
    by_cases hk : key = k
    · subst hk
      simp only [List.lookup_cons_self, Option.some.injEq] at h
      simp [h]
    · simp only [List.lookup_cons, beq_false_of_ne hk] at h
      exact .tail _ (ih h)

theorem inputSourceString_of_field {t : TomlTable} (hstr : StringValued t) (f : Field) :
    inputSourceString t f.tag = .ok ((stringAt t.entries f.tag).getD "") := by
  unfold inputSourceString stringAt
  rcases h : t.entries.lookup f.tag with _ | v
  · rfl
  · obtain ⟨s, rfl⟩ := TomlValue.exists_eq_string (hstr _ (mem_of_lookup h) (by simp))
    rfl

/-- A flag not given takes the file's string under its tag, unless it is empty. -/
theorem applyInputSourceValue_field {t : TomlTable} (hstr : StringValued t) (f : Field) :
    applyInputSourceValue t f.tag none = pure ((stringAt t.entries f.tag).filter (· ≠ "")) := by
  simp only [applyInputSourceValue, inputSourceString_of_field hstr f]
  rcases stringAt t.entries f.tag with _ | v
  · rfl
  · by_cases hv : v = "" <;> simp [hv, Option.filter] <;> rfl

/-- **When a flag fails.**  `ApplyInputSourceValue` fails exactly when the command line
    did not set the flag and its key holds a value other than a string. -/
theorem applyInputSourceValue_error_iff (t : TomlTable) (name : String) (given : Option String) :
    (∃ e, applyInputSourceValue t name given = .error e) ↔
      given = none ∧ ∃ v, t.entries.lookup name = some v ∧ v.isString = false := by
  cases given with
  | some w => simp [applyInputSourceValue]
  | none =>
    simp only [applyInputSourceValue, inputSourceString, true_and]
    rcases t.entries.lookup name with _ | (s | _ | _ | _ | _ | _ | _ | _) <;>
      simp [bind, Except.bind, pure, Except.pure, TomlValue.isString]

end Rhc.Cli
