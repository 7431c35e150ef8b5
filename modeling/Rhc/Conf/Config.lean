import Mathlib.Data.List.Basic
import Rhc.Slog.Level
/-
  Rhc.Conf.Config — the layers and the resolved value of `internal/conf`.
  ──────────────────────────────────────
  **A layer says, key by key, "absent" or "present with this string"; `Update`
  copies exactly the present keys.**

  `configDTO` keeps one pointer per recognised key, so that a key the document does
  not mention (`nil`) is told apart from a key set to `""`.  Here the pointer is an
  `Option String`.  `parseConfigDTO` is `toml.Unmarshal` into that struct:

    * the TOML grammar is the library's, so a file's bytes are represented by what
      the decoder makes of them (`TomlText`): a table, or a syntax error;
    * the struct decoder walks the table's keys in the map's iteration order (the
      order of `TomlTable.entries`), matches a key to a field by its `toml` tag,
      exactly or by `strings.EqualFold`, stores a string, and fails on a value of
      another type; keys of no field are ignored.

  Go randomises a map's iteration order from run to run.  The model fixes one order
  per file, the order of `TomlTable.entries`: where two keys fold onto one tag
  (`cert-file` and `CERT-FILE`), which one the decoder stores is that order's choice.

  `Config.update` is `(*Config).Update`; its `switch` on the level token has no
  `default`, so an unknown token leaves the level as it was.

  The embedded `defaultConfig` (`data/etc/config.toml`) is not in the sources; see
  `defaultConfig`.
-/

namespace Rhc.Conf

open Rhc.Slog

/-! ## §1. Decoded TOML documents. -/

/-- A TOML value as the decoder hands it over (`map[string]interface{}` and its values):
    a string, a table with its keys in the map's iteration order, or a value of another
    type, of which neither reader looks further than the type. -/
inductive TomlValue
  | string (s : String)
  | integer
  | float
  | boolean
  /-- an offset or local date-time, a local date or a local time: a `time.Time` -/
  | datetime
  /-- an inline array `[...]`: a `[]interface{}` -/
  | array
  /-- a table `[name]` or `{...}`: a `map[string]interface{}` -/
  | table (entries : List (String × TomlValue))
  /-- an array of tables `[[name]]`: a `[]map[string]interface{}` -/
  | tableArray
  deriving Repr

/-- The Go type of a decoded value, as `%T` prints it. -/
def TomlValue.goType : TomlValue → String
  | .string _ => "string"
  | .integer => "int64"
  | .float => "float64"
  | .boolean => "bool"
  | .datetime => "time.Time"
  | .array => "[]interface {}"
  | .table _ => "map[string]interface {}"
  | .tableArray => "[]map[string]interface {}"

/-- A decoded TOML document: its top-level keys in the decoder's iteration order.
    TOML forbids a key twice. -/
structure TomlTable where
  entries : List (String × TomlValue)
  keys_nodup : (entries.map Prod.fst).Nodup

/-- A file's bytes as the TOML decoder sees them. -/
inductive TomlText
  | table (t : TomlTable)
  | malformed (err : String)

/-! ## §2. `configDTO` and `parseConfigDTO`. -/

/-- `configDTO`: one layer; `none` is a key the document does not mention. -/
structure ConfigDTO where
  certFile : Option String
  keyFile : Option String
  logLevel : Option String
  caDir : Option String
  deriving DecidableEq, Repr

/-- The layer that mentions nothing (`configDTO{}`). -/
def ConfigDTO.empty : ConfigDTO := ⟨none, none, none, none⟩

/-- The fields of `configDTO`. -/
inductive Field
  | certFile
  | keyFile
  | logLevel
  | caDir
  deriving DecidableEq, Repr

/-- A field's `toml` tag. -/
def Field.tag : Field → String
  | .certFile => "cert-file"
  | .keyFile => "key-file"
  | .logLevel => "log-level"
  | .caDir => "ca-dir"

/-- Storing a decoded string in a field. -/
def ConfigDTO.set (dto : ConfigDTO) (f : Field) (s : String) : ConfigDTO :=
  match f with
  | .certFile => { dto with certFile := some s }
  | .keyFile => { dto with keyFile := some s }
  | .logLevel => { dto with logLevel := some s }
  | .caDir => { dto with caDir := some s }

/-- `unicode.SimpleFold` towards lower case, on the runes that fold onto an ASCII
    letter: upper-case ASCII, the Kelvin sign U+212A (to `k`) and the long s U+017F (to `s`). -/
def foldRune (c : Char) : Char :=
  if c = '\u212A' then 'k' else if c = '\u017F' then 's' else c.toLower

/-- `strings.EqualFold(tag, key)` for a tag in lower-case ASCII. -/
def tagMatches (tag key : String) : Bool := key.toList.map foldRune = tag.toList

/-- The field a key fills: the first whose tag it matches (no two tags fold together). -/
def fieldOfKey (key : String) : Option Field :=
  [Field.certFile, .keyFile, .logLevel, .caDir].find? fun f => tagMatches f.tag key

/-- Why `parseConfigDTO` fails; it wraps either as "failed to parse TOML: %w". -/
inductive ParseError
  /-- the decoder's syntax error -/
  | invalidToml (msg : String)
  /-- "toml: incompatible types: TOML value has type %s; destination has type string" -/
  | incompatibleTypes (key type : String)
  deriving DecidableEq, Repr

/-- The struct decoder on one key of the table. -/
def unifyKey (dto : ConfigDTO) : String × TomlValue → Except ParseError ConfigDTO
  | (key, v) =>
    match fieldOfKey key, v with
    | none, _ => .ok dto
    | some f, .string s => .ok (dto.set f s)
    | some _, v => .error (.incompatibleTypes key v.goType)

/-- `parseConfigDTO`: `toml.Unmarshal` into a fresh `configDTO`. -/
def parseConfigDTO (data : TomlText) : Except ParseError ConfigDTO :=
  match data with
  | .malformed msg => .error (.invalidToml msg)
  | .table t => t.entries.foldlM unifyKey ConfigDTO.empty

/-! ### What `parseConfigDTO` reads from a well-typed table -/

/-- A field of a layer. -/
def ConfigDTO.get (dto : ConfigDTO) : Field → Option String
  | .certFile => dto.certFile
  | .keyFile => dto.keyFile
  | .logLevel => dto.logLevel
  | .caDir => dto.caDir

@[simp] theorem get_set (dto : ConfigDTO) (f g : Field) (s : String) :
    (dto.set f s).get g = if f = g then some s else dto.get g := by
  cases f <;> cases g <;> rfl

@[simp] theorem get_empty (g : Field) : ConfigDTO.empty.get g = none := by
  cases g <;> rfl

@[simp] theorem fieldOfKey_tag (f : Field) : fieldOfKey f.tag = some f := by
  cases f <;> decide

/-- The string under exactly the key `key`, if the table holds one there. -/
def stringAt (entries : List (String × TomlValue)) (key : String) : Option String :=
  match entries.lookup key with
  | some (.string s) => some s
  | _ => none

/-- A TOML string. -/
def TomlValue.isString : TomlValue → Bool
  | .string _ => true
  | _ => false

theorem TomlValue.exists_eq_string {v : TomlValue} (h : v.isString) : ∃ s, v = .string s := by
  cases v <;> first | exact ⟨_, rfl⟩ | cases h

/-- Every key of a field holds a string. -/
def StringValued (t : TomlTable) : Prop :=
  ∀ kv ∈ t.entries, (fieldOfKey kv.1).isSome → kv.2.isString

/-- Every key of one of `fields` is spelled as the field's tag, not in another case. -/
def ExactlySpelled (fields : List Field) (t : TomlTable) : Prop :=
  ∀ kv ∈ t.entries, ∀ f ∈ fields, fieldOfKey kv.1 = some f → kv.1 = f.tag

instance (t : TomlTable) : Decidable (StringValued t) :=
  inferInstanceAs (Decidable (∀ kv ∈ t.entries, _))

instance (fields : List Field) (t : TomlTable) : Decidable (ExactlySpelled fields t) :=
  inferInstanceAs (Decidable (∀ kv ∈ t.entries, _))

theorem stringAt_cons_ne {k key : String} (v : TomlValue) (es : List (String × TomlValue))
    (h : key ≠ k) : stringAt ((k, v) :: es) key = stringAt es key := by
  simp [stringAt, List.lookup_cons, beq_false_of_ne h]

@[simp] theorem stringAt_cons_self (k s : String) (es : List (String × TomlValue)) :
    stringAt ((k, .string s) :: es) k = some s := by
  simp [stringAt]

theorem stringAt_eq_none {es : List (String × TomlValue)} {key : String}
    (h : ∀ kv ∈ es, kv.1 ≠ key) : stringAt es key = none := by
  induction es with
  | nil => rfl
  | cons kv es ih =>
    rw [← Prod.mk.eta (p := kv), stringAt_cons_ne _ _ (h kv (.head _)).symm]
    exact ih fun kv' hkv => h kv' (.tail _ hkv)

theorem foldlM_unifyKey {fields : List Field} {es : List (String × TomlValue)}
    (hnd : (es.map Prod.fst).Nodup) (hstr : ∀ kv ∈ es, (fieldOfKey kv.1).isSome → kv.2.isString)
    (hexact : ∀ kv ∈ es, ∀ f ∈ fields, fieldOfKey kv.1 = some f → kv.1 = f.tag) (d : ConfigDTO) :
    ∃ d', es.foldlM unifyKey d = .ok d' ∧
      ∀ g ∈ fields, d'.get g = (stringAt es g.tag).or (d.get g) := by
  induction es generalizing d with
  | nil => exact ⟨d, rfl, fun g _ => rfl⟩
  | cons kv es ih =>
    obtain ⟨k, v⟩ := kv
    simp only [List.map_cons, List.nodup_cons, List.mem_map, not_exists, not_and] at hnd
    have ih' := ih hnd.2 (fun kv h => hstr kv (.tail _ h)) (fun kv h => hexact kv (.tail _ h))
    rcases hf : fieldOfKey k with _ | f
    · obtain ⟨d', h, hget⟩ := ih' d
      refine ⟨d', by simpa [unifyKey, hf] using h, fun g hg => ?_⟩
      have hne : g.tag ≠ k := fun h => by simp [← h] at hf
      rw [hget g hg, stringAt_cons_ne _ _ hne]
    · obtain ⟨s, rfl⟩ := TomlValue.exists_eq_string (hstr _ (.head _) (by simp [hf]))
      obtain ⟨d', h, hget⟩ := ih' (d.set f s)
      refine ⟨d', by simpa [unifyKey, hf] using h, fun g hg => ?_⟩
      rw [hget g hg, get_set]
      by_cases hfg : f = g
      · subst hfg
        obtain rfl : k = f.tag := hexact _ (.head _) f hg hf
        simp [stringAt_eq_none fun kv hkv => hnd.1 kv hkv]
      · have hne : g.tag ≠ k := fun h =>
          hfg (Option.some_injective _ (hf.symm.trans (h ▸ fieldOfKey_tag g)))
        simp [hfg, stringAt_cons_ne _ _ hne]

/-- **What a well-typed table parses to.**  When every key of a field holds a string,
    `parseConfigDTO` succeeds, and each of `fields` whose keys are spelled exactly as its
    tag is the string under that tag. -/
theorem parseConfigDTO_table {fields : List Field} {t : TomlTable} (hstr : StringValued t)
    (hexact : ExactlySpelled fields t) :
    ∃ dto, parseConfigDTO (.table t) = .ok dto ∧
      ∀ g ∈ fields, dto.get g = stringAt t.entries g.tag := by
  obtain ⟨d', h, hget⟩ := foldlM_unifyKey t.keys_nodup hstr hexact ConfigDTO.empty
  exact ⟨d', h, fun g hg => by rw [hget g hg, get_empty, Option.or_none]⟩

/-! ## §3. `Config` and `Update`. -/

/-- `conf.Config`: the resolved configuration. -/
structure Config where
  caDir : String
  certFile : String
  keyFile : String
  logLevel : Level
  deriving DecidableEq, Repr

/-- `Config{}`. -/
def Config.zero : Config := ⟨"", "", "", 0⟩

/-- The cases of `Update`'s `switch *dto.LogLevel`: the four exact names. -/
def levelOfToken : String → Option Level
  | "DEBUG" => some levelDebug
  | "INFO" => some levelInfo
  | "WARN" => some levelWarn
  | "ERROR" => some levelError
  | _ => none

/-- The level a layer sets: its token, when it is one of the four names. -/
def ConfigDTO.level (dto : ConfigDTO) : Option Level := dto.logLevel.bind levelOfToken

/-- `(*Config).Update`: applies the non-nil values of a layer. -/
def Config.update (c : Config) (dto : ConfigDTO) : Config :=
  let c := match dto.certFile with
    | some v => { c with certFile := v }
    | none => c
  let c := match dto.keyFile with
    | some v => { c with keyFile := v }
    | none => c
  let c := match dto.logLevel.bind levelOfToken with
    | some l => { c with logLevel := l }
    | none => c
  match dto.caDir with
  | some v => { c with caDir := v }
  | none => c

/-- `Update` field by field: a present key replaces the field, an absent one keeps it. -/
theorem update_eq (c : Config) (dto : ConfigDTO) : c.update dto =
    ⟨dto.caDir.getD c.caDir, dto.certFile.getD c.certFile, dto.keyFile.getD c.keyFile,
      dto.level.getD c.logLevel⟩ := by
  obtain ⟨cf, kf, ll, cd⟩ := dto
  cases cf <;> cases kf <;> cases cd <;> cases ll <;> simp only [Config.update] <;>
    split <;> simp_all [ConfigDTO.level]

@[simp] theorem update_certFile (c : Config) (dto : ConfigDTO) :
    (c.update dto).certFile = dto.certFile.getD c.certFile := by rw [update_eq]

@[simp] theorem update_keyFile (c : Config) (dto : ConfigDTO) :
    (c.update dto).keyFile = dto.keyFile.getD c.keyFile := by rw [update_eq]

@[simp] theorem update_logLevel (c : Config) (dto : ConfigDTO) :
    (c.update dto).logLevel = dto.level.getD c.logLevel := by rw [update_eq]

@[simp] theorem update_caDir (c : Config) (dto : ConfigDTO) :
    (c.update dto).caDir = dto.caDir.getD c.caDir := by rw [update_eq]

/-! ## §4. The embedded baseline. -/

/-- Modelled from the spec: `data/etc/config.toml`, embedded as `defaultConfig`, is not
    in the sources.  It defines every recognised key, with log level `INFO` and the three
    paths empty. -/
def defaultConfig : TomlText :=
  .table ⟨[("cert-file", .string ""), ("key-file", .string ""), ("log-level", .string "INFO"),
    ("ca-dir", .string "")], by decide⟩

end Rhc.Conf
