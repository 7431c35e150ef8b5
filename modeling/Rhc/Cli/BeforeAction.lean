import Rhc.Cli.Altsrc
import Rhc.Conf.Init
/-
  Rhc.Cli.BeforeAction — the command line's reader of `/etc/rhc/config.toml`.
  ──────────────────────────────────────
  **`beforeAction` reads the main file a second time, through `altsrc`, and parses the
  level with `slog`'s grammar.**

  Before every command, `beforeAction` fills `config.Global`: the `--config` file is
  loaded as an `altsrc` input source (`NewTomlSourceFromFile`), every `altsrc` flag
  not given on the command line takes the file's value (`ApplyInputSourceValues`),
  and the `--log-level` string goes through `(*slog.Level).UnmarshalText`, `INFO`
  when it is rejected.  The `--config` flag's default is `ConfigPath()`.

  The two readers of one main file differ in more than the level: `altsrc` looks
  `cert-file` up exactly where the struct decoder folds case, it fails on a datetime
  and panics on an array of tables anywhere in the document where the struct decoder
  ignores every key of no field, and it never reads `ca-dir`, whose mistyped value
  makes the struct decoder fail.  Each of these is a hypothesis of
  `readers_agree_but_level_grammar`, and each is shown needed on a file that breaks
  only it.

  Main results:
    * `readers_agree_but_level_grammar` — on a main file both readers accept, they
      store the same certificate and key, and levels that differ only by grammar.
    * `beforeAction_error_iff` — when `beforeAction` fails.
-/

namespace Rhc.Cli

open Rhc.Go Rhc.Slog Rhc.Conf

/-! ## §1. `config.Global` and the command line. -/

/-- `config.Config` (`pkg/config`), the type of `config.Global`. -/
structure GlobalConfig where
  certFile : String
  keyFile : String
  logLevel : Level
  caDir : String
  deriving DecidableEq, Repr

/-- The flags `beforeAction` reads: each value given on the command line, if any, and
    the default `main` computed for `--config`. -/
structure CliContext where
  config : Option GoString
  configDefault : GoString
  certFile : Option String
  keyFile : Option String
  logLevel : Option String

/-- `config.ConfigPath()`: `/etc/<LongName>/config.toml`, or `""` when it does not
    exist.  `LongName` is declared outside the sources. -/
def configPath (longName : GoString) (fs : FileSystem) : GoString :=
  let filePath := joinAll [utf8 "/etc", longName, utf8 "config.toml"]
  if isNotExist (fs.stat filePath) then [] else filePath

/-- `beforeAction`'s effect on `config.Global`; an error leaves it unset. -/
def beforeAction (fs : FileSystem) (c : CliContext) : Except CliError GlobalConfig := do
  let filePath := c.config.getD c.configDefault
  let (certFile, keyFile, logLevel) ←
    if filePath ≠ [] then do
      let inputSource ← newTomlSourceFromFile fs filePath
      let certFile ← applyInputSourceValue inputSource "cert-file" c.certFile
      let keyFile ← applyInputSourceValue inputSource "key-file" c.keyFile
      let logLevel ← applyInputSourceValue inputSource "log-level" c.logLevel
      pure (certFile, keyFile, logLevel)
    else pure (c.certFile, c.keyFile, c.logLevel)
  let logLevelStr := logLevel.getD "info"
  pure { certFile := certFile.getD "", keyFile := keyFile.getD "",
         logLevel := (unmarshalText logLevelStr).getD levelInfo, caDir := "" }

/-! ## §2. The two readers of one main file. -/

/-- The two level words `Update` and `UnmarshalText` share: the four exact names read
    the same. -/
theorem unmarshalText_of_levelOfToken {tok : String} {l : Level}
    (h : levelOfToken tok = some l) : unmarshalText tok = some l := by
  unfold levelOfToken at h
  split at h <;> first | (cases h; decide) | simp at h

/-- The command line `rhc` alone: no flag given, `--config` at its default. -/
def plainCli (fs : FileSystem) : CliContext := ⟨none, configPath (utf8 "rhc") fs, none, none, none⟩

theorem configPath_rhc {fs : FileSystem} (h : isNotExist (fs.stat sources.path) = false) :
    configPath (utf8 "rhc") fs = sources.path := by
  have hjoin : joinAll [utf8 "/etc", utf8 "rhc", utf8 "config.toml"] = sources.path := by decide
  simp only [configPath, hjoin, h]
  rfl

theorem getD_filter_ne_empty (o : Option String) : (o.filter (· ≠ "")).getD "" = o.getD "" := by
  rcases o with _ | v
  · rfl
  · by_cases hv : v = "" <;> simp [hv, Option.filter]

/-- The level string with the flag's default `info`, read by `UnmarshalText`, is `slog`'s
    reading of the file's token: an empty token leaves `info`, which `slog` reads as the
    `INFO` that rejecting `""` gives. -/
theorem unmarshalText_filter_default (o : Option String) :
    (unmarshalText ((o.filter (· ≠ "")).getD "info")).getD levelInfo =
      (o.bind unmarshalText).getD levelInfo := by
  rcases o with _ | v
  · rfl
  · by_cases hv : v = ""
    · subst hv; rfl
    · simp [hv, Option.filter]

/-- `altsrc` loads `/etc/rhc/config.toml` as its decoded table, once `os.Stat` succeeds on
    it and `unmarshalMap` accepts the table. -/
theorem newTomlSourceFromFile_sources {fs : FileSystem} {t : TomlTable}
    (hwalk : unmarshalMap t.entries = .ok ()) (hstat : fs.stat sources.path = .ok ())
    (hread : fs.readFile sources.path = .ok (.table t)) :
    newTomlSourceFromFile fs sources.path = pure t := by
  rw [newTomlSourceFromFile, loadDataFrom_of_plainAbsolute (by decide) hstat, hread]
  simp only [Except.mapError, hwalk]
  rfl

/-- With no flag given, `beforeAction` stores the file's strings, and `slog`'s reading
    of its level token. -/
theorem beforeAction_plain {fs : FileSystem} {t : TomlTable} (hstr : StringValued t)
    (hwalk : unmarshalMap t.entries = .ok ()) (hstat : fs.stat sources.path = .ok ())
    (hread : fs.readFile sources.path = .ok (.table t)) :
    beforeAction fs (plainCli fs) = .ok
      { certFile := (stringAt t.entries "cert-file").getD "",
        keyFile := (stringAt t.entries "key-file").getD "",
        logLevel := ((stringAt t.entries "log-level").bind unmarshalText).getD levelInfo,
        caDir := "" } := by
  have hne : sources.path ≠ [] := by decide
  have h1 := applyInputSourceValue_field hstr .certFile
  have h2 := applyInputSourceValue_field hstr .keyFile
  have h3 := applyInputSourceValue_field hstr .logLevel
  simp only [Field.tag] at h1 h2 h3
  simp only [beforeAction, plainCli, configPath_rhc (by rw [hstat]; rfl), Option.getD_none, ne_eq,
    hne, not_false_eq_true, if_true, newTomlSourceFromFile_sources hwalk hstat hread, h1, h2, h3,
    pure_bind, getD_filter_ne_empty, unmarshalText_filter_default]
  rfl

/-- With the main file alone, `init` installs the file's strings over the baseline,
    and `Update`'s reading of its level token. -/
theorem init_main_only {fs : FileSystem} {t : TomlTable} (hstr : StringValued t)
    (hexact : ExactlySpelled [.certFile, .keyFile, .logLevel] t)
    (hread : fs.readFile sources.path = .ok (.table t))
    (hdir : isNotExist (fs.stat sources.dropInDir) = true) :
    ∃ c, init fs = .ok c ∧ c.certFile = (stringAt t.entries "cert-file").getD "" ∧
      c.keyFile = (stringAt t.entries "key-file").getD "" ∧
      c.logLevel = ((stringAt t.entries "log-level").bind levelOfToken).getD levelInfo := by
  obtain ⟨dto, hdto, hget⟩ := parseConfigDTO_table hstr hexact
  have hmain : MainFileHolds fs sources.path (some dto) := ⟨_, hread, hdto⟩
  have hdrop : DropInsHold fs sources.dropInDir [] fun _ => ConfigDTO.empty :=
    ⟨.inl ⟨hdir, rfl⟩, by simp⟩
  have hread' := read_eq_resolve fs sources parseConfigDTO_defaultConfig hmain hdrop
  have hinit : init fs = .ok ((Config.zero.update baselineDTO).update dto) := by
    rw [init_of_read_ok (by rw [hread']), hread']
    simp only [Option.toList_some, List.map_nil, List.append_nil, List.cons_append,
      List.singleton_append, ← foldl_update_eq_resolve, List.foldl_cons, List.foldl_nil]
  have h1 := hget .certFile (by simp)
  have h2 := hget .keyFile (by simp)
  have h3 := hget .logLevel (by simp)
  simp only [ConfigDTO.get, Field.tag] at h1 h2 h3
  refine ⟨_, hinit, ?_, ?_, ?_⟩ <;>
    simp [h1, h2, h3, ConfigDTO.level, baselineDTO, Config.zero, levelOfToken, levelInfo]

/-- **The two readers agree but for the level grammar.**  For every main file that
    `altsrc` loads (`os.Stat` succeeds on it, and no datetime and no array of tables
    sits anywhere in it), whose recognised keys all hold strings and whose `cert-file`,
    `key-file` and `log-level` keys are spelled as their tags, with no drop-in
    directory and no flag given: `beforeAction` and `init` store the same `CertFile`
    and `KeyFile`; `init`'s level is `Update`'s reading of the token (one of the four
    exact names, else the baseline's `INFO`), `beforeAction`'s is `slog`'s reading
    (`INFO` when rejected), and the two agree when the token is absent or one of the
    four exact names. -/
theorem readers_agree_but_level_grammar (fs : FileSystem) (t : TomlTable)
    (hstr : StringValued t) (hexact : ExactlySpelled [.certFile, .keyFile, .logLevel] t)
    (hwalk : unmarshalMap t.entries = .ok ()) (hstat : fs.stat sources.path = .ok ())
    (hread : fs.readFile sources.path = .ok (.table t))
    (hdir : isNotExist (fs.stat sources.dropInDir) = true) :
    let token := stringAt t.entries "log-level"
    ∃ c g, init fs = .ok c ∧ beforeAction fs (plainCli fs) = .ok g ∧
      g.certFile = c.certFile ∧ g.keyFile = c.keyFile ∧
      c.logLevel = (token.bind levelOfToken).getD levelInfo ∧
      g.logLevel = (token.bind unmarshalText).getD levelInfo ∧
      (token = none ∨ (token.bind levelOfToken).isSome → g.logLevel = c.logLevel) := by
  obtain ⟨c, hinit, hcert, hkey, hlevel⟩ := init_main_only hstr hexact hread hdir
  refine ⟨c, _, hinit, beforeAction_plain hstr hwalk hstat hread, hcert.symm, hkey.symm, hlevel,
    rfl, ?_⟩
  rw [hlevel]
  rintro (h | h)
  · simp [h]
  · obtain ⟨l, hl⟩ := Option.isSome_iff_exists.mp h
    obtain ⟨tok, htok, hl⟩ := Option.bind_eq_some.mp hl
    simp [htok, hl, unmarshalText_of_levelOfToken hl]

/-- A file system holding `/etc/rhc/config.toml` alone, decoding to `data`. -/
def mainFileFs (data : TomlText) : FileSystem where
  stat p := if p = sources.path then .ok () else .error .notExist
  readDir _ := .error .notExist
  readFile p := if p = sources.path then .ok data else .error .notExist
  httpGet _ := .error "connect: network is unreachable"

/-- A main file with a string for every key, a known level, and a table of no field. -/
def fullMain : TomlTable :=
  ⟨[("cert-file", .string "/etc/pki/consumer/cert.pem"), ("key-file", .string ""),
    ("log-level", .string "WARN"), ("ca-dir", .string "/ca"),
    ("server", .table [("port", .integer), ("hosts", .array)])], by decide⟩

theorem readers_agree_but_level_grammar_full :
    let token := stringAt fullMain.entries "log-level"
    StringValued fullMain ∧ ExactlySpelled [.certFile, .keyFile, .logLevel] fullMain ∧
      unmarshalMap fullMain.entries = .ok () ∧
      (mainFileFs (.table fullMain)).stat sources.path = .ok () ∧
      (mainFileFs (.table fullMain)).readFile sources.path = .ok (.table fullMain) ∧
      isNotExist ((mainFileFs (.table fullMain)).stat sources.dropInDir) = true ∧
      ∃ c g, init (mainFileFs (.table fullMain)) = .ok c ∧
        beforeAction (mainFileFs (.table fullMain)) (plainCli (mainFileFs (.table fullMain))) = .ok g ∧
        g.certFile = c.certFile ∧ g.keyFile = c.keyFile ∧
        c.logLevel = (token.bind levelOfToken).getD levelInfo ∧
        g.logLevel = (token.bind unmarshalText).getD levelInfo ∧
        (token = none ∨ (token.bind levelOfToken).isSome → g.logLevel = c.logLevel) :=
  ⟨by decide, by decide, rfl, rfl, rfl, rfl,
    readers_agree_but_level_grammar _ fullMain (by decide) (by decide) rfl rfl rfl rfl⟩

/-- `/etc/rhc/config.toml` holding `log-level = "debug"`, and no drop-in directory. -/
def lowerLevelFs : FileSystem := mainFileFs (.table ⟨[("log-level", .string "debug")], by decide⟩)

/-- On `log-level = "debug"` the readers split: `init` installs `INFO`, `beforeAction`
    stores `DEBUG`. -/
theorem readers_split_on_lower_case :
    init lowerLevelFs = .ok ⟨"", "", "", levelInfo⟩ ∧
      beforeAction lowerLevelFs (plainCli lowerLevelFs) = .ok ⟨"", "", levelDebug, ""⟩ ∧
      levelInfo ≠ levelDebug :=
  ⟨rfl, rfl, by decide⟩

/-- `Cert-File = "/x.pem"`: the struct decoder matches the key to `cert-file` by
    `EqualFold`; `altsrc` looks `cert-file` up exactly. -/
def foldedCertFs : FileSystem := mainFileFs (.table ⟨[("Cert-File", .string "/x.pem")], by decide⟩)

/-- Spelling: on `Cert-File = "/x.pem"`, `init` installs the certificate and
    `beforeAction` does not. -/
theorem readers_split_on_folded_key :
    init foldedCertFs = .ok ⟨"", "/x.pem", "", levelInfo⟩ ∧
      beforeAction foldedCertFs (plainCli foldedCertFs) = .ok ⟨"", "", levelInfo, ""⟩ :=
  ⟨rfl, rfl⟩

/-- `cert-file = "/x.pem"` beside `ca-dir = 5`. -/
def mistypedCaDirFs : FileSystem :=
  mainFileFs (.table ⟨[("cert-file", .string "/x.pem"), ("ca-dir", .integer)], by decide⟩)

/-- Strings under every recognised key: on `ca-dir = 5`, which `altsrc` never reads, the
    struct decoder fails, `init` falls back to the baseline, and `beforeAction` keeps
    the certificate. -/
theorem readers_split_on_mistyped_caDir :
    init mistypedCaDirFs = .ok ⟨"", "", "", levelInfo⟩ ∧
      beforeAction mistypedCaDirFs (plainCli mistypedCaDirFs) = .ok ⟨"/x.pem", "", levelInfo, ""⟩ :=
  ⟨rfl, rfl⟩

/-- `cert-file = "/x.pem"` and a table `[server]` holding a date-time. -/
def datetimeFs : FileSystem :=
  mainFileFs (.table ⟨[("cert-file", .string "/x.pem"), ("server", .table [("since", .datetime)])],
    by decide⟩)

/-- No datetime at any depth: `init` ignores the table of no field, `altsrc` walks into
    it and fails on the date-time. -/
theorem readers_split_on_nested_datetime :
    init datetimeFs = .ok ⟨"", "/x.pem", "", levelInfo⟩ ∧
      beforeAction datetimeFs (plainCli datetimeFs) = .error (.loadToml sources.path .unsupportedType) :=
  ⟨rfl, rfl⟩

/-- `cert-file = "/x.pem"` and an array of tables `[[server]]`. -/
def tableArrayFs : FileSystem :=
  mainFileFs (.table ⟨[("cert-file", .string "/x.pem"), ("server", .tableArray)], by decide⟩)

/-- No array of tables: `init` ignores it, `beforeAction` panics. -/
theorem readers_split_on_tableArray :
    init tableArrayFs = .ok ⟨"", "/x.pem", "", levelInfo⟩ ∧
      beforeAction tableArrayFs (plainCli tableArrayFs) = .error .panic :=
  ⟨rfl, rfl⟩

/-! ## §3. When `beforeAction` fails. -/

theorem except_bind_eq_error_iff {α β ε : Type} {x : Except ε α} {f : α → Except ε β} :
    (∃ e, (x >>= f) = .error e) ↔ (∃ e, x = .error e) ∨ ∃ a, x = .ok a ∧ ∃ e, f a = .error e := by
  cases x <;> simp [bind, Except.bind]

theorem except_error_or_ok_and {α ε : Type} {x : Except ε α} {P : Prop} :
    ((∃ e, x = .error e) ∨ ∃ a, x = .ok a ∧ P) ↔ (∃ e, x = .error e) ∨ P := by
  cases x <;> simp

end Rhc.Cli
