import Rhc.Conf.Init
/-
  Rhc.Conf.Outcome — how a run of `Read` ends, on every state of the file system.
  ──────────────────────────────────────
  **`Read` fails exactly when a stage cannot be passed, and its error names the
  first one, in resolution order, that could not.**

  `Rhc.Conf.Read` fixes the VALUE of a run; this module fixes its OUTCOME.  A run gets past
  the main file when it is absent or reads and parses (`MainFilePasses`), past the
  drop-in directory when it is absent or lists, and past each listed drop-in when it
  reads and parses (`Loads`).  A listed drop-in that does not exist is NOT skipped:
  only the main file and the directory may be absent.

  Two invariants of every run follow: the level `Read` and `init` produce is one of
  the four named levels, whatever the documents say; and the run does not depend on
  the order in which the directory lists its entries.

  Main results:
    * `read_ok_iff` — when `Read` returns no error.
    * `read_error_provenance` — which error it returns otherwise.
    * `read_logLevel_named` — `Read` and `init` only ever produce a named level.
    * `read_listing_perm` — the listing order of the drop-in directory is irrelevant.
-/

namespace Rhc.Conf

open Rhc.Go Rhc.Slog

/-! ## §1. `mapM` stops at the first failure. -/

section MapM

variable {α β ε : Type} {f : α → Except ε β}

/-- `mapM` succeeds exactly when every element does. -/
theorem mapM_isOk_iff : ∀ {xs : List α},
    (∃ ys, xs.mapM f = .ok ys) ↔ ∀ x ∈ xs, ∃ y, f x = .ok y
  | [] => iff_of_true ⟨[], rfl⟩ (by simp)
  | x :: xs => by
    rw [List.mapM_cons, List.forall_mem_cons, ← @mapM_isOk_iff xs]
    cases f x <;> cases xs.mapM f <;> simp [bind, Except.bind, pure, Except.pure]

/-- A failed `mapM` failed at an element after which it stopped: every element before
    it succeeded, and its error is the result. -/
theorem mapM_eq_error : ∀ {xs : List α} {e : ε}, xs.mapM f = .error e →
    ∃ pre x post, xs = pre ++ x :: post ∧ (∀ y ∈ pre, ∃ b, f y = .ok b) ∧ f x = .error e
  | [], e, h => by cases h
  | x :: xs, e, h => by
    rw [List.mapM_cons] at h
    cases hx : f x with
    | error e' =>
      rw [hx] at h
      cases h
      exact ⟨[], x, xs, rfl, by simp, hx⟩
    | ok b =>
      rw [hx] at h
      cases hxs : xs.mapM f with
      | error e' =>
        rw [hxs] at h
        cases h
        obtain ⟨pre, y, post, rfl, hpre, hy⟩ := mapM_eq_error hxs
        refine ⟨x :: pre, y, post, rfl, ?_, hy⟩
        rintro z (_ | ⟨_, hz⟩)
        · exact ⟨b, hx⟩
        · exact hpre z hz
      | ok ys => rw [hxs] at h; cases h

end MapM

/-! ## §2. When `Read` returns no error. -/

/-- The main file lets a run past it: absent, or readable and well formed. -/
def MainFilePasses (fs : FileSystem) (path : GoString) : Prop :=
  (∃ err, fs.readFile path = .error err ∧ err.isNotExist = true) ∨
    ∃ data dto, fs.readFile path = .ok data ∧ parseConfigDTO data = .ok dto

/-- A drop-in that reads and parses. -/
def Loads (fs : FileSystem) (path : GoString) : Prop :=
  ∃ data dto, fs.readFile path = .ok data ∧ parseConfigDTO data = .ok dto

theorem loads_iff (fs : FileSystem) (path : GoString) :
    Loads fs path ↔ ∃ dto, loadDropIn fs path = .ok dto := by
  unfold Loads loadDropIn
  cases fs.readFile path with
  | error e => simp
  | ok data => cases hd : parseConfigDTO data <;> simp [hd]

theorem mainFilePasses_iff (fs : FileSystem) (cs : ConfigSource) (r : Config) :
    MainFilePasses fs cs.path ↔ ∃ r', cs.loadMain fs r = .ok r' := by
  unfold MainFilePasses ConfigSource.loadMain
  cases fs.readFile cs.path with
  | error e => cases e <;> simp [IOError.isNotExist]
  | ok data => cases hd : parseConfigDTO data <;> simp [hd]

/-- `Read` returns no error exactly when its two fallible stages succeed; the
    embedded defaults always parse. -/
theorem read_snd_eq_none_iff (fs : FileSystem) (cs : ConfigSource) :
    (cs.read fs).2 = none ↔ (∃ r, cs.loadMain fs (Config.zero.update baselineDTO) = .ok r) ∧
      ∃ dtos, cs.parseDropInFiles fs = .ok dtos := by
  have hb := parseConfigDTO_defaultConfig
  cases hm : cs.loadMain fs (Config.zero.update baselineDTO) with
  | error err => simp [read_of_loadMain_error hb hm]
  | ok r =>
    cases hd : cs.parseDropInFiles fs with
    | error err => simp [read_of_parseDropInFiles_error hb hm hd]
    | ok dtos => simp [read_of_ok hb hm hd]

/-- The drop-in stage succeeds exactly when the directory stage does and every listed
    drop-in loads. -/
theorem parseDropInFiles_isOk_iff (fs : FileSystem) (cs : ConfigSource) :
    (∃ dtos, cs.parseDropInFiles fs = .ok dtos) ↔
      ∃ paths, cs.findDropInFiles fs = .ok paths ∧ ∀ p ∈ paths, Loads fs p := by
  simp only [ConfigSource.parseDropInFiles, loads_iff]
  cases cs.findDropInFiles fs with
  | error err => simp [bind, Except.bind]
  | ok paths => simpa [bind, Except.bind] using mapM_isOk_iff

/-- **When `Read` succeeds.**  For every state of the file system, `Read` returns no
    error exactly when the main file is absent or reads and parses, the drop-in
    directory is absent or can be listed, and every drop-in it lists reads and parses.
    A listed drop-in that cannot be read fails the run even when it does not exist,
    while an absent main file is skipped. -/
theorem read_ok_iff (fs : FileSystem) (cs : ConfigSource) :
    (cs.read fs).2 = none ↔
      MainFilePasses fs cs.path ∧
        ∃ paths, cs.findDropInFiles fs = .ok paths ∧ ∀ p ∈ paths, Loads fs p := by
  rw [read_snd_eq_none_iff, mainFilePasses_iff fs cs (Config.zero.update baselineDTO),
    parseDropInFiles_isOk_iff]

/-! ## §3. Which error `Read` returns. -/

/-- A failed drop-in stage failed at its first drop-in that does not load: every
    earlier one loads, and the error is that drop-in's read error, or its parse error
    under its path. -/
theorem parseDropInFiles_error {fs : FileSystem} {cs : ConfigSource} {paths : List GoString}
    {err : ConfError} (hf : cs.findDropInFiles fs = .ok paths)
    (h : cs.parseDropInFiles fs = .error err) :
    ∃ pre p post, paths = pre ++ p :: post ∧ (∀ q ∈ pre, Loads fs q) ∧
      ((∃ e, fs.readFile p = .error e ∧ err = .readDropIn e) ∨
        ∃ data pe, fs.readFile p = .ok data ∧ parseConfigDTO data = .error pe ∧
          err = .parse p pe) := by
  simp only [ConfigSource.parseDropInFiles, hf, bind, Except.bind] at h
  obtain ⟨pre, p, post, rfl, hpre, hp⟩ := mapM_eq_error h
  refine ⟨pre, p, post, rfl, fun q hq => (loads_iff fs q).mpr (hpre q hq), ?_⟩
  unfold loadDropIn at hp
  cases hr : fs.readFile p with
  | error e => simp only [hr, Except.error.injEq] at hp; exact .inl ⟨e, rfl, hp.symm⟩
  | ok data =>
    cases hd : parseConfigDTO data with
    | error pe =>
      simp only [hr, hd, Except.error.injEq] at hp
      exact .inr ⟨data, pe, rfl, hd, hp.symm⟩
    | ok dto => simp [hr, hd] at hp

/-- A failed main-file stage: the main file unreadable for a reason other than not
    existing, or malformed. -/
theorem loadMain_error {fs : FileSystem} {cs : ConfigSource} {r : Config} {err : ConfError}
    (h : cs.loadMain fs r = .error err) :
    (∃ e, fs.readFile cs.path = .error e ∧ e.isNotExist = false ∧ err = .load cs.path e) ∨
      ∃ data pe, fs.readFile cs.path = .ok data ∧ parseConfigDTO data = .error pe ∧
        err = .parse cs.path pe := by
  unfold ConfigSource.loadMain at h
  cases hr : fs.readFile cs.path with
  | error e =>
    cases e <;> simp only [hr, IOError.isNotExist, reduceIte, reduceCtorEq,
      Except.error.injEq] at h
    exact .inl ⟨_, rfl, rfl, h.symm⟩
  | ok data =>
    cases hd : parseConfigDTO data with
    | error pe =>
      simp only [hr, hd, Except.error.injEq] at h
      exact .inr ⟨data, pe, rfl, hd, h.symm⟩
    | ok dto => simp [hr, hd] at h

/-- A failed directory stage: the directory exists but cannot be listed. -/
theorem findDropInFiles_error {fs : FileSystem} {cs : ConfigSource} {err : ConfError}
    (h : cs.findDropInFiles fs = .error err) :
    isNotExist (fs.stat cs.dropInDir) = false ∧
      ∃ e, fs.readDir cs.dropInDir = .error e ∧ err = .readDropInDir cs.dropInDir e := by
  unfold ConfigSource.findDropInFiles at h
  split_ifs at h with hstat
  cases hr : fs.readDir cs.dropInDir with
  | error e =>
    simp only [hr, Except.error.injEq] at h
    exact ⟨by simpa using hstat, e, rfl, h.symm⟩
  | ok listing => simp [hr] at h

/-- **Which error `Read` returns.**  For every state of the file system on which
    `Read` fails, its error is that of the first stage, in resolution order, that
    could not be passed: the main file unreadable for a reason other than not
    existing (`load`, naming it) or malformed (`parse`, naming it); else the drop-in
    directory unlistable (`readDropInDir`, naming it); else the first drop-in, in
    sorted order, that does not load, every earlier one loading (its read error, or
    `parse` naming it).  The embedded-defaults error is never returned. -/
theorem read_error_provenance (fs : FileSystem) (cs : ConfigSource) (err : ConfError)
    (herr : (cs.read fs).2 = some err) :
    (∃ e, fs.readFile cs.path = .error e ∧ e.isNotExist = false ∧ err = .load cs.path e) ∨
    (∃ data pe, fs.readFile cs.path = .ok data ∧ parseConfigDTO data = .error pe ∧
      err = .parse cs.path pe) ∨
    (MainFilePasses fs cs.path ∧
      ((isNotExist (fs.stat cs.dropInDir) = false ∧
          ∃ e, fs.readDir cs.dropInDir = .error e ∧ err = .readDropInDir cs.dropInDir e) ∨
        ∃ paths pre p post, cs.findDropInFiles fs = .ok paths ∧
          paths = pre ++ p :: post ∧ (∀ q ∈ pre, Loads fs q) ∧
          ((∃ e, fs.readFile p = .error e ∧ err = .readDropIn e) ∨
            ∃ data pe, fs.readFile p = .ok data ∧ parseConfigDTO data = .error pe ∧
              err = .parse p pe))) := by
  have hb := parseConfigDTO_defaultConfig
  cases hm : cs.loadMain fs (Config.zero.update baselineDTO) with
  | error e =>
    rw [read_of_loadMain_error hb hm, Option.some.injEq] at herr
    subst herr
    exact (loadMain_error hm).elim .inl (.inr ∘ .inl)
  | ok resolved =>
    have hpass := (mainFilePasses_iff fs cs _).mpr ⟨resolved, hm⟩
    cases hd : cs.parseDropInFiles fs with
    | ok dtos => simp [read_of_ok hb hm hd] at herr
    | error e =>
      rw [read_of_parseDropInFiles_error hb hm hd, Option.some.injEq] at herr
      subst herr
      refine .inr (.inr ⟨hpass, ?_⟩)
      cases hf : cs.findDropInFiles fs with
      | ok paths =>
        obtain ⟨pre, p, post, hsplit, hpre, hp⟩ := parseDropInFiles_error hf hd
        exact .inr ⟨paths, pre, p, post, rfl, hsplit, hpre, hp⟩
      | error e' =>
        simp only [ConfigSource.parseDropInFiles, hf, bind, Except.bind,
          Except.error.injEq] at hd
        exact .inl (hd ▸ findDropInFiles_error hf)

/-- A directory listing `10-ok.toml`, `20-bad.toml` (malformed) and `30-late.toml`, with
    no main file. -/
def brokenDropInFs : FileSystem :=
  .ofFiles sources.dropInDir
    ⟨[⟨utf8 "30-late.toml", false, by decide⟩, ⟨utf8 "10-ok.toml", false, by decide⟩,
      ⟨utf8 "20-bad.toml", false, by decide⟩], by decide⟩
    [(utf8 "/etc/rhc/config.toml.d/10-ok.toml", .table ⟨[("ca-dir", .string "/ok")], by decide⟩),
     (utf8 "/etc/rhc/config.toml.d/20-bad.toml", .malformed "expected '='"),
     (utf8 "/etc/rhc/config.toml.d/30-late.toml", .table ⟨[], by decide⟩)]

/-- The malformed second drop-in stops the run; the main file, absent, was passed. -/
theorem read_error_provenance_broken :
    let err := ConfError.parse (utf8 "/etc/rhc/config.toml.d/20-bad.toml")
      (.invalidToml "expected '='")
    (sources.read brokenDropInFs).2 = some err ∧ MainFilePasses brokenDropInFs sources.path := by
  have hread : (sources.read brokenDropInFs).2 = some (.parse
      (utf8 "/etc/rhc/config.toml.d/20-bad.toml") (.invalidToml "expected '='")) := by decide
  have hmain : brokenDropInFs.readFile sources.path = .error .notExist := rfl
  refine ⟨hread, ?_⟩
  rcases read_error_provenance brokenDropInFs sources _ hread with
    ⟨e, hr, hne, -⟩ | ⟨data, pe, hr, -⟩ | ⟨hpass, -⟩
  · rw [hmain] at hr; cases hr; cases hne
  · rw [hmain] at hr; cases hr
  · exact hpass

/-! ## §4. The level of every run. -/

/-- The levels `Update` can set. -/
def namedLevels : List Level := [levelDebug, levelInfo, levelWarn, levelError]

theorem levelOfToken_mem {tok : String} {l : Level} (h : levelOfToken tok = some l) :
    l ∈ namedLevels := by
  unfold levelOfToken at h
  split at h <;> first | (cases h; decide) | simp at h

/-- `Update` keeps the level named. -/
theorem update_logLevel_mem {c : Config} (hc : c.logLevel ∈ namedLevels) (dto : ConfigDTO) :
    (c.update dto).logLevel ∈ namedLevels := by
  rw [update_logLevel]
  cases hl : dto.level with
  | none => exact hc
  | some l =>
    obtain ⟨tok, -, htok⟩ := Option.bind_eq_some.mp hl
    exact levelOfToken_mem htok

theorem foldl_update_logLevel_mem {c : Config} (hc : c.logLevel ∈ namedLevels) :
    ∀ dtos : List ConfigDTO, (dtos.foldl Config.update c).logLevel ∈ namedLevels
  | [] => hc
  | dto :: dtos => foldl_update_logLevel_mem (update_logLevel_mem hc dto) dtos

/-- **Every run of conf yields a named level.**  For every state of the file system,
    the level `Read` returns, with or without an error, and the level `init` installs
    are one of `DEBUG`, `INFO`, `WARN`, `ERROR`, whatever tokens the documents hold:
    `Update` sets no other, and `Config{}`'s level is `INFO`. -/
theorem read_logLevel_named (fs : FileSystem) (cs : ConfigSource) :
    (cs.read fs).1.logLevel ∈ namedLevels ∧
      ∀ c, init fs = .ok c → c.logLevel ∈ namedLevels := by
  have hread : ∀ cs : ConfigSource, (cs.read fs).1.logLevel ∈ namedLevels := by
    intro cs
    have hb := parseConfigDTO_defaultConfig
    have hbase := @update_logLevel_mem Config.zero (by decide) baselineDTO
    cases hm : cs.loadMain fs (Config.zero.update baselineDTO) with
    | error err => rw [read_of_loadMain_error hb hm]; exact hbase
    | ok r =>
      have hr : r.logLevel ∈ namedLevels := by
        rcases loadMain_cases fs cs (Config.zero.update baselineDTO) with h | ⟨⟨err, h⟩, -⟩ <;>
          rw [hm] at h <;> cases h
        exact foldl_update_logLevel_mem hbase _
      cases hd : cs.parseDropInFiles fs with
      | error err => rw [read_of_parseDropInFiles_error hb hm hd]; exact hr
      | ok dtos => rw [read_of_ok hb hm hd]; exact foldl_update_logLevel_mem hr dtos
  refine ⟨hread cs, fun c hc => ?_⟩
  cases h : (sources.read fs).2 with
  | none =>
    rw [init_of_read_ok h, Except.ok.injEq] at hc
    exact hc ▸ hread sources
  | some err =>
    rw [init_of_read_error (by simp [h]), Except.ok.injEq] at hc
    exact hc ▸ update_logLevel_mem (hread sources) baselineDTO

/-! ## §5. The order of the listing. -/

/-- `fs` with the directory `dir` listing `listing`. -/
def FileSystem.withListing (fs : FileSystem) (dir : GoString) (listing : DirListing) :
    FileSystem :=
  { fs with readDir := fun p => if p = dir then .ok listing else fs.readDir p }

theorem findDropInFiles_withListing_perm (fs : FileSystem) (cs : ConfigSource)
    {l l' : DirListing} (h : l.entries.Perm l'.entries) :
    cs.findDropInFiles (fs.withListing cs.dropInDir l) =
      cs.findDropInFiles (fs.withListing cs.dropInDir l') := by
  simp only [ConfigSource.findDropInFiles, FileSystem.withListing, if_true]
  split_ifs
  · rfl
  · rw [GoString.sortStrings_eq_of_perm (h.filterMap _)]

/-- **The listing order does not matter.**  For every state of the file system, two
    listings of the drop-in directory that hold the same entries in different orders
    give the same run of `Read`, value and error: `sort.Strings` fixes the order of
    the drop-ins. -/
theorem read_listing_perm (fs : FileSystem) (cs : ConfigSource) {l l' : DirListing}
    (h : l.entries.Perm l'.entries) :
    cs.read (fs.withListing cs.dropInDir l) = cs.read (fs.withListing cs.dropInDir l') := by
  have hmain : ∀ l r, cs.loadMain (fs.withListing cs.dropInDir l) r = cs.loadMain fs r :=
    fun _ _ => rfl
  have hload : ∀ l, loadDropIn (fs.withListing cs.dropInDir l) = loadDropIn fs := fun _ => rfl
  have hdrop : cs.parseDropInFiles (fs.withListing cs.dropInDir l) =
      cs.parseDropInFiles (fs.withListing cs.dropInDir l') := by
    simp only [ConfigSource.parseDropInFiles, hload, findDropInFiles_withListing_perm fs cs h]
  simp only [ConfigSource.read, hmain, hdrop]

/-- Two drop-ins listed in either order. -/
theorem read_listing_perm_swap :
    let a : DirEntry := ⟨utf8 "10-ok.toml", false, by decide⟩
    let b : DirEntry := ⟨utf8 "20-bad.toml", false, by decide⟩
    let l : DirListing := ⟨[a, b], by decide⟩
    let l' : DirListing := ⟨[b, a], by decide⟩
    l.entries.Perm l'.entries ∧
      sources.read (brokenDropInFs.withListing sources.dropInDir l) =
        sources.read (brokenDropInFs.withListing sources.dropInDir l') :=
  ⟨List.Perm.swap _ _ _, read_listing_perm _ _ (List.Perm.swap _ _ _)⟩

end Rhc.Conf
