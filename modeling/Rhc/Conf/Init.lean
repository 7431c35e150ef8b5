import Rhc.Conf.Read
/-
  Rhc.Conf.Init — the process-wide `Configuration`, and its log level.
  ──────────────────────────────────────
  **`init` installs what `Read` resolved, or else the baseline alone.**

  `init` runs `Read` on `/etc/rhc/config.toml` and `/etc/rhc/config.toml.d/`.  On
  success it installs the resolved value.  On an error it applies the embedded
  defaults on top of the PARTIAL value `Read` returned, not on `Config{}`; that this
  still yields the baseline alone is a property of the baseline document: it
  specifies every key, with a level `Update` knows (`ConfigDTO.Complete`).

  The log level follows the merge rule with one twist of the code: `Update`'s
  `switch` has no `default`, so a layer whose token is not one of the four exact
  names does not specify a level at all, and an earlier level survives it.

  Main results:
    * `read_level_last_named` — the level is that of the last layer naming one of
      the four levels, `INFO` when none does, in `Read` and in `init`.
    * `init_fallback_baseline` — every failed run installs `Config{}` updated by the
      baseline.
-/

namespace Rhc.Conf

open Rhc.Go Rhc.Slog

/-! ## §1. `init` on the two outcomes of `Read`. -/

/-- After a run that no stage stopped, `init` installs its value. -/
theorem init_of_read_ok {fs : FileSystem} (h : (sources.read fs).2 = none) :
    init fs = .ok (sources.read fs).1 := by
  unfold init
  rcases hr : sources.read fs with ⟨c, _ | err⟩
  · rfl
  · simp [hr] at h

/-- After a stopped run, `init` updates the partial value by the baseline. -/
theorem init_of_read_error {fs : FileSystem} (h : (sources.read fs).2.isSome) :
    init fs = .ok ((sources.read fs).1.update baselineDTO) := by
  unfold init
  rcases hr : sources.read fs with ⟨c, _ | err⟩
  · simp [hr] at h
  · simp [parseConfigDTO_defaultConfig]

/-! ## §2. The log level. -/

/-- **The level of the last layer that names one.**  On a run where every read
    succeeds and every document parses, the level `Read` returns, and `init`
    installs, is the level of the last layer whose token is one of `DEBUG`, `INFO`,
    `WARN`, `ERROR`, and `INFO` when no layer's is; a layer with any other token
    leaves the level the earlier layers set. -/
theorem read_level_last_named (fs : FileSystem) (cs : ConfigSource) (base : ConfigDTO)
    (mainLayer : Option ConfigDTO) (names : List GoString) (layerOf : GoString → ConfigDTO)
    (hbase : parseConfigDTO defaultConfig = .ok base)
    (hmain : MainFileHolds fs cs.path mainLayer)
    (hdrop : DropInsHold fs cs.dropInDir names layerOf) :
    let layers := base :: mainLayer.toList ++ names.map layerOf
    (cs.read fs).1.logLevel = (lastSpecified (layers.map (·.level))).getD levelInfo ∧
      (cs = sources → init fs = .ok (cs.read fs).1) := by
  have hread := read_eq_resolve fs cs hbase hmain hdrop
  refine ⟨by rw [hread]; rfl, ?_⟩
  rintro rfl
  exact init_of_read_ok (by rw [hread])

/-- A main file naming `DEBUG`, and one drop-in whose token is `debug`. -/
def debugThenLowerFs : FileSystem :=
  .ofFiles sources.dropInDir ⟨[⟨utf8 "10-quiet.toml", false, by decide⟩], by decide⟩
    [(sources.path, .table ⟨[("log-level", .string "DEBUG")], by decide⟩),
      (join sources.dropInDir (utf8 "10-quiet.toml"),
        .table ⟨[("log-level", .string "debug")], by decide⟩)]

theorem read_level_last_named_lower :
    let mainLayer : ConfigDTO := ⟨none, none, some "DEBUG", none⟩
    let names := [utf8 "10-quiet.toml"]
    let layerOf : GoString → ConfigDTO := fun _ => ⟨none, none, some "debug", none⟩
    let layers := baselineDTO :: [mainLayer] ++ names.map layerOf
    MainFileHolds debugThenLowerFs sources.path (some mainLayer) ∧
      DropInsHold debugThenLowerFs sources.dropInDir names layerOf ∧
      (sources.read debugThenLowerFs).1.logLevel =
        (lastSpecified (layers.map (·.level))).getD levelInfo ∧
      (sources = sources → init debugThenLowerFs = .ok (sources.read debugThenLowerFs).1) := by
  have hmain : MainFileHolds debugThenLowerFs sources.path
      (some ⟨none, none, some "DEBUG", none⟩) := ⟨_, rfl, rfl⟩
  have hdrop : DropInsHold debugThenLowerFs sources.dropInDir [utf8 "10-quiet.toml"]
      (fun _ => ⟨none, none, some "debug", none⟩) :=
    ⟨.inr ⟨rfl, _, rfl, by decide, by decide⟩, by simp; exact ⟨_, rfl, rfl⟩⟩
  exact ⟨hmain, hdrop, read_level_last_named debugThenLowerFs sources baselineDTO _ _ _
    parseConfigDTO_defaultConfig hmain hdrop⟩

/-- The last layer to give a level token gives `debug`, not one of the four names,
    yet the level `Read` returns and `init` installs is `DEBUG`, from the main file,
    not `INFO`. -/
theorem read_level_survives_unknown_token :
    loadDropIn debugThenLowerFs (join sources.dropInDir (utf8 "10-quiet.toml")) =
        .ok ⟨none, none, some "debug", none⟩ ∧
      (sources.read debugThenLowerFs).2 = none ∧
      (sources.read debugThenLowerFs).1.logLevel ≠ levelInfo ∧
      init debugThenLowerFs = .ok (sources.read debugThenLowerFs).1 :=
  ⟨rfl, by decide, by decide, rfl⟩

/-! ## §3. The fallback. -/

theorem baselineDTO_complete : baselineDTO.Complete := by decide

/-- **The fallback installs the baseline alone.**  Whenever `Read` fails, `init`
    installs `Config{}` updated by the embedded defaults: nothing the main file or a
    drop-in set survives, although the defaults are applied on top of the partial
    value `Read` returned. -/
theorem init_fallback_baseline (fs : FileSystem) (herr : (sources.read fs).2.isSome) :
    init fs = (parseConfigDTO defaultConfig).map Config.zero.update := by
  rw [init_of_read_error herr, parseConfigDTO_defaultConfig,
    update_of_complete baselineDTO_complete _ Config.zero]
  rfl

/-- The main file sets `cert-file`, and the drop-in directory exists but cannot be
    read: `Read` fails with the main file's value, and `init` drops it. -/
def unreadableDropInsFs : FileSystem where
  stat _ := .ok ()
  readDir _ := .error (.other "permission denied")
  readFile p :=
    if p = sources.path then .ok (.table ⟨[("cert-file", .string "/etc/rhc/main.pem")], by decide⟩)
    else .error .notExist
  httpGet _ := .error "connect: network is unreachable"

theorem init_fallback_baseline_unreadable :
    (sources.read unreadableDropInsFs).2.isSome ∧
      (sources.read unreadableDropInsFs).1.certFile = "/etc/rhc/main.pem" ∧
      init unreadableDropInsFs = (parseConfigDTO defaultConfig).map Config.zero.update :=
  ⟨by decide, by decide, init_fallback_baseline unreadableDropInsFs (by decide)⟩

end Rhc.Conf
