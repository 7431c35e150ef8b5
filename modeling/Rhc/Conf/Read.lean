import Rhc.Conf.DropIn
/-
  Rhc.Conf.Read — `Read` on success refines the merge rule.
  ──────────────────────────────────────
  **When every read succeeds and every document parses, `Read` returns no error and
  the value `resolve` gives for the layers baseline, main file, drop-ins by name.**

  The hypotheses say what a state of the file system offers, stage by stage:
  `MainFileHolds` (the main file is absent, or reads and parses to its layer) and
  `DropInsHold` (the drop-in directory is absent, or lists the drop-ins whose
  names, in ascending byte-wise order, are `names`, and each reads and parses).
  Each stage gets one lemma (`loadMain_of_holds`, `parseDropInFiles_of_hold`), and
  `read_eq_resolve` chains them; the statements about single keys read fields off it.
-/

namespace Rhc.Conf

open Rhc.Go

/-! ## §1. The stages. -/

section Stages

variable {fs : FileSystem} {cs : ConfigSource} {base : ConfigDTO}
  (hbase : parseConfigDTO defaultConfig = .ok base)
include hbase

/-- `Read` stopped by the main file returns the baseline. -/
theorem read_of_loadMain_error {err : ConfError}
    (h : cs.loadMain fs (Config.zero.update base) = .error err) :
    cs.read fs = (Config.zero.update base, some err) := by
  simp [ConfigSource.read, hbase, h]

/-- `Read` stopped by the drop-ins returns the value after the main file. -/
theorem read_of_parseDropInFiles_error {resolved : Config} {err : ConfError}
    (hm : cs.loadMain fs (Config.zero.update base) = .ok resolved)
    (hd : cs.parseDropInFiles fs = .error err) :
    cs.read fs = (resolved, some err) := by
  simp [ConfigSource.read, hbase, hm, hd]

/-- A run of `Read` that no stage stops applies every drop-in in order. -/
theorem read_of_ok {resolved : Config} {dtos : List ConfigDTO}
    (hm : cs.loadMain fs (Config.zero.update base) = .ok resolved)
    (hd : cs.parseDropInFiles fs = .ok dtos) :
    cs.read fs = (dtos.foldl Config.update resolved, none) := by
  simp [ConfigSource.read, hbase, hm, hd]

end Stages

/-- The main file offers `layer`: none when it does not exist, else the layer it
    parses to. -/
def MainFileHolds (fs : FileSystem) (path : GoString) : Option ConfigDTO → Prop
  | none => fs.readFile path = .error .notExist
  | some dto => ∃ data, fs.readFile path = .ok data ∧ parseConfigDTO data = .ok dto

theorem loadMain_of_holds {fs : FileSystem} {cs : ConfigSource} {layer : Option ConfigDTO}
    (h : MainFileHolds fs cs.path layer) (resolved : Config) :
    cs.loadMain fs resolved = .ok (layer.toList.foldl Config.update resolved) := by
  cases layer with
  | none => simp [MainFileHolds] at h; simp [ConfigSource.loadMain, h, IOError.isNotExist]
  | some dto =>
    obtain ⟨data, hread, hparse⟩ := h
    simp [ConfigSource.loadMain, hread, hparse]

/-- The drop-in directory offers the layers of `names`: it does not exist and there
    are none, or it lists drop-ins whose names are `names` in ascending byte-wise
    order; and each of them reads and parses to `layerOf` of its name. -/
structure DropInsHold (fs : FileSystem) (dir : GoString) (names : List GoString)
    (layerOf : GoString → ConfigDTO) : Prop where
  listed : (isNotExist (fs.stat dir) = true ∧ names = []) ∨
    (isNotExist (fs.stat dir) = false ∧ ∃ listing, fs.readDir dir = .ok listing ∧
      names.Perm (dropInNames listing.entries) ∧ names.Pairwise (fun a b => GoString.lt a b))
  parsed : ∀ n ∈ names, ∃ data, fs.readFile (join dir n) = .ok data ∧
    parseConfigDTO data = .ok (layerOf n)

/-- The drop-in names in ascending order are the sorted drop-in names. -/
theorem eq_sortStrings_of_ascending {names xs : List GoString} (hp : names.Perm xs)
    (hs : names.Pairwise (fun a b => GoString.lt a b)) : names = GoString.sortStrings xs :=
  GoString.eq_sortStrings hp (hs.imp fun h => by simp [GoString.Le, GoString.le,
    GoString.lt_asymm h])

theorem findDropInFiles_of_hold {fs : FileSystem} {cs : ConfigSource} {names : List GoString}
    {layerOf : GoString → ConfigDTO} (h : DropInsHold fs cs.dropInDir names layerOf) :
    cs.findDropInFiles fs = .ok (names.map (join cs.dropInDir)) := by
  rcases h.listed with ⟨hstat, rfl⟩ | ⟨hstat, listing, hread, hp, hs⟩
  · simp [ConfigSource.findDropInFiles, hstat]
  · rw [findDropInFiles_eq fs cs listing hstat hread, eq_sortStrings_of_ascending hp hs]

theorem mapM_loadDropIn {fs : FileSystem} {dir : GoString} {layerOf : GoString → ConfigDTO} :
    ∀ {names : List GoString}, (∀ n ∈ names, ∃ data, fs.readFile (join dir n) = .ok data ∧
      parseConfigDTO data = .ok (layerOf n)) →
      (names.map (join dir)).mapM (loadDropIn fs) = .ok (names.map layerOf)
  | [], _ => rfl
  | n :: names, h => by
    obtain ⟨data, hread, hparse⟩ := h n (List.mem_cons_self _ _)
    have ih := mapM_loadDropIn fun m hm => h m (List.mem_cons_of_mem _ hm)
    simp only [List.map_cons, List.mapM_cons, loadDropIn, hread, hparse, ih]
    rfl

theorem parseDropInFiles_of_hold {fs : FileSystem} {cs : ConfigSource} {names : List GoString}
    {layerOf : GoString → ConfigDTO} (h : DropInsHold fs cs.dropInDir names layerOf) :
    cs.parseDropInFiles fs = .ok (names.map layerOf) := by
  simp only [ConfigSource.parseDropInFiles, findDropInFiles_of_hold h]
  exact mapM_loadDropIn h.parsed

/-! ## §2. A successful run. -/

/-- **`Read` refines the merge rule.**  When every stage succeeds, `Read` returns no
    error and `resolve` of the layers: baseline, main file, drop-ins by name. -/
theorem read_eq_resolve (fs : FileSystem) (cs : ConfigSource) {base : ConfigDTO}
    {mainLayer : Option ConfigDTO} {names : List GoString} {layerOf : GoString → ConfigDTO}
    (hbase : parseConfigDTO defaultConfig = .ok base)
    (hmain : MainFileHolds fs cs.path mainLayer)
    (hdrop : DropInsHold fs cs.dropInDir names layerOf) :
    cs.read fs = (resolve Config.zero (base :: mainLayer.toList ++ names.map layerOf), none) := by
  rw [read_of_ok hbase (loadMain_of_holds hmain _) (parseDropInFiles_of_hold hdrop)]
  simp only [← foldl_update_eq_resolve, List.foldl_cons, List.foldl_append]

/-- **Last layer wins.**  For every state of the main file and of the drop-in
    directory in which every read succeeds and every document parses, `Read` returns
    no error, and each of `CertFile`, `KeyFile`, `CADir` is the value of the last
    layer that specifies it, an explicit `""` included, and `""` when none does. -/
theorem read_last_layer_wins (fs : FileSystem) (cs : ConfigSource) (base : ConfigDTO)
    (mainLayer : Option ConfigDTO) (names : List GoString) (layerOf : GoString → ConfigDTO)
    (hbase : parseConfigDTO defaultConfig = .ok base)
    (hmain : MainFileHolds fs cs.path mainLayer)
    (hdrop : DropInsHold fs cs.dropInDir names layerOf) :
    let layers := base :: mainLayer.toList ++ names.map layerOf
    (cs.read fs).2 = none ∧
      (cs.read fs).1.certFile = (lastSpecified (layers.map (·.certFile))).getD "" ∧
      (cs.read fs).1.keyFile = (lastSpecified (layers.map (·.keyFile))).getD "" ∧
      (cs.read fs).1.caDir = (lastSpecified (layers.map (·.caDir))).getD "" := by
  rw [read_eq_resolve fs cs hbase hmain hdrop]
  exact ⟨rfl, rfl, rfl, rfl⟩

/-! ### A main file and three drop-ins -/

/-- The layer `defaultConfig` parses to. -/
def baselineDTO : ConfigDTO := ⟨some "", some "", some "INFO", some ""⟩

theorem parseConfigDTO_defaultConfig : parseConfigDTO defaultConfig = .ok baselineDTO := rfl

/-- A main file, and `10-key.toml`, `20-debug.toml`, `30-cadir.toml` listed out of order
    among a `README` and a directory. -/
def scenarioFs : FileSystem :=
  .ofFiles sources.dropInDir
    ⟨[⟨utf8 "30-cadir.toml", false, by decide⟩, ⟨utf8 "README", false, by decide⟩,
      ⟨utf8 "10-key.toml", false, by decide⟩, ⟨utf8 "old.toml", true, by decide⟩,
      ⟨utf8 "20-debug.toml", false, by decide⟩], by decide⟩
    [(sources.path, .table ⟨[("cert-file", .string "/etc/rhc/main.pem"),
        ("log-level", .string "INFO"), ("ca-dir", .string "/etc/pki/tls/certs")], by decide⟩),
      (join sources.dropInDir (utf8 "10-key.toml"),
        .table ⟨[("key-file", .string "/etc/rhc/dropin.key")], by decide⟩),
      (join sources.dropInDir (utf8 "20-debug.toml"),
        .table ⟨[("log-level", .string "DEBUG")], by decide⟩),
      (join sources.dropInDir (utf8 "30-cadir.toml"),
        .table ⟨[("ca-dir", .string "/custom/certs")], by decide⟩)]

/-- The scenario's drop-in layers, by name. -/
def scenarioLayer (n : GoString) : ConfigDTO :=
  if n = utf8 "10-key.toml" then ⟨none, some "/etc/rhc/dropin.key", none, none⟩
  else if n = utf8 "20-debug.toml" then ⟨none, none, some "DEBUG", none⟩
  else ⟨none, none, none, some "/custom/certs"⟩

theorem read_last_layer_wins_scenario :
    let mainLayer : ConfigDTO := ⟨some "/etc/rhc/main.pem", none, some "INFO",
      some "/etc/pki/tls/certs"⟩
    let names := [utf8 "10-key.toml", utf8 "20-debug.toml", utf8 "30-cadir.toml"]
    let layers := baselineDTO :: [mainLayer] ++ names.map scenarioLayer
    MainFileHolds scenarioFs sources.path (some mainLayer) ∧
      DropInsHold scenarioFs sources.dropInDir names scenarioLayer ∧
      (sources.read scenarioFs).2 = none ∧
      (sources.read scenarioFs).1.certFile = (lastSpecified (layers.map (·.certFile))).getD "" ∧
      (sources.read scenarioFs).1.keyFile = (lastSpecified (layers.map (·.keyFile))).getD "" ∧
      (sources.read scenarioFs).1.caDir = (lastSpecified (layers.map (·.caDir))).getD "" := by
  have hmain : MainFileHolds scenarioFs sources.path
      (some ⟨some "/etc/rhc/main.pem", none, some "INFO", some "/etc/pki/tls/certs"⟩) :=
    ⟨_, rfl, rfl⟩
  have hdrop : DropInsHold scenarioFs sources.dropInDir
      [utf8 "10-key.toml", utf8 "20-debug.toml", utf8 "30-cadir.toml"] scenarioLayer := by
    refine ⟨.inr ⟨rfl, _, rfl, by decide, by decide⟩, ?_⟩
    simp only [List.mem_cons, List.mem_singleton, List.not_mem_nil, or_false]
    rintro n (rfl | rfl | rfl) <;> exact ⟨_, rfl, rfl⟩
  exact ⟨hmain, hdrop, read_last_layer_wins scenarioFs sources baselineDTO _ _ scenarioLayer
    parseConfigDTO_defaultConfig hmain hdrop⟩

/-! ## §3. A stopped run. -/

/-- The layer the main file contributes when it reads and parses; none otherwise. -/
def mainLayerOf (fs : FileSystem) (path : GoString) : List ConfigDTO :=
  match fs.readFile path with
  | .ok data =>
    match parseConfigDTO data with
    | .ok dto => [dto]
    | .error _ => []
  | .error _ => []

/-- Step 2 either applies the main file's layer, or stops, and then the main file
    contributes no layer. -/
theorem loadMain_cases (fs : FileSystem) (cs : ConfigSource) (resolved : Config) :
    cs.loadMain fs resolved = .ok ((mainLayerOf fs cs.path).foldl Config.update resolved) ∨
      (∃ err, cs.loadMain fs resolved = .error err) ∧ mainLayerOf fs cs.path = [] := by
  unfold ConfigSource.loadMain mainLayerOf
  rcases fs.readFile cs.path with err | data
  · cases err <;> simp [IOError.isNotExist]
  · cases h : parseConfigDTO data <;> simp [h]

/-- **A stopped run keeps no drop-in.**  When `Read` returns an error, the value
    returned with it is the fold of `Update` over the baseline and, when the main
    file read and parsed, its layer: no drop-in is applied, not even one sorted
    before the drop-in that failed. -/
theorem read_error_value (fs : FileSystem) (cs : ConfigSource) {base : ConfigDTO}
    (hbase : parseConfigDTO defaultConfig = .ok base) (herr : (cs.read fs).2.isSome) :
    (cs.read fs).1 = (base :: mainLayerOf fs cs.path).foldl Config.update Config.zero := by
  rcases loadMain_cases fs cs (Config.zero.update base) with hm | ⟨⟨err, hm⟩, hnil⟩
  · rcases hd : cs.parseDropInFiles fs with err | dtos
    · rw [read_of_parseDropInFiles_error hbase hm hd]
      rfl
    · simp [read_of_ok hbase hm hd] at herr
  · rw [read_of_loadMain_error hbase hm, hnil]
    rfl

/-- `10-ok.toml` sets `cert-file`; `20-bad.toml`, sorted after it, is malformed. -/
def twoDropInsFs : FileSystem :=
  .ofFiles sources.dropInDir
    ⟨[⟨utf8 "20-bad.toml", false, by decide⟩, ⟨utf8 "10-ok.toml", false, by decide⟩],
      by decide⟩
    [(join sources.dropInDir (utf8 "10-ok.toml"),
        .table ⟨[("cert-file", .string "/etc/rhc/ok.pem")], by decide⟩),
      (join sources.dropInDir (utf8 "20-bad.toml"), .malformed "expected '=' after key")]

theorem read_error_value_twoDropIns :
    parseConfigDTO defaultConfig = .ok baselineDTO ∧ (sources.read twoDropInsFs).2.isSome ∧
      (sources.read twoDropInsFs).1 =
        (baselineDTO :: mainLayerOf twoDropInsFs sources.path).foldl Config.update Config.zero :=
  ⟨parseConfigDTO_defaultConfig, by decide,
    read_error_value twoDropInsFs sources parseConfigDTO_defaultConfig (by decide)⟩

/-- The value returned with the error of `20-bad.toml` does not reflect `10-ok.toml`,
    although `10-ok.toml` reads, parses, and is sorted first. -/
theorem read_error_drops_earlier_dropIns :
    let okLayer : ConfigDTO := ⟨some "/etc/rhc/ok.pem", none, none, none⟩
    loadDropIn twoDropInsFs (join sources.dropInDir (utf8 "10-ok.toml")) = .ok okLayer ∧
      (sources.read twoDropInsFs).2.isSome ∧
      (sources.read twoDropInsFs).1 ≠ [baselineDTO, okLayer].foldl Config.update Config.zero :=
  ⟨rfl, by decide, by decide⟩

end Rhc.Conf
