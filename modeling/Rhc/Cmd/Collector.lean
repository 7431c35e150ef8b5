import Rhc.Go.Filepath
import Rhc.Interactive.Settings
/-
  Rhc.Cmd.Collector — `rhc canonical-facts` and `rhc collector`.
  ──────────────────────────────────────
  **`collector` writes exactly the document `canonical-facts` prints, to
  `lib/rhc/canonical-facts.json` under `LocalstateDir`, however that directory is
  spelled.**

  Both hidden commands collect the canonical facts and marshal them, indented by four
  spaces; `canonical-facts` prints the document, `collector` creates
  `filepath.Join(LocalstateDir, "lib", "rhc")` and writes the document to
  `filepath.Join` of that directory and `canonical-facts.json`.  Each failing call ends
  the command with `fmt.Errorf("<step>: %v", err)`.  The calls are inputs
  (`FactsProbes`): the facts package, `encoding/json` and the file system are outside
  the sources, and so is `config.LocalstateDir`, a build setting.

  The four error checks are one definition, `orFail`, at their own messages.

  Main result: `collectorAction_ok_iff` — when `collector` succeeds, and what it writes
  where.
-/

namespace Rhc.Cmd

open Rhc.Go Rhc.Interactive

/-! ## §1. Calls and the shared steps. -/

/-- What the calls answered: `facts.GetCanonicalFacts`, `json.MarshalIndent` of the facts
    it returned, and `os.MkdirAll`, `os.WriteFile` at the paths they are given. -/
structure FactsProbes (Facts : Type) where
  getCanonicalFacts : Except String Facts
  marshalIndent : Facts → Except String String
  mkdirAll : GoString → Except String Unit
  writeFile : GoString → String → Except String Unit

/-- `if err != nil { return fmt.Errorf(format + ": %v", err) }` after one call. -/
def orFail {β : Type} (format : String) : Except String β → Except CmdError β
  | .ok b => .ok b
  | .error err => .error (.plain (format ++ ": " ++ err))

variable {Facts : Type}

/-- `canonicalFactsAction`: the document it prints. -/
def canonicalFactsAction (p : FactsProbes Facts) : Except CmdError String := do
  let canonicalFacts ← orFail "unable to collect canonical facts" p.getCanonicalFacts
  orFail "unable to marshal canonical facts" (p.marshalIndent canonicalFacts)

/-- The file `collectorAction` writes and the document it writes there; it then prints
    `Canonical facts written to <file>`. -/
structure CollectorRun where
  factsFile : GoString
  data : String
  deriving DecidableEq, Repr

/-- `collectorAction`; `localstateDir` is `config.LocalstateDir`.  Its first two steps are
    the same code as `canonicalFactsAction`'s. -/
def collectorAction (localstateDir : GoString) (p : FactsProbes Facts) :
    Except CmdError CollectorRun := do
  let data ← canonicalFactsAction p
  let factsDir := joinAll [localstateDir, utf8 "lib", utf8 "rhc"]
  orFail "unable to create facts directory" (p.mkdirAll factsDir)
  let factsFile := join factsDir (utf8 "canonical-facts.json")
  orFail "unable to write facts file" (p.writeFile factsFile data)
  pure ⟨factsFile, data⟩

/-! ## §2. Where the facts go. -/

theorem factsDir_eq (localstateDir : GoString) :
    joinAll [localstateDir, utf8 "lib", utf8 "rhc"] = joinPrefix localstateDir ++ utf8 "lib/rhc" := by
  rw [joinAll_eq_join_join _ (by decide) (by decide), join_pathElem _ (by decide),
    joinPrefix_join _ (by decide), List.append_assoc, List.append_assoc]
  rfl

theorem factsFile_eq (localstateDir : GoString) :
    join (joinAll [localstateDir, utf8 "lib", utf8 "rhc"]) (utf8 "canonical-facts.json") =
      joinPrefix localstateDir ++ utf8 "lib/rhc/canonical-facts.json" := by
  rw [joinAll_eq_join_join _ (by decide) (by decide), join_pathElem _ (by decide),
    joinPrefix_join _ (by decide), joinPrefix_join _ (by decide)]
  simp only [List.append_assoc]
  rfl

/-! ## §3. What `collector` does. -/

/-- **What `collector` writes, and where.**  For every `LocalstateDir` and every answer of
    the calls, `collector` succeeds exactly when the facts are collected and marshalled
    into the document `canonical-facts` prints on the same answers, the directory
    `lib/rhc` under `LocalstateDir` is created and the document is written to
    `lib/rhc/canonical-facts.json` there; it then reports that file and that document. -/
theorem collectorAction_ok_iff (localstateDir : GoString) (p : FactsProbes Facts)
    (run : CollectorRun) :
    collectorAction localstateDir p = .ok run ↔
      ∃ data, canonicalFactsAction p = .ok data ∧
        p.mkdirAll (joinPrefix localstateDir ++ utf8 "lib/rhc") = .ok () ∧
        p.writeFile (joinPrefix localstateDir ++ utf8 "lib/rhc/canonical-facts.json") data = .ok () ∧
        run = ⟨joinPrefix localstateDir ++ utf8 "lib/rhc/canonical-facts.json", data⟩ := by
  unfold collectorAction
  rw [← factsDir_eq, ← factsFile_eq]
  cases canonicalFactsAction p with
  | error e => simp [bind, Except.bind]
  | ok data =>
    cases hd : p.mkdirAll (joinAll [localstateDir, utf8 "lib", utf8 "rhc"]) <;>
      cases hw : p.writeFile (join (joinAll [localstateDir, utf8 "lib", utf8 "rhc"])
        (utf8 "canonical-facts.json")) data <;>
      simp [hd, hw, bind, Except.bind, pure, Except.pure, orFail, eq_comm]

end Rhc.Cmd
