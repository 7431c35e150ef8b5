import Rhc.Interactive.Settings
import Rhc.Slog.Level
/-
  Rhc.Interactive.Messages — `logging.HasPriorityErrors` and `ShowErrorMessages`.
  ──────────────────────────────────────
  **`ShowErrorMessages` decides the exit status inside the block that the configured
  verbosity guards.**

  A command records each failed step in a `map[string]LogMessage`.  `ShowErrorMessages`
  prints the messages at or above `config.Global.LogLevel` and, inside that same `if`,
  returns `cli.Exit("", 1)` when some message is at `LevelError` or above.  For every
  level up to `ERROR` the outer test is implied by the inner one
  (`showErrorMessages_exit_of_le_error`); above `ERROR` it hides it.

  A Go map is iterated in no fixed order; it is modelled as the list of its entries in
  one such order, and an assignment replaces the entry under its key
  (`ErrorMessages.set`).  `HasPriorityErrors` asks whether some entry qualifies, an
  answer no order changes; the rows of the table come in the chosen order.

  Main results:
    * `showErrorMessages_exit_iff` — when the table fails the command.
    * `showErrorMessages_exit_of_le_error` — up to `ERROR`, the exit status is the
      error test alone.
-/

namespace Rhc.Interactive

open Rhc.Slog

/-! ## §1. Messages and `HasPriorityErrors`. -/

/-- `logging.LogMessage`; the error is kept as its text. -/
structure LogMessage where
  level : Level
  message : String
  deriving DecidableEq, Repr

/-- A `map[string]logging.LogMessage`: its entries in one iteration order. -/
abbrev ErrorMessages := List (String × LogMessage)

/-- `errorMessages[key] = logMsg`: the entry replaces any under the same key. -/
def ErrorMessages.set (m : ErrorMessages) (key : String) (logMsg : LogMessage) : ErrorMessages :=
  m.filter (·.1 ≠ key) ++ [(key, logMsg)]

/-- `logging.HasPriorityErrors`: some message at `level` or above. -/
def hasPriorityErrors (errorMessages : ErrorMessages) (level : Level) : Bool :=
  errorMessages.any fun kv => decide (level ≤ kv.2.level)

theorem hasPriorityErrors_iff (m : ErrorMessages) (level : Level) :
    hasPriorityErrors m level ↔ ∃ kv ∈ m, level ≤ kv.2.level := by
  simp [hasPriorityErrors]

/-- A lower threshold is met by more maps. -/
theorem hasPriorityErrors_mono {m : ErrorMessages} {l l' : Level} (hl : l ≤ l')
    (h : hasPriorityErrors m l') : hasPriorityErrors m l := by
  obtain ⟨kv, hkv, hle⟩ := (hasPriorityErrors_iff m l').mp h
  exact (hasPriorityErrors_iff m l).mpr ⟨kv, hkv, Int.le_trans hl hle⟩

/-! ## §2. `ShowErrorMessages`. -/

/-- One printed row of the table: `TYPE`, `STEP`, `ERROR`. -/
abbrev ErrorRow := Level × String × String

/-- `ShowErrorMessages`: the table it prints (the action and the rows), and the exit
    code of the error it returns.  `globalLevel` is `config.Global.LogLevel`. -/
def showErrorMessages (action : String) (errorMessages : ErrorMessages)
    (uiSettings : UserInterfaceSettings) (globalLevel : Level) :
    Option (String × List ErrorRow) × Option Nat :=
  if hasPriorityErrors errorMessages globalLevel then
    if !uiSettings.isMachineReadable then
      let rows := errorMessages.filterMap fun (step, logMsg) =>
        if globalLevel ≤ logMsg.level then some (logMsg.level, step, logMsg.message) else none
      (some (action, rows), if hasPriorityErrors errorMessages levelError then some 1 else none)
    else (none, none)
  else (none, none)

/-- **When `ShowErrorMessages` fails the command**: in human-readable mode, when some
    message is at the configured level or above AND some message is at `ERROR` or
    above. -/
theorem showErrorMessages_exit_iff (action : String) (m : ErrorMessages)
    (ui : UserInterfaceSettings) (globalLevel : Level) :
    (showErrorMessages action m ui globalLevel).2 = some 1 ↔
      ui.isMachineReadable = false ∧ hasPriorityErrors m globalLevel ∧
        hasPriorityErrors m levelError := by
  unfold showErrorMessages
  by_cases h₁ : hasPriorityErrors m globalLevel <;>
    by_cases h₂ : hasPriorityErrors m levelError <;> cases ui.isMachineReadable <;> simp [h₁, h₂]

/-- **Up to `ERROR`, the exit status is the error test alone.**  For every configured
    level at or below `LevelError`, in human-readable mode `ShowErrorMessages` fails the
    command exactly when some message is at `LevelError` or above. -/
theorem showErrorMessages_exit_of_le_error (action : String) (m : ErrorMessages)
    (ui : UserInterfaceSettings) {globalLevel : Level} (hl : globalLevel ≤ levelError)
    (hui : ui.isMachineReadable = false) :
    (showErrorMessages action m ui globalLevel).2 = some 1 ↔ hasPriorityErrors m levelError := by
  rw [showErrorMessages_exit_iff]
  exact ⟨fun h => h.2.2, fun h => ⟨hui, hasPriorityErrors_mono hl h, h⟩⟩

end Rhc.Interactive
