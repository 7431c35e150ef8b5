import Mathlib.Data.List.Basic
/-
  Rhc.Interactive.Settings — output settings, `--format`, and the `Before` hook of a
  subcommand.
  ──────────────────────────────────────
  **The format a subcommand's `Before` hook validates never reaches its action.**

  `connect`, `disconnect` and `status` share one `Before` hook: `CheckForUnknownArgs`,
  then `SetupFormatOption` on settings from `ConfigureUISettings`.  The hook returns
  only the error: the settings `SetupFormatOption` switched to machine-readable output
  are a local copy, dropped on return.  Each action builds its own settings with
  `ConfigureUISettings`, and those are never machine-readable
  (`configureUISettings_isMachineReadable`).

  An error an action or hook returns ends the process: `cli.Exit(err, code)` with its
  code, any other error through `main`'s `os.Exit(1)`.

  Main results:
    * `commandBefore_ok_iff` — the hook accepts exactly no positional arguments and a
      format of "" or "json".
-/

namespace Rhc.Interactive

/-! ## §1. Errors and settings. -/

/-- An error returned to `app.Run`: `cli.Exit(message, code)`, or a plain error. -/
inductive CmdError where
  | exit (message : String) (code : Nat)
  | plain (message : String)
  deriving DecidableEq, Repr

/-- The status the process exits with: the code of a `cli.Exit` error, and 1 for a plain
    error, which `main` logs before `os.Exit(1)`. -/
def CmdError.exitCode : CmdError → Nat
  | .exit _ code => code
  | .plain _ => 1

/-- `interactive.UserInterfaceSettings`, the fields the modelled functions read; the
    icons only decorate printed lines. -/
structure UserInterfaceSettings where
  isMachineReadable : Bool
  isRich : Bool
  deriving DecidableEq, Repr

/-- `ConfigureUISettings`; `noColor` is `ctx.Bool("no-color")`. -/
def configureUISettings (noColor : Bool) : UserInterfaceSettings :=
  if noColor then { isRich := false, isMachineReadable := false }
  else { isRich := true, isMachineReadable := false }

@[simp] theorem configureUISettings_isMachineReadable (noColor : Bool) :
    (configureUISettings noColor).isMachineReadable = false := by
  cases noColor <;> rfl

/-! ## §2. `SetupFormatOption`, `CheckForUnknownArgs` and the hook. -/

/-- `SetupFormatOption`: the settings after `--format`, or the error it exits with. -/
def setupFormatOption (format : String) (uiSettings : UserInterfaceSettings)
    (exitCodeDataErr : Nat) : Except CmdError UserInterfaceSettings :=
  match format with
  | "" => .ok uiSettings
  | "json" => .ok { uiSettings with isMachineReadable := true, isRich := false }
  | _ => .error (.exit ("unsupported format: " ++ format ++ " (supported formats: \"json\")")
      exitCodeDataErr)

/-- `util.CheckForUnknownArgs`; `args` is `ctx.Args().Slice()`. -/
def checkForUnknownArgs (args : List String) : Except CmdError Unit :=
  if args.length ≠ 0 then .error (.plain ("error: unknown option(s): " ++ " ".intercalate args))
  else .ok ()

/-- The flags of a subcommand's `cli.Context` that the modelled code reads. -/
structure CmdContext where
  args : List String
  noColor : Bool
  format : String
  deriving DecidableEq, Repr

/-- The `Before` hook of `connect`, `disconnect` and `status` in `main`; `exitCodeDataErr`
    is `config.ExitCodeDataErr`, declared outside the sources. -/
def commandBefore (ctx : CmdContext) (exitCodeDataErr : Nat) : Except CmdError Unit := do
  checkForUnknownArgs ctx.args
  let uiSettings := configureUISettings ctx.noColor
  let _ ← setupFormatOption ctx.format uiSettings exitCodeDataErr
  pure ()

theorem setupFormatOption_ok_iff (format : String) (ui : UserInterfaceSettings) (code : Nat) :
    (∃ ui', setupFormatOption format ui code = .ok ui') ↔ format = "" ∨ format = "json" := by
  unfold setupFormatOption
  split <;> simp_all

/-- **What the hook accepts**: no positional argument, and a format of "" or "json". -/
theorem commandBefore_ok_iff (ctx : CmdContext) (code : Nat) :
    commandBefore ctx code = .ok () ↔
      ctx.args = [] ∧ (ctx.format = "" ∨ ctx.format = "json") := by
  rw [← setupFormatOption_ok_iff ctx.format (configureUISettings ctx.noColor) code]
  unfold commandBefore checkForUnknownArgs
  cases ctx.args with
  | nil =>
    cases h : setupFormatOption ctx.format (configureUISettings ctx.noColor) code <;>
      simp [h, bind, Except.bind, pure, Except.pure]
  | cons a as => simp [bind, Except.bind]

end Rhc.Interactive
