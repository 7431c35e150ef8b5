import Rhc.Interactive.Settings
/-
  Rhc.Cmd.Status — `rhc status`: three checks and the exit code they add up to.
  ──────────────────────────────────────
  **`status` exits with the number of problems its three checks found.**

  `statusAction` runs `rhsmStatus`, `insightsStatus` and `yggdrasilStatus` on one
  `SystemStatus`, each adding 1 to `returnCode` for what it found wrong, and exits with
  `returnCode`.  The answers of the RHSM, Insights and systemd calls are inputs
  (`StatusProbes`).  The checks are straight-line code over those answers: the module
  models them and their result record, and states no property of its own.
-/

namespace Rhc.Cmd

open Rhc.Interactive

/-! ## §1. The three checks. -/

/-- `SystemStatus`; `returnCode` and `format` are its unexported fields. -/
structure SystemStatus where
  rhsmConnected : Bool
  insightsConnected : Bool
  yggdrasilRunning : Bool
  returnCode : Nat
  format : String
  deriving DecidableEq, Repr

/-- A unit of `ListUnitsContext`, the fields `yggdrasilStatus` reads. -/
structure UnitStatus where
  name : String
  activeState : String
  deriving DecidableEq, Repr

/-- What the RHSM, Insights and systemd calls of `status` answered. -/
structure StatusProbes where
  consumerUUID : Except String String
  insightsRegistered : Except String Bool
  systemdConnection : Except String Unit
  listUnits : Except String (List UnitStatus)

/-- `rhsmStatus`: the status, and the error it returns. -/
def rhsmStatus (consumerUUID : Except String String) (uiSettings : UserInterfaceSettings)
    (s : SystemStatus) : SystemStatus × Option String :=
  match consumerUUID with
  | .error err => (s, some ("unable to get consumer UUID: " ++ err))
  | .ok uuid =>
    if uuid = "" then
      ({ s with returnCode := s.returnCode + 1
                rhsmConnected := if uiSettings.isMachineReadable then false else s.rhsmConnected },
        none)
    else
      ({ s with rhsmConnected := if uiSettings.isMachineReadable then true else s.rhsmConnected },
        none)

/-- `insightsStatus`. -/
def insightsStatus (isRegistered : Except String Bool) (uiSettings : UserInterfaceSettings)
    (s : SystemStatus) : SystemStatus × Option String :=
  match isRegistered with
  | .error err =>
    ({ s with
        insightsConnected := if uiSettings.isMachineReadable then false else s.insightsConnected
        returnCode := s.returnCode + 1 }, some err)
  | .ok false =>
    ({ s with
        insightsConnected := if uiSettings.isMachineReadable then false else s.insightsConnected
        returnCode := s.returnCode + 1 }, none)
  | .ok true =>
    ({ s with
        insightsConnected := if uiSettings.isMachineReadable then true else s.insightsConnected },
      none)

/-- `yggdrasilStatus`: the first unit named after the service decides.  In
    human-readable mode the states "inactive", "failed" and any other than "active"
    differ only in the line printed. -/
def yggdrasilStatus (serviceName : String) (connection : Except String Unit)
    (listUnits : Except String (List UnitStatus)) (uiSettings : UserInterfaceSettings)
    (s : SystemStatus) : SystemStatus × Option String :=
  match connection with
  | .error err => (s, some ("unable to connect to systemd: " ++ err))
  | .ok () =>
    match listUnits with
    | .error err => (s, some ("unable to list systemd units: " ++ err))
    | .ok unitStatuses =>
      match unitStatuses.find? (·.name = serviceName ++ ".service") with
      | some unitStatus =>
        if uiSettings.isMachineReadable then
          ({ s with yggdrasilRunning := unitStatus.activeState = "active" }, none)
        else if unitStatus.activeState = "active" then (s, none)
        else ({ s with returnCode := s.returnCode + 1 }, none)
      | none =>
        ({ s with
            yggdrasilRunning := if uiSettings.isMachineReadable then false else s.yggdrasilRunning
            returnCode := s.returnCode + 1 }, none)

/-! ## §2. `statusAction`. -/

/-- What `statusAction` leaves: the status, the errors it printed, the document it
    prints in machine-readable mode, and its exit code. -/
structure StatusRun where
  status : SystemStatus
  errors : List String
  document : Option SystemStatus
  exitCode : Nat

/-- `statusAction`; the spinner is left out. -/
def statusAction (serviceName : String) (ctx : CmdContext) (p : StatusProbes) : StatusRun :=
  let uiSettings := configureUISettings ctx.noColor
  let s : SystemStatus := ⟨false, false, false, 0, ctx.format⟩
  let (s, e₁) := rhsmStatus p.consumerUUID uiSettings s
  let (s, e₂) := insightsStatus p.insightsRegistered uiSettings s
  let (s, e₃) := yggdrasilStatus serviceName p.systemdConnection p.listUnits uiSettings s
  ⟨s, [e₁, e₂, e₃].filterMap id, if uiSettings.isMachineReadable then some s else none,
    s.returnCode⟩

end Rhc.Cmd
