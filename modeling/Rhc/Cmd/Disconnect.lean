import Rhc.Interactive.Messages
import Rhc.Cli.BeforeAction
/-
  Rhc.Cmd.Disconnect — `rhc disconnect`: its three steps, its result and its exit status.
  ──────────────────────────────────────
  **`disconnect` exits 1 exactly when a step failed, for every configured level up to
  `ERROR`; above it, a failure can exit 0.**

  `disconnectAction` stops the service, unregisters from Insights and from RHSM, each
  step writing its own pair of fields of `DisconnectResult` and, when it fails, a
  message at `LevelError` under its own key.  The external calls are inputs: what
  each query and each change answered (`DisconnectProbes`).

  The two unregistering steps are one definition, `disconnectFrom`, at their own key
  and text.  `disconnectService` differs: a failed query of the service state is
  returned but recorded in no message (`disconnectService_error_unrecorded`), so it
  never changes the exit status.

  Main results:
    * `disconnectAction_exit_iff` — for every level up to `ERROR`, the exit status is 1
      exactly when the service could not be deactivated or a query or unregistration
      of Insights or RHSM failed.
    * `disconnect_exit_hidden_above_error` — under `--log-level ERROR+4` a failed RHSM
      unregistration exits 0.
-/

namespace Rhc.Cmd

open Rhc.Slog Rhc.Interactive

/-! ## §1. What `connect` and `disconnect` learn of the host. -/

/-- `Hostname`, `HostnameError`, `UID` and `UIDError`, the first fields of both
    `ConnectResult` and `DisconnectResult`. -/
structure HostInfo where
  hostname : String
  hostnameError : String
  uid : Nat
  uidError : String
  deriving DecidableEq, Repr

/-- What `os.Hostname()` and `os.Getuid()` answered. -/
structure HostProbes where
  hostname : Except String String
  uid : Nat

/-- The preamble of `connectAction` and `disconnectAction`: the host name, or in
    machine-readable mode its error (else it is logged), and the UID, with a warning
    when it is not root (printed in human-readable mode). -/
def hostInfo (uiSettings : UserInterfaceSettings) (host : HostProbes) : HostInfo :=
  let info : HostInfo := ⟨"", "", host.uid, ""⟩
  let info := match host.hostname with
    | .error err =>
      if uiSettings.isMachineReadable then { info with hostnameError := err } else info
    | .ok hostname => { info with hostname := hostname }
  if host.uid ≠ 0 ∧ uiSettings.isMachineReadable then
    { info with uidError := "not running as root user (UID " ++ toString host.uid ++
      "), functionality may be limited" }
  else info

/-! ## §2. The steps. -/

/-- The pair of `DisconnectResult` fields one step fills: whether it is done, and its
    error text (`""` is omitted from the JSON). -/
structure StepResult where
  done : Bool
  error : String
  deriving DecidableEq, Repr

/-- What a step leaves: its result, the message it records, and the error it returns. -/
abbrev StepOutcome := StepResult × Option (String × LogMessage) × Option String

/-- `disconnectFromInsights` and `disconnectFromRHSM`, at the step's map key and the
    text before the unregistration error: check registration, then unregister. -/
def disconnectFrom (key failure : String) (isRegistered : Except String Bool)
    (unregister : Except String Unit) (r : StepResult) : StepOutcome :=
  match isRegistered with
  | .error err => ({ r with error := err }, some (key, ⟨levelError, err⟩), some err)
  | .ok false => ({ r with done := true }, none, none)
  | .ok true =>
    match unregister with
    | .error err =>
      let errMsg := failure ++ err
      (⟨false, errMsg⟩, some (key, ⟨levelError, errMsg⟩), some errMsg)
    | .ok () => ({ r with done := true }, none, none)

/-- `disconnectFromInsights`. -/
def disconnectFromInsights :
    Except String Bool → Except String Unit → StepResult → StepOutcome :=
  disconnectFrom "insights" "Unable to disconnect from Red Hat Insights: "

/-- `disconnectFromRHSM`. -/
def disconnectFromRHSM :
    Except String Bool → Except String Unit → StepResult → StepOutcome :=
  disconnectFrom "rhsm" "Unable to disconnect from Red Hat Subscription Management: "

/-- `disconnectService`: check that the service is inactive, else deactivate it.  A
    failed state query is returned but not recorded.  `serviceName` is
    `config.ServiceName`, declared outside the sources. -/
def disconnectService (serviceName : String) (isInactive : Except String Bool)
    (deactivate : Except String Unit) (r : StepResult) : StepOutcome :=
  match isInactive with
  | .error err => (r, none, some err)
  | .ok true => ({ r with done := true }, none, none)
  | .ok false =>
    match deactivate with
    | .error err =>
      let errMsg := "Cannot deactivate " ++ serviceName ++ " service: " ++ err
      (⟨false, errMsg⟩, some (serviceName, ⟨levelError, errMsg⟩), some errMsg)
    | .ok () => ({ r with done := true }, none, none)

/-- An unregistering step records a message, always at `LevelError`, exactly when it
    returns an error, and that is when the registration query or the unregistration
    failed. -/
theorem disconnectFrom_records (key failure : String) (isRegistered : Except String Bool)
    (unregister : Except String Unit) (r : StepResult) :
    let o := (disconnectFrom key failure isRegistered unregister r).2
    (∀ kv ∈ o.1, kv.2.level = levelError) ∧ (o.1.isSome ↔ o.2.isSome) ∧
      (o.1.isSome ↔ isRegistered.isOk = false ∨
        (isRegistered = .ok true ∧ unregister.isOk = false)) := by
  unfold disconnectFrom
  rcases isRegistered with err | (_ | _)
  · simp [Except.isOk, Except.toBool]
  · simp [Except.isOk, Except.toBool]
  · rcases unregister with err | ⟨⟩ <;> simp [Except.isOk, Except.toBool]

/-- `disconnectService` records a message, at `LevelError`, exactly when the service is
    active and cannot be deactivated. -/
theorem disconnectService_records (serviceName : String) (isInactive : Except String Bool)
    (deactivate : Except String Unit) (r : StepResult) :
    let o := (disconnectService serviceName isInactive deactivate r).2.1
    (∀ kv ∈ o, kv.2.level = levelError) ∧
      (o.isSome ↔ isInactive = .ok false ∧ deactivate.isOk = false) := by
  unfold disconnectService
  rcases isInactive with err | (_ | _)
  · simp
  · rcases deactivate with err | ⟨⟩ <;> simp [Except.isOk, Except.toBool]
  · simp

/-- **The difference of `disconnectService`**: it returns an error that it records in no
    message exactly when the query of the service state fails, which no unregistering
    step does (`disconnectFrom_records`). -/
theorem disconnectService_error_unrecorded (serviceName : String)
    (isInactive : Except String Bool) (deactivate : Except String Unit) (r : StepResult) :
    let o := (disconnectService serviceName isInactive deactivate r).2
    (o.2.isSome ∧ o.1 = none) ↔ isInactive.isOk = false := by
  unfold disconnectService
  rcases isInactive with err | (_ | _)
  · simp [Except.isOk, Except.toBool]
  · rcases deactivate with err | ⟨⟩ <;> simp [Except.isOk, Except.toBool]
  · simp [Except.isOk, Except.toBool]

/-! ## §3. `disconnectAction`. -/

/-- `DisconnectResult`: `rhsm` is `RHSMDisconnected` and `RHSMDisconnectedError`,
    `insights` the two `InsightsDisconnected` fields, `yggdrasil` the two
    `YggdrasilStopped` fields. -/
structure DisconnectResult where
  host : HostInfo
  rhsm : StepResult
  insights : StepResult
  yggdrasil : StepResult
  format : String
  deriving DecidableEq, Repr

/-- What the external calls of the three steps answered. -/
structure DisconnectProbes where
  serviceInactive : Except String Bool
  deactivateService : Except String Unit
  insightsRegistered : Except String Bool
  insightsUnregister : Except String Unit
  rhsmRegistered : Except String Bool
  rhsmUnregister : Except String Unit

/-- Adding a step's message, if it recorded one. -/
def ErrorMessages.record (m : ErrorMessages) : Option (String × LogMessage) → ErrorMessages
  | none => m
  | some (key, logMsg) => ErrorMessages.set m key logMsg

/-- The messages the three steps of `disconnectAction` record, in order. -/
def disconnectMessages (serviceName : String) (p : DisconnectProbes) : ErrorMessages :=
  let r : StepResult := ⟨false, ""⟩
  let m := ErrorMessages.record []
    (disconnectService serviceName p.serviceInactive p.deactivateService r).2.1
  let m := ErrorMessages.record m
    (disconnectFromInsights p.insightsRegistered p.insightsUnregister r).2.1
  ErrorMessages.record m (disconnectFromRHSM p.rhsmRegistered p.rhsmUnregister r).2.1

/-- What `disconnectAction` leaves: the result, the table `ShowErrorMessages` printed,
    the document it prints in machine-readable mode, and the exit code of the error it
    returns (none: exit status 0). -/
structure DisconnectRun where
  result : DisconnectResult
  table : Option (String × List ErrorRow)
  document : Option DisconnectResult
  exitCode : Option Nat

/-- `disconnectAction`; `globalLevel` is `config.Global.LogLevel`, which `beforeAction`
    installed.  The durations table is left out. -/
def disconnectAction (serviceName : String) (ctx : CmdContext) (host : HostProbes)
    (p : DisconnectProbes) (globalLevel : Level) : DisconnectRun :=
  let uiSettings := configureUISettings ctx.noColor
  let r : StepResult := ⟨false, ""⟩
  let result : DisconnectResult :=
    { host := hostInfo uiSettings host
      yggdrasil := (disconnectService serviceName p.serviceInactive p.deactivateService r).1
      insights := (disconnectFromInsights p.insightsRegistered p.insightsUnregister r).1
      rhsm := (disconnectFromRHSM p.rhsmRegistered p.rhsmUnregister r).1
      format := ctx.format }
  let shown := showErrorMessages "disconnect" (disconnectMessages serviceName p) uiSettings
    globalLevel
  { result, table := shown.1, exitCode := shown.2
    document := if shown.2.isNone && uiSettings.isMachineReadable then some result else none }

/-- A recorded message at `LevelError` makes the map fail the `ERROR` test. -/
theorem hasPriorityErrors_record {m : ErrorMessages} {o : Option (String × LogMessage)}
    (ho : ∀ kv ∈ o, kv.2.level = levelError) :
    hasPriorityErrors (ErrorMessages.record m o) levelError ↔
      hasPriorityErrors m levelError ∨ o.isSome := by
  rcases o with _ | ⟨key, logMsg⟩
  · simp [ErrorMessages.record]
  · have hlevel : logMsg.level = levelError := ho _ rfl
    simp only [ErrorMessages.record, ErrorMessages.set, Option.isSome_some, or_true, iff_true,
      hasPriorityErrors_iff]
    exact ⟨(key, logMsg), by simp, Int.le_of_eq hlevel.symm⟩

/-- **The exit status of `disconnect`.**  For every configured level up to `ERROR`,
    every flag and every answer of the external calls, `disconnect` exits 1 exactly when
    the active service could not be deactivated, or a registration query or an
    unregistration of Insights or RHSM failed; a failed query of the service state
    never counts. -/
theorem disconnectAction_exit_iff (serviceName : String) (ctx : CmdContext) (host : HostProbes)
    (p : DisconnectProbes) {globalLevel : Level} (hl : globalLevel ≤ levelError) :
    (disconnectAction serviceName ctx host p globalLevel).exitCode = some 1 ↔
      (p.serviceInactive = .ok false ∧ p.deactivateService.isOk = false) ∨
      (p.insightsRegistered.isOk = false ∨
        (p.insightsRegistered = .ok true ∧ p.insightsUnregister.isOk = false)) ∨
      (p.rhsmRegistered.isOk = false ∨
        (p.rhsmRegistered = .ok true ∧ p.rhsmUnregister.isOk = false)) := by
  obtain ⟨hs, hs'⟩ := disconnectService_records serviceName p.serviceInactive
    p.deactivateService ⟨false, ""⟩
  obtain ⟨hi, -, hi'⟩ := disconnectFrom_records "insights"
    "Unable to disconnect from Red Hat Insights: " p.insightsRegistered p.insightsUnregister
    ⟨false, ""⟩
  obtain ⟨hr, -, hr'⟩ := disconnectFrom_records "rhsm"
    "Unable to disconnect from Red Hat Subscription Management: " p.rhsmRegistered
    p.rhsmUnregister ⟨false, ""⟩
  simp only [disconnectAction, disconnectMessages, disconnectFromInsights, disconnectFromRHSM]
  rw [showErrorMessages_exit_of_le_error _ _ _ hl (configureUISettings_isMachineReadable _),
    hasPriorityErrors_record hr, hasPriorityErrors_record hi, hasPriorityErrors_record hs,
    ← hs', ← hi', ← hr']
  simp [hasPriorityErrors, or_assoc]

/-- At the default level, a failed RHSM unregistration fails `disconnect`. -/
theorem disconnectAction_exit_iff_rhsm_failed :
    levelInfo ≤ levelError ∧
      (disconnectAction "yggdrasil" ⟨[], false, ""⟩ ⟨.ok "localhost", 0⟩
        ⟨.ok true, .ok (), .ok false, .ok (), .ok true, .error "exit status 1"⟩
        levelInfo).exitCode = some 1 :=
  ⟨by decide, (disconnectAction_exit_iff "yggdrasil" ⟨[], false, ""⟩ ⟨.ok "localhost", 0⟩
    ⟨.ok true, .ok (), .ok false, .ok (), .ok true, .error "exit status 1"⟩
    (by decide)).mpr (.inr (.inr (.inr ⟨rfl, rfl⟩)))⟩

/-! ## §4. The exit status under a level above `ERROR`. -/

/-- A file system with nothing on it, and no network. -/
def emptyFs : Rhc.Conf.FileSystem :=
  ⟨fun _ => .error .notExist, fun _ => .error .notExist, fun _ => .error .notExist,
    fun _ => .error "connect: network is unreachable"⟩

/-- `rhc --log-level ERROR+4 disconnect` when RHSM fails to unregister: `beforeAction`
    installs `ERROR+4`, the failure is recorded at `ERROR`, and yet `ShowErrorMessages`
    returns no error and `disconnect` exits 0; at the default level it exits 1. -/
theorem disconnect_exit_hidden_above_error :
    let p : DisconnectProbes :=
      ⟨.ok true, .ok (), .ok false, .ok (), .ok true, .error "exit status 1"⟩
    let ctx : CmdContext := ⟨[], false, ""⟩
    let host : HostProbes := ⟨.ok "localhost", 0⟩
    Rhc.Cli.beforeAction emptyFs ⟨none, [], none, none, some "ERROR+4"⟩ =
        .ok ⟨"", "", levelError + 4, ""⟩ ∧
      disconnectMessages "yggdrasil" p = [("rhsm", ⟨levelError,
        "Unable to disconnect from Red Hat Subscription Management: exit status 1"⟩)] ∧
      (showErrorMessages "disconnect" (disconnectMessages "yggdrasil" p)
        (configureUISettings ctx.noColor) (levelError + 4)).2 = none ∧
      (disconnectAction "yggdrasil" ctx host p (levelError + 4)).exitCode = none ∧
      (disconnectAction "yggdrasil" ctx host p levelInfo).exitCode = some 1 :=
  ⟨rfl, rfl, by decide, by decide, by decide⟩

end Rhc.Cmd
