import Rhc.Cmd.Disconnect
/-
  Rhc.Cmd.Connect — `rhc connect`: registration, the two optional features, and what
  the command reports.
  ──────────────────────────────────────
  **`connect` registers with RHSM, then runs each enabled optional feature and records
  how it went.**

  `connectAction` checks the feature flags, registers with RHSM, then runs the Insights
  registration and the service activation when their features are enabled.  The
  external calls are inputs (`ConnectProbes`), as are the feature switches that
  `features.CheckFeatureInput`, outside the sources, leaves.

  The two feature blocks are the same code at their own switch and call; they are one
  definition, `featureStep`.  The action is straight-line code over the answers: the
  module models it and its result record, and states no property of its own.
-/

namespace Rhc.Cmd

open Rhc.Interactive

/-! ## §1. Results and inputs. -/

/-- `FeatureResult`. -/
structure FeatureResult where
  enabled : Bool
  successful : Bool
  error : String
  deriving DecidableEq, Repr

/-- `ConnectResult`: `rhsmConnected` and `rhsmConnectError` are `RHSMConnected` and
    `RHSMConnectError`, the three features are its `Features` struct. -/
structure ConnectResult where
  host : HostInfo
  rhsmConnected : Bool
  rhsmConnectError : String
  content : FeatureResult
  analytics : FeatureResult
  remoteManagement : FeatureResult
  format : String
  deriving DecidableEq, Repr

/-- What the feature check left and what the external calls answered. -/
structure ConnectProbes where
  checkFeatureInput : Except String Unit
  contentEnabled : Bool
  analyticsEnabled : Bool
  managementEnabled : Bool
  rhsmRegister : Except String String
  insightsRegister : Except String Unit
  activateService : Except String Unit

/-- What a successful `connectAction` leaves: the result, and the document it prints in
    machine-readable mode. -/
structure ConnectRun where
  result : ConnectResult
  document : Option ConnectResult
  deriving DecidableEq, Repr

/-! ## §2. `connectAction`. -/

/-- The Insights and the activation blocks of `connectAction`: the call runs only when
    the feature is enabled; its error is kept in machine-readable mode (else printed). -/
def featureStep (uiSettings : UserInterfaceSettings) (enabled : Bool) (call : Except String Unit)
    (f : FeatureResult) : FeatureResult :=
  let err : Except String Unit := if enabled then call else .ok ()
  match err with
  | .error e => if uiSettings.isMachineReadable then { f with error := e } else f
  | .ok () => { f with enabled := enabled, successful := true }

/-- `connectAction`; `exitCodeDataErr` is `config.ExitCodeDataErr`.  The printed lines
    and the durations table are left out. -/
def connectAction (exitCodeDataErr : Nat) (ctx : CmdContext) (host : HostProbes)
    (p : ConnectProbes) : Except CmdError ConnectRun := do
  let uiSettings := configureUISettings ctx.noColor
  let info := hostInfo uiSettings host
  if let .error err := p.checkFeatureInput then throw (.exit err exitCodeDataErr)
  let (rhsmConnected, rhsmConnectError) ← match p.rhsmRegister with
    | .error err => if uiSettings.isMachineReadable then pure (false, err) else throw (.plain err)
    | .ok _ => pure (true, "")
  let zero : FeatureResult := ⟨false, false, ""⟩
  let result : ConnectResult :=
    { host := info, rhsmConnected, rhsmConnectError, format := ctx.format
      analytics := featureStep uiSettings p.analyticsEnabled p.insightsRegister zero
      remoteManagement := featureStep uiSettings p.managementEnabled p.activateService zero
      content := ⟨p.contentEnabled, true, ""⟩ }
  pure ⟨result, if uiSettings.isMachineReadable then some result else none⟩

end Rhc.Cmd
