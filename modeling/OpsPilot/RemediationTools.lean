import OpsPilot.ReadOnlyTools

/-! Simulated remediation actions. The model has no tool that reaches them. -/

namespace OpsPilot.RemediationTools
open JsonText SyntheticEnvironment ReadOnlyTools

structure RemediationContext where
  scenario : Scenario

structure RollbackDeploymentArgs where
  targetVersion : String

structure RestartServiceArgs where

structure ScaleServiceArgs where
  replicas : ℤ := 1

structure ToggleFeatureFlagArgs where
  flagName : String
  enabled : Bool

namespace RollbackDeploymentArgs

def modelValidate (py : Platform) (input : Json) : Except String RollbackDeploymentArgs :=
  validated py "RollbackDeploymentArgs" input do
    let .str version ← input.field? "target_version" | none
    guard (1 ≤ version.length)
    return ⟨version⟩

def modelDump (args : RollbackDeploymentArgs) : Json :=
  .obj [("target_version", .str args.targetVersion)]

end RollbackDeploymentArgs

namespace ToggleFeatureFlagArgs

def modelValidate (py : Platform) (input : Json) : Except String ToggleFeatureFlagArgs :=
  validated py "ToggleFeatureFlagArgs" input do
    let .str name ← input.field? "flag_name" | none
    guard (1 ≤ name.length)
    let enabled ← match input.field? "enabled" with
      | none => some false
      | some value => py.laxBool value
    return ⟨name, enabled⟩

def modelDump (args : ToggleFeatureFlagArgs) : Json :=
  .obj [("flag_name", .str args.flagName), ("enabled", .bool args.enabled)]

end ToggleFeatureFlagArgs

def rollbackDeployment (ctx : RemediationContext) (args : RollbackDeploymentArgs) : Json :=
  .obj [("simulated", .bool true), ("action", .str "rollback_deployment"),
    ("service", .str ctx.scenario.service.name), ("target_version", .str args.targetVersion),
    ("outcome", .str "rollback executed against the synthetic environment")]

def restartService (ctx : RemediationContext) (_args : RestartServiceArgs) : Json :=
  .obj [("simulated", .bool true), ("action", .str "restart_service"),
    ("service", .str ctx.scenario.service.name),
    ("outcome", .str "service restarted in the synthetic environment")]

def scaleService (ctx : RemediationContext) (args : ScaleServiceArgs) : Json :=
  .obj [("simulated", .bool true), ("action", .str "scale_service"),
    ("service", .str ctx.scenario.service.name), ("replicas", .int args.replicas),
    ("outcome", .str "service scaled in the synthetic environment")]

def toggleFeatureFlag (ctx : RemediationContext) (args : ToggleFeatureFlagArgs) : Json :=
  .obj [("simulated", .bool true), ("action", .str "toggle_feature_flag"),
    ("service", .str ctx.scenario.service.name), ("flag_name", .str args.flagName),
    ("enabled", .bool args.enabled),
    ("outcome", .str "feature flag toggled in the synthetic environment")]

/-- A validated remediation: its dumped arguments and the dict its handler returns. -/
structure Remediation where
  params : Json
  result : Json

def autoExecutable : List (String × (RemediationContext → Json)) :=
  [("restart_service", fun ctx => restartService ctx {}),
   ("scale_service", fun ctx => scaleService ctx {})]

def approvable {Args : Type} (modelValidate : Platform → Json → Except String Args)
    (modelDump : Args → Json) (handler : RemediationContext → Args → Json)
    (py : Platform) (ctx : RemediationContext) (params : Json) : Except String Remediation :=
  match modelValidate py params with
  | .error text => .error text
  | .ok args => .ok ⟨modelDump args, handler ctx args⟩

def approvableActions :
    List (String × (Platform → RemediationContext → Json → Except String Remediation)) :=
  [("rollback_deployment", approvable RollbackDeploymentArgs.modelValidate
      RollbackDeploymentArgs.modelDump rollbackDeployment),
   ("toggle_feature_flag", approvable ToggleFeatureFlagArgs.modelValidate
      ToggleFeatureFlagArgs.modelDump toggleFeatureFlag)]

end OpsPilot.RemediationTools
