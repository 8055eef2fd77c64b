import OpsPilot.JsonText

/-! The policy table. The verdict is a function of the action type alone. -/

namespace OpsPilot.PolicyEngine
open JsonText

inductive PolicyVerdict where
  | execute
  | requireApproval
  | block
  | escalate
deriving DecidableEq

structure ProposedAction where
  actionType : String
  target : String
  params : Json

def riskTable : List (String × PolicyVerdict) :=
  [("no_action", .execute),
   ("escalate", .escalate),
   ("restart_service", .execute),
   ("scale_service", .execute),
   ("toggle_feature_flag", .requireApproval),
   ("rollback_deployment", .requireApproval),
   ("delete_data", .block)]

def evaluate (action : ProposedAction) : PolicyVerdict :=
  match riskTable.lookup action.actionType with
  | none => .block
  | some verdict => verdict

end OpsPilot.PolicyEngine
