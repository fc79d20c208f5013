import Scaffold.Change.Error

/-!
# Errors of blueprints
-/

namespace Scaffold

/-- Where a run stands. -/
inductive LifecycleState where
  | created
  | preconditionChecked
  | optionsGathered
  | prepared
  | aborted
  | applying
  | applied
  | postApplied
  deriving Repr, DecidableEq, Inhabited

/-- The word for a state. -/
def LifecycleState.label : LifecycleState → String
  | .created => "created"
  | .preconditionChecked => "precondition-checked"
  | .optionsGathered => "options-gathered"
  | .prepared => "prepared"
  | .aborted => "aborted"
  | .applying => "applying"
  | .applied => "applied"
  | .postApplied => "post-applied"

/-- Why a run cannot go on. -/
inductive BlueprintError where
  /-- The requirements of the blueprint are not met. -/
  | validation (message : String)
  /-- The user made a mistake. -/
  | user (message : String)
  /-- A step was asked for out of turn. -/
  | invalidTransition (source target : LifecycleState)
  /-- The changes were asked for before they can be known, or after they were applied. -/
  | notPrepared (state : LifecycleState)
  /-- A change could not be applied. -/
  | change (error : ChangeError)
  /-- A file, a process or the terminal could not be reached. -/
  | access (message : String)
  /-- Anything else. -/
  | other (message : String)
  deriving Repr, DecidableEq

namespace BlueprintError

/-- The words for an error. -/
def message : BlueprintError → String
  | validation message => message
  | user message => message
  | invalidTransition source target =>
    "cannot move from " ++ source.label ++ " to " ++ target.label
  | notPrepared state => "changes requested while the blueprint is " ++ state.label
  | change error => error.message
  | access message => message
  | other message => message

/-- Whether the error is one that users are expected to meet. -/
def isUserFacing : BlueprintError → Bool
  | validation _ => true
  | user _ => true
  | _ => false

end BlueprintError

end Scaffold
