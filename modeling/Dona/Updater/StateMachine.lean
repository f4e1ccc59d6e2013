import Mathlib.Data.List.Basic

/-!
# The states of an update request

The state machine of `updater/src/state-machine.ts`: the table of allowed transitions, the
terminal states, and the states in which an update may have touched the running services.
-/

namespace Dona.Updater

inductive UpdateState
  | requested | planning | awaitingApproval | approved | preparing | staged | quiescing
  | activating | restarting | verifying | succeeded | failed | rollingBack | rolledBack
  | needsReview | cancelled
  deriving DecidableEq

namespace UpdateState

def text : UpdateState → String
  | requested => "requested"
  | planning => "planning"
  | awaitingApproval => "awaiting_approval"
  | approved => "approved"
  | preparing => "preparing"
  | staged => "staged"
  | quiescing => "quiescing"
  | activating => "activating"
  | restarting => "restarting"
  | verifying => "verifying"
  | succeeded => "succeeded"
  | failed => "failed"
  | rollingBack => "rolling_back"
  | rolledBack => "rolled_back"
  | needsReview => "needs_review"
  | cancelled => "cancelled"

instance : ToString UpdateState := ⟨text⟩

def transitions : UpdateState → List UpdateState
  | requested => [planning, cancelled, failed]
  | planning => [awaitingApproval, failed, needsReview, cancelled]
  | awaitingApproval => [approved, cancelled, failed]
  | approved => [preparing, cancelled, failed, needsReview]
  | preparing => [staged, failed, needsReview, cancelled]
  | staged => [quiescing, cancelled, failed, needsReview]
  | quiescing => [activating, failed, needsReview]
  | activating => [restarting, rollingBack, failed, needsReview]
  | restarting => [verifying, rollingBack, needsReview]
  | verifying => [succeeded, rollingBack, needsReview]
  | succeeded => []
  | failed => []
  | rollingBack => [rolledBack, needsReview]
  | rolledBack => []
  | needsReview => [rollingBack, verifying]
  | cancelled => []

def canTransition (source target : UpdateState) : Bool := source.transitions.contains target

def isTerminal (state : UpdateState) : Bool :=
  [succeeded, failed, rolledBack, needsReview, cancelled].contains state

/-- The states of a request which is changing the runtime. -/
def isMutating (state : UpdateState) : Bool :=
  [preparing, staged, quiescing, activating, restarting, verifying, rollingBack].contains state

theorem not_isMutating_of_isTerminal {state : UpdateState} (h : state.isTerminal = true) :
    state.isMutating = false := by
  revert h
  cases state <;> decide

/-- A request enters a mutating state from a mutating state, from `approved`, or from
`needsReview` by a verification or a rollback. -/
theorem source_of_canTransition {source target : UpdateState} (h : source.canTransition target = true)
    (htarget : target.isMutating = true) :
    source.isMutating = true ∨ (source = approved ∧ target = preparing) ∨
      (source = needsReview ∧ (target = verifying ∨ target = rollingBack)) := by
  revert h htarget
  cases source <;> cases target <;> decide

/-- Only an open request is approved. -/
theorem not_isTerminal_of_approved {source : UpdateState}
    (h : source = approved ∨ source.canTransition approved = true) : source.isTerminal = false := by
  revert h
  cases source <;> decide

/-- A completed request is completed again only in the state it has. -/
theorem eq_of_terminal_move {source target : UpdateState} (hsource : source.isTerminal = true)
    (htarget : target.isTerminal = true)
    (h : source = target ∨ source.canTransition target = true) : source = target := by
  revert hsource htarget h
  cases source <;> cases target <;> decide

end UpdateState

/-- The states in which `completeInternal` leaves a request. -/
abbrev TerminalState := {state : UpdateState // state.isTerminal = true}

theorem needsReview_isTerminal : UpdateState.needsReview.isTerminal = true := rfl

end Dona.Updater
