namespace Fanout

inductive FeedError where
  | canceled
  | io (text : String)
  | spawn (text : String)
  | failed (text : String)
deriving DecidableEq, Inhabited

def FeedError.message : FeedError → String
  | .canceled => "Pull canceled"
  | .io text => "I/O error: " ++ text
  | .spawn text => "Failed to spawn upstream: " ++ text
  | .failed text => "Upstream failed: " ++ text

abbrev FeedResult := Except FeedError Nat

inductive Outcome where
  | completed
  | empty
  | canceled
  | failed
deriving DecidableEq, Inhabited

namespace Outcome

/-- An error that follows a cancellation is a consequence of it and no failure. -/
def classify (result : FeedResult) (canceled : Bool) : Outcome :=
  match result, canceled with
  | .ok 0, false => .empty
  | .ok _, true => .canceled
  | .ok _, false => .completed
  | .error .canceled, _ => .canceled
  | .error _, true => .canceled
  | .error _, false => .failed

def name : Outcome → String
  | .completed => "completed"
  | .empty => "empty"
  | .canceled => "canceled"
  | .failed => "failed"

end Outcome

end Fanout
