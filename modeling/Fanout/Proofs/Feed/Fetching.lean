import Fanout.Feed.Fetch

namespace Fanout

def bodyOf : List Arrival → Bytes
  | .chunk data :: rest => data ++ bodyOf rest
  | .pause _ :: rest => bodyOf rest
  | .failure _ :: _ | [] => []

def failureOf : List Arrival → Option String
  | .chunk _ :: rest | .pause _ :: rest => failureOf rest
  | .failure text :: _ => some text
  | [] => none

namespace Response

def content : Except String Response → Bytes
  | .ok r => if r.status.isSuccess then bodyOf r.body else []
  | .error _ => []

end Response

namespace Fetch

variable {f : Fetch} {answer : Except String Response} {r : Response} {sent : Bytes}
  {body : List Arrival} {send : String → Option String → HttpExchange}

def verdict (f : Fetch) : Except String Response → FeedResult
  | .error text => f.fault text
  | .ok r =>
    if r.status.isSuccess then
      match failureOf r.body with
      | some text => f.fault text
      | none => .ok (bodyOf r.body).length
    else .error (.failed (f.address ++ " returned " ++ r.status.text))

/-- How far a fetch is that has forwarded `sent` of what the answer gives it. -/
inductive Reaches (f : Fetch) (answer : Except String Response) : Bytes → FetchRun → Prop
  | unsent : Reaches f answer [] .unsent
  | sent (due : Nat) : Reaches f answer [] (.sent answer due)
  | receiving {r : Response} {body : List Arrival} {sent : Bytes} (due : Nat)
      (answered : answer = .ok r) (success : r.status.isSuccess = true)
      (parts : sent ++ bodyOf body = bodyOf r.body) (failure : failureOf body = failureOf r.body) :
      Reaches f answer sent (.receiving body sent.length due)
  | finished : Reaches f answer (Response.content answer) (.ended (f.verdict answer))
  | canceled {sent : Bytes} (part : sent <+: Response.content answer) :
      Reaches f answer sent (.ended (.error .canceled))

theorem content_of_success (success : r.status.isSuccess = true) :
    Response.content (.ok r) = bodyOf r.body := if_pos success

theorem content_of_parts (success : r.status.isSuccess = true)
    (parts : sent ++ [] = bodyOf r.body) : sent = Response.content (.ok r) := by
  rw [content_of_success success, ← parts, List.append_nil]

theorem Reaches.part {run : FetchRun} (h : f.Reaches answer sent run) :
    sent <+: Response.content answer := by
  cases h with
  | unsent | sent => exact List.nil_prefix
  | receiving due answered success parts failure =>
    rw [answered, content_of_success success]
    exact ⟨_, parts⟩
  | finished => exact List.prefix_rfl
  | canceled part => exact part

theorem receive_reaches (success : r.status.isSuccess = true) (now : Nat) (body : List Arrival)
    (before : Bytes) (written : List Bytes)
    (parts : before ++ written.flatten ++ bodyOf body = bodyOf r.body)
    (failure : failureOf body = failureOf r.body) :
    f.Reaches (.ok r)
      (before ++ (f.receive now body (before ++ written.flatten).length written).2.flatten)
      (f.receive now body (before ++ written.flatten).length written).1 := by
  induction body generalizing written with
  | nil =>
    have all : before ++ written.flatten = Response.content (.ok r) :=
      content_of_parts success parts
    have result : f.verdict (.ok r) = .ok (Response.content (.ok r)).length := by
      rw [verdict, if_pos success, ← failure, content_of_success success]
      rfl
    rw [receive, all, ← result]
    exact .finished
  | cons arrival rest ih =>
    cases arrival with
    | chunk data =>
      rw [receive]
      split
      · rename_i empty
        obtain rfl := List.isEmpty_iff.mp empty
        exact ih written parts failure
      · have longer : before ++ (written ++ [data]).flatten = before ++ written.flatten ++ data := by
          simp
        rw [← List.length_append, ← longer]
        apply ih (written ++ [data])
        · rw [longer, List.append_assoc]
          exact parts
        · exact failure
    | pause ms => exact .receiving (now + ms) rfl success parts failure
    | failure text =>
      have all : before ++ written.flatten = Response.content (.ok r) :=
        content_of_parts success parts
      have result : f.verdict (.ok r) = f.fault text := by
        rw [verdict, if_pos success, ← failure]
        rfl
      rw [receive, all, ← result]
      exact .finished

theorem await_reaches (now due : Nat) :
    f.Reaches answer (f.await now answer due).2.flatten (f.await now answer due).1 := by
  unfold await
  split
  · exact .sent due
  · cases answer with
    | error text => exact .finished
    | ok r =>
      dsimp only
      split
      · rename_i success
        exact receive_reaches success now r.body [] [] rfl rfl
      · rename_i fails
        have content : Response.content (.ok r) = [] := if_neg fails
        have result : f.verdict (.ok r) =
            .error (.failed (f.address ++ " returned " ++ r.status.text)) := if_neg fails
        rw [← result, List.flatten_nil, ← content]
        exact .finished

theorem advance_reaches (answered : (send f.address f.userAgent).answer = answer)
    (h : f.Reaches answer sent f.run) (now : Nat) :
    f.Reaches answer (sent ++ (f.advance send now).2.flatten) (f.advance send now).1 := by
  unfold advance
  generalize f.run = run at h
  cases h with
  | unsent =>
    rw [List.nil_append]
    dsimp only
    rw [answered]
    exact await_reaches now _
  | sent due => exact await_reaches now due
  | @receiving r body sent due same success parts failure =>
    dsimp only
    split
    · rw [List.flatten_nil, List.append_nil]
      exact .receiving due same success parts failure
    · subst same
      have onward := receive_reaches (f := f) success now body sent [] (by simpa using parts) failure
      simpa using onward
  | finished =>
    rw [List.flatten_nil, List.append_nil]
    exact .finished
  | canceled part =>
    rw [List.flatten_nil, List.append_nil]
    exact .canceled part

theorem Reaches.of_address {g : Fetch} {run : FetchRun} (h : g.Reaches answer sent run)
    (same : g.address = f.address) : f.Reaches answer sent run := by
  cases h with
  | unsent => exact .unsent
  | sent due => exact .sent due
  | receiving due answered success parts failure =>
    exact .receiving due answered success parts failure
  | finished =>
    have verdict : g.verdict answer = f.verdict answer := by
      unfold Fetch.verdict fault
      rw [same]
    rw [verdict]
    exact .finished
  | canceled part => exact .canceled part

theorem resume_canceled (going : f.run.result? = none) (now : Nat) :
    f.resume send true now = ({ f with run := .ended (.error .canceled) },
      { ending := some (.returned (.error .canceled)) }) := by
  rw [resume, going]
  rfl

theorem resume_reaches (answered : (send f.address f.userAgent).answer = answer)
    (h : f.Reaches answer sent f.run) (canceled : Bool) (now : Nat) :
    f.Reaches answer (sent ++ (f.resume send canceled now).2.writes.flatten)
      (f.resume send canceled now).1.run := by
  by_cases ends : (canceled && f.run.result?.isNone) = true
  · have nothing : f.resume send canceled now = f.resume send true now := by
      obtain ⟨rfl, -⟩ := Bool.and_eq_true_iff.mp ends
      rfl
    have going : f.run.result? = none := by
      simpa using (Bool.and_eq_true_iff.mp ends).2
    rw [nothing, resume_canceled going]
    simpa using .canceled h.part
  · rw [resume, if_neg ends]
    exact advance_reaches answered h now

/-- The fetch after the turns, each with whether it was canceled and at which moment, and what they
have forwarded. -/
def after (send : String → Option String → HttpExchange) (f : Fetch) :
    List (Bool × Nat) → Fetch × Bytes
  | [] => (f, [])
  | (canceled, now) :: rest =>
    let (next, turn) := f.resume send canceled now
    ((after send next rest).1, turn.writes.flatten ++ (after send next rest).2)

theorem after_reaches (turns : List (Bool × Nat))
    (answered : (send f.address f.userAgent).answer = answer)
    (h : f.Reaches answer sent f.run) :
    f.Reaches answer (sent ++ (f.after send turns).2) (f.after send turns).1.run := by
  induction turns generalizing f sent with
  | nil =>
    rw [after, List.append_nil]
    exact h
  | cons turn rest ih =>
    obtain ⟨canceled, now⟩ := turn
    have stepped := resume_reaches answered h canceled now
    have onward := ih (f := (f.resume send canceled now).1) answered (stepped.of_address rfl)
    rw [List.append_assoc] at onward
    exact onward.of_address rfl

theorem length_of_verdict {n : Nat} (well : f.verdict answer = .ok n) :
    n = (Response.content answer).length := by
  cases answer with
  | error text => cases well
  | ok r =>
    by_cases success : r.status.isSuccess = true
    · rw [verdict, if_pos success] at well
      rw [content_of_success success]
      split at well
      · cases well
      · cases well
        rfl
    · rw [verdict, if_neg success] at well
      cases well

/-- Whatever the client answers, and whenever the fetch has its turns, it forwards the body up to the
first failure, or a beginning of it if it is canceled before. -/
theorem forwards_body (send : String → Option String → HttpExchange) (address : String)
    (userAgent : Option String) (turns : List (Bool × Nat)) :
    let answer := (send address userAgent).answer
    let first : Fetch := { address := address, userAgent := userAgent }
    let (f, sent) := first.after send turns
    sent <+: Response.content answer ∧
      (∀ result, f.run.result? = some result → result ≠ .error .canceled →
        sent = Response.content answer ∧ result = first.verdict answer) ∧
      (∀ n, f.run.result? = some (.ok n) → n = sent.length) ∧
      (f.run.result? = none → ∀ now, (f.resume send true now).2.writes = [] ∧
        (f.resume send true now).1.run = .ended (.error .canceled)) := by
  intro answer first
  have reached : first.Reaches answer ([] ++ (first.after send turns).2)
      (first.after send turns).1.run := after_reaches turns rfl .unsent
  rw [List.nil_append] at reached
  generalize first.after send turns = ended at reached
  obtain ⟨f, sent⟩ := ended
  have finished (result : FeedResult) (returned : f.run.result? = some result)
      (kept : result ≠ .error .canceled) :
      sent = Response.content answer ∧ result = first.verdict answer := by
    dsimp only at reached
    generalize f.run = run at reached returned
    cases reached with
    | unsent | sent | receiving => cases returned
    | finished =>
      cases returned
      exact ⟨rfl, rfl⟩
    | canceled =>
      cases returned
      exact absurd rfl kept
  refine ⟨reached.part, finished, ?_, ?_⟩
  · intro n returned
    obtain ⟨all, well⟩ := finished (.ok n) returned (by simp)
    rw [all]
    exact length_of_verdict well.symm
  · intro going now
    rw [resume_canceled going]
    exact ⟨rfl, rfl⟩

/-- The answer comes late, and the body in two parts. -/
example :
    let response : Response := ⟨⟨200, "200 OK"⟩, [.chunk [1, 2], .pause 10, .chunk [3]]⟩
    let (f, sent) := Fetch.after (fun _ _ => ⟨5, .ok response⟩) ⟨"http://up/a", none, .unsent⟩
      [(false, 0), (false, 5), (false, 15)]
    f.run.result? = some (.ok 3) ∧ sent = [1, 2, 3] := ⟨rfl, rfl⟩

end Fetch

end Fanout
