-- SUMMARY: Whole sessions (`Session.Run`): which turns a client can have taken, in a world that others change between them.
import GitHubReconciler.Operation.Session
import GitHubReconciler.Proofs.Operation

/-!
# Whole sessions

`Run` says which turns of a session can follow one another and what they leave behind. Between
two turns the world may be changed from outside, as far as `others` allows. A turn keeps what it
was and what it showed, so a statement about a session can speak of both. `scenes` and `play` give
the steps of a session that goes by given cues.
-/

namespace GitHubReconciler.Session

variable {σ : Type}

/-- A turn of a session: a step, when it was taken, how long it took and what it showed. -/
structure Turn where
  step : Step
  now : String
  seconds : Float
  report : Report

/-- Which turns lead from a state of the session and the world to another. -/
inductive Run (client : Kind) (world : Dialogue.World Call Call.Answer σ) (others : σ → σ → Prop)
    (state : State) (w : σ) : List Turn → State → σ → Prop where
  | start : Run client world others state w [] state w
  | turn {turns : List Turn} {state' state'' : State} {w' w'' : σ} {report : Report} (s : Step)
      (now : String) (seconds : Float) :
      Run client world others state w turns state' w' →
      step client world now seconds s state' w' = (report, state'', w'') →
      Run client world others state w (turns ++ [⟨s, now, seconds, report⟩]) state'' w''
  | disturbed {turns : List Turn} {state' : State} {w' w'' : σ} :
      Run client world others state w turns state' w' →
      others w' w'' →
      Run client world others state w turns state' w''

/-- The exchanges of all turns. -/
def exchanges (turns : List Turn) : List (Dialogue.Exchange Call Call.Answer) :=
  turns.flatMap (·.report.exchanges)

@[simp] theorem exchanges_snoc (turns : List Turn) (t : Turn) :
    exchanges (turns ++ [t]) = exchanges turns ++ t.report.exchanges := by
  simp [exchanges]

/-- What a turn that performs an operation generates. -/
theorem generates_of_step {client : Kind} {world : Dialogue.World Call Call.Answer σ}
    {now : String} {seconds : Float} {verb : Verb} {state state' : State} {w w' : σ}
    {report : Report}
    (h : step client world now seconds (.perform verb) state w = (report, state', w')) :
    ∃ result, report.result = some result ∧
      (client.client.converse verb now state.resource).Generates report.exchanges
        (result, state'.resource) ∧
      Dialogue.Walk world w report.exchanges w' := by
  cases h
  exact ⟨_, rfl, Dialogue.generates_run world _ w, Dialogue.walk_run world _ w⟩

/-- Every answer in a session is one that the world gives. -/
theorem Run.exists_answer {client : Kind} {world : Dialogue.World Call Call.Answer σ}
    {others : σ → σ → Prop} {state state' : State} {w w' : σ} {turns : List Turn} {q : Call}
    {answer : q.Answer} (hrun : Run client world others state w turns state' w')
    (hmem : ⟨q, answer⟩ ∈ exchanges turns) : ∃ t, answer = (world q t).1 := by
  induction hrun with
  | start => cases hmem
  | turn s now seconds hrun hstep ih =>
    rw [exchanges_snoc] at hmem
    rcases List.mem_append.mp hmem with hmem | hmem
    · exact ih hmem
    · cases s with
      | perform verb =>
        obtain ⟨result, -, -, hwalk⟩ := generates_of_step hstep
        exact hwalk.exists_answer hmem
      | setSpec spec =>
        cases hstep
        cases hmem
      | setResource resource =>
        cases hstep
        cases hmem
      | configureMetrics config =>
        cases hstep
        cases hmem
  | disturbed hrun hothers ih => exact ih hmem

/-! ## Scenes

Where a session is compared with another one, step by step, the state before and after each step
matters too. -/

/-- A step that is to be taken, when, and how long it takes. -/
structure Cue where
  step : Step
  now : String
  seconds : Float

/-- A step with what it shows and the states around it. -/
structure Scene where
  cue : Cue
  before : State
  report : Report
  after : State

/-- The scenes of a session, from a state of the session and the world on. -/
def scenes (client : Kind) (world : Dialogue.World Call Call.Answer σ) :
    List Cue → State → σ → List Scene
  | [], _, _ => []
  | cue :: rest, before, w =>
      let (report, after, w) := step client world cue.now cue.seconds cue.step before w
      { cue, before, report, after } :: scenes client world rest after w

/-- The turns of a session that goes by given cues, and the state of it and of the world then. -/
def play (client : Kind) (world : Dialogue.World Call Call.Answer σ) :
    List Cue → State → σ → List Turn × State × σ
  | [], state, w => ([], state, w)
  | cue :: rest, state, w =>
      let (report, state, w) := step client world cue.now cue.seconds cue.step state w
      let (turns, state, w) := play client world rest state w
      (⟨cue.step, cue.now, cue.seconds, report⟩ :: turns, state, w)

/-- A session can go on by given cues. -/
theorem Run.play {client : Kind} {world : Dialogue.World Call Call.Answer σ}
    {others : σ → σ → Prop} {state state' : State} {w w' : σ} {turns : List Turn}
    (hrun : Run client world others state w turns state' w') (cues : List Cue) :
    let next := Session.play client world cues state' w'
    Run client world others state w (turns ++ next.1) next.2.1 next.2.2 := by
  induction cues generalizing turns state' w' with
  | nil =>
    change Run _ _ _ _ _ (turns ++ []) _ _
    rwa [List.append_nil]
  | cons cue rest ih =>
    have hnext := ih (hrun.turn cue.step cue.now cue.seconds rfl)
    dsimp only at hnext
    rwa [List.append_assoc] at hnext

end GitHubReconciler.Session
