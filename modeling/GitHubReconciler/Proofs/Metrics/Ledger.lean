-- SUMMARY: What whole sessions add to the metrics is told by the outcomes of their operations (`balanced_of_run`).
import GitHubReconciler.Proofs.Metrics.Facts
import GitHubReconciler.Proofs.Metrics.Registry
import GitHubReconciler.Proofs.Session

/-!
# The ledger of metrics

Metrics count what happens while recording is switched on. Over a whole session of a client every
series grows by the number of operations, among those performed while recording was on, whose
outcomes it counts. Samples come from notes, and the facts among the notes of an operation can be
told from its outcome, so no sample is left out, counted twice or labelled with another kind,
wherever an operation may have failed.
-/

namespace GitHubReconciler

open Metrics Metrics.Registry

/-! ## Series of a client -/

/-- The series that the operations of the client of a kind count towards. -/
inductive Counted (client : Kind) : Series → Prop where
  | operations (verb : Verb) : Counted client (.operations client.name verb.name)
  | durations (verb : Verb) : Counted client (.durations client.name verb.name)
  | durationsWithin (verb : Verb) (bound : String) :
      Counted client (.durationsWithin client.name verb.name bound)
  | failures (verb : Verb) (reason : String) :
      Counted client (.failures client.name verb.name reason)
  | drifts : Counted client (.drifts client.name)
  | fillings : Counted client (.fillings client.name)

/-- They are labelled with the kind. -/
theorem Counted.name_eq {client : Kind} {s : Series} {name : String} (h : Counted client s)
    (hlabel : ("kind", name) ∈ s.labels) : name = client.name := by
  cases h with
  | _ => simpa [Series.operations, Series.durations, Series.durationsWithin, Series.failures,
      Series.drifts, Series.fillings] using hlabel

/-! ## Performances -/

/-- An operation that was performed, how long it took and what came of it. -/
structure Performance where
  verb : Verb
  seconds : Float
  outcome : Except Failure Outcome

theorem Verb.name_inj {verb verb' : Verb} : verb.name = verb'.name ↔ verb = verb' := by
  cases verb with
  | _ => cases verb' with
    | _ => decide

namespace Performance

def isOf (verb : Verb) (p : Performance) : Bool :=
  p.verb == verb

/-- It took no longer than the bound of this text. -/
def isWithin (bound : String) (p : Performance) : Bool :=
  (reached p.seconds).contains bound

/-- It failed for this reason. -/
def failsWith (reason : String) (p : Performance) : Bool :=
  match p.outcome with
  | .error failure => failure.reason == reason
  | .ok _ => false

/-- What was observed. -/
def observation? (p : Performance) : Option Observation :=
  match p.verb, p.outcome with
  | .observe, .ok (.observed observation) => some observation
  | _, _ => none

/-- Something was found that is not as desired. -/
def findsDrift (p : Performance) : Bool :=
  p.observation?.any fun observation => observation.resourceExists && !observation.upToDate

/-- Something was filled in. -/
def fillsIn (p : Performance) : Bool :=
  p.observation?.any (·.filledIn)

/-- The facts that it notes, if it is one of the client of a kind. -/
def facts (client : Kind) (p : Performance) : List Note :=
  outcomeFacts client p.verb p.outcome

/-- The samples that it stands for. -/
def samples (client : Kind) (p : Performance) : List Series :=
  (p.facts client).flatMap (samplesOf p.seconds)

variable {client : Kind} {s : Series} {p : Performance}

/-! ### Counting facts -/

/-- What was observed is noted before the end. -/
theorem facts_eq :
    p.facts client =
      (if p.fillsIn then [.filledIn client.name] else []) ++
        (if p.findsDrift then [.drifted client.name] else []) ++
        Operation.closingFacts client p.verb p.outcome := by
  obtain ⟨verb, seconds, outcome⟩ := p
  cases outcome with
  | error failure => cases verb with
    | _ => rfl
  | ok result =>
    cases result with
    | observed observation =>
      obtain ⟨resourceExists, upToDate, filledIn⟩ := observation
      cases verb with
      | observe => cases resourceExists with
        | _ => cases upToDate with
          | _ => rfl
      | _ => rfl
    | _ => cases verb with
      | _ => rfl

theorem count_singleton_if (b : Bool) (m n : Note) :
    (if b then [m] else []).count n = if b && m == n then 1 else 0 := by
  cases b with
  | false => rfl
  | true => simp [List.count_singleton]

theorem count_finished (verb : Verb) :
    (p.facts client).count (.finished client.name verb.name) = if p.isOf verb then 1 else 0 := by
  have hclosing : (Operation.closingFacts client p.verb p.outcome).count
      (.finished client.name verb.name) = if p.isOf verb then 1 else 0 := by
    cases p.outcome with
    | _ => simp [Operation.closingFacts, isOf, List.count_cons, Verb.name_inj]
  simp [facts_eq, count_singleton_if, hclosing]

theorem count_failed (verb : Verb) (reason : String) :
    (p.facts client).count (.failed client.name verb.name reason) =
      if p.isOf verb && p.failsWith reason then 1 else 0 := by
  have hclosing : (Operation.closingFacts client p.verb p.outcome).count
      (.failed client.name verb.name reason) =
        if p.isOf verb && p.failsWith reason then 1 else 0 := by
    unfold failsWith
    cases p.outcome with
    | _ => simp [Operation.closingFacts, isOf, List.count_cons, Verb.name_inj]
  simp [facts_eq, count_singleton_if, hclosing]

theorem count_filledIn :
    (p.facts client).count (.filledIn client.name) = if p.fillsIn then 1 else 0 := by
  have hclosing : (Operation.closingFacts client p.verb p.outcome).count
      (.filledIn client.name) = 0 := by
    cases p.outcome with
    | _ => simp [Operation.closingFacts]
  simp [facts_eq, count_singleton_if, hclosing]

theorem count_drifted :
    (p.facts client).count (.drifted client.name) = if p.findsDrift then 1 else 0 := by
  have hclosing : (Operation.closingFacts client p.verb p.outcome).count
      (.drifted client.name) = 0 := by
    cases p.outcome with
    | _ => simp [Operation.closingFacts]
  simp [facts_eq, count_singleton_if, hclosing]

theorem count_durationsWithin (verb : Verb) (bound : String) :
    (p.samples client).count (.durationsWithin client.name verb.name bound) =
      if p.isOf verb && p.isWithin bound then 1 else 0 := by
  unfold samples isWithin
  rw [count_flatMap_durationsWithin, count_finished, List.contains_eq_mem]
  by_cases hreached : bound ∈ reached p.seconds
  · simp [hreached]
  · simp [hreached]

theorem mem_facts {n : Note} (h : n ∈ p.facts client) :
    n = .filledIn client.name ∨ n = .drifted client.name ∨
      n = .finished client.name p.verb.name ∨
        ∃ reason, n = .failed client.name p.verb.name reason := by
  rw [facts_eq, List.mem_append, List.mem_append] at h
  rcases h with (h | h) | h
  · split at h
    · exact .inl (List.mem_singleton.mp h)
    · cases h
  · split at h
    · exact .inr (.inl (List.mem_singleton.mp h))
    · cases h
  · cases hresult : p.outcome with
    | ok result =>
      rw [hresult] at h
      exact .inr (.inr (.inl (List.mem_singleton.mp h)))
    | error failure =>
      rw [hresult] at h
      rcases List.mem_cons.mp h with rfl | h
      · exact .inr (.inr (.inl rfl))
      · exact .inr (.inr (.inr ⟨_, List.mem_singleton.mp h⟩))

theorem count_samples_eq_zero (h : ¬ Counted client s) : (p.samples client).count s = 0 := by
  apply List.count_eq_zero.mpr
  intro hmem
  obtain ⟨n, hn, hs⟩ := List.mem_flatMap.mp hmem
  apply h
  rcases mem_facts hn with rfl | rfl | rfl | ⟨reason, rfl⟩
  · cases List.mem_singleton.mp hs
    exact .fillings
  · cases List.mem_singleton.mp hs
    exact .drifts
  · rw [samplesOf, operationSamples_eq] at hs
    rcases List.mem_cons.mp hs with rfl | hs
    · exact .operations _
    · rcases List.mem_cons.mp hs with rfl | hs
      · exact .durations _
      · obtain ⟨bound, -, rfl⟩ := List.mem_map.mp hs
        exact .durationsWithin _ bound
  · cases List.mem_singleton.mp hs
    exact .failures _ _

end Performance

namespace Session

variable {σ : Type} {client : Kind} {world : Dialogue.World Call Call.Answer σ}
  {others : σ → σ → Prop} {state state' : State} {w w' : σ} {turns : List Turn} {t : Turn}
  {s : Series}

/-- The operation that is performed in a turn. -/
def Turn.performance? (t : Turn) : Option Performance :=
  match t.step, t.report.result with
  | .perform verb, some outcome => some ⟨verb, t.seconds, outcome⟩
  | _, _ => none

/-- Whether recording is switched on after a turn. -/
def Turn.recording (on : Bool) (t : Turn) : Bool :=
  match t.step with
  | .configureMetrics config => config.metricsEnabled
  | _ => on

/-- Whether recording is switched on after some turns. -/
def recordingAfter (on : Bool) (turns : List Turn) : Bool :=
  turns.foldl Turn.recording on

/-- The operations that are performed while recording is switched on. -/
def recorded (on : Bool) : List Turn → List Performance
  | [] => []
  | t :: rest => (if on then t.performance?.toList else []) ++ recorded (t.recording on) rest

theorem recordingAfter_snoc (on : Bool) (turns : List Turn) (t : Turn) :
    recordingAfter on (turns ++ [t]) = t.recording (recordingAfter on turns) := by
  simp [recordingAfter]

theorem recorded_snoc (on : Bool) (turns : List Turn) (t : Turn) :
    recorded on (turns ++ [t]) =
      recorded on turns ++ if recordingAfter on turns then t.performance?.toList else [] := by
  induction turns generalizing on with
  | nil => cases on with
    | _ => simp [recorded, recordingAfter]
  | cons u rest ih =>
    rw [List.cons_append, recorded, recorded, ih, List.append_assoc]
    rfl

theorem enabled_of_run (hrun : Run client world others state w turns state' w') :
    state'.metrics.enabled = recordingAfter state.metrics.enabled turns := by
  induction hrun with
  | start => rfl
  | turn step now seconds hrun hstep ih =>
    rw [recordingAfter_snoc, ← ih]
    cases step with
    | perform verb =>
      cases hstep
      exact enabled_addNotes
    | _ =>
      cases hstep
      rfl
  | disturbed hrun hothers ih => exact ih

/-! ## Samples -/

/-- Notes that are no facts stand for no samples. -/
theorem flatMap_samplesOf_facts (notes : List Note) (seconds : Float) :
    (facts notes).flatMap (samplesOf seconds) = notes.flatMap (samplesOf seconds) := by
  induction notes with
  | nil => rfl
  | cons n rest ih =>
    cases n with
    | event e => exact ih
    | _ => exact congrArg (_ ++ ·) ih

/-- A turn adds the samples of the operation that is performed in it, if recording is on. -/
theorem count_of_step {step : Step} {now : String} {seconds : Float} {report : Report}
    (h : Session.step client world now seconds step state w = (report, state', w'))
    (hkind : KeepsKind report.exchanges) :
    state'.metrics.count s = state.metrics.count s +
      ((if state.metrics.enabled then (Turn.mk step now seconds report).performance?.toList
        else []).flatMap (·.samples client)).count s := by
  cases step with
  | perform verb =>
    cases h
    rw [count_addNotes, ← flatMap_samplesOf_facts, facts_run world w client verb now _ hkind]
    split
    · simp [Turn.performance?, Performance.samples, Performance.facts]
    · rfl
  | _ =>
    cases h
    split
    · rfl
    · rfl

/-- A series grows by the samples of the operations that were recorded. -/
theorem count_of_run (hrun : Run client world others state w turns state' w')
    (hkind : KeepsKind (exchanges turns)) (s : Series) :
    state'.metrics.count s = state.metrics.count s +
      ((recorded state.metrics.enabled turns).flatMap (·.samples client)).count s := by
  induction hrun with
  | start => rfl
  | turn step now seconds hrun hstep ih =>
    rw [exchanges_snoc] at hkind
    have hbefore := ih fun q stored hmem => hkind q stored (List.mem_append_left _ hmem)
    have hturn : KeepsKind _ := fun q stored hmem =>
      hkind q stored (List.mem_append_right _ hmem)
    rw [count_of_step hstep hturn, hbefore, recorded_snoc, ← enabled_of_run hrun,
      List.flatMap_append, List.count_append, Nat.add_assoc]
  | disturbed hrun hothers ih => exact ih hkind

/-! ## The balance -/

/-- How the counts of a registry have changed while a client performed some operations that were
    recorded. -/
structure Balanced (client : Kind) (ps : List Performance) (before after : Registry) : Prop where
  operations (verb : Verb) :
    after.count (.operations client.name verb.name) =
      before.count (.operations client.name verb.name) + ps.countP (·.isOf verb)
  durations (verb : Verb) :
    after.count (.durations client.name verb.name) =
      before.count (.durations client.name verb.name) + ps.countP (·.isOf verb)
  durationsWithin (verb : Verb) (bound : String) :
    after.count (.durationsWithin client.name verb.name bound) =
      before.count (.durationsWithin client.name verb.name bound) +
        ps.countP fun p => p.isOf verb && p.isWithin bound
  failures (verb : Verb) (reason : String) :
    after.count (.failures client.name verb.name reason) =
      before.count (.failures client.name verb.name reason) +
        ps.countP fun p => p.isOf verb && p.failsWith reason
  drifts :
    after.count (.drifts client.name) =
      before.count (.drifts client.name) + ps.countP (·.findsDrift)
  fillings :
    after.count (.fillings client.name) =
      before.count (.fillings client.name) + ps.countP (·.fillsIn)
  /-- No other series has grown. -/
  others (s : Series) : ¬ Counted client s → after.count s = before.count s
  /-- In particular, none has that is labelled with another kind. -/
  foreign (s : Series) (name : String) :
    ("kind", name) ∈ s.labels → name ≠ client.name → after.count s = before.count s

/-- Where no item stands for more than one sample of a series, there are as many samples of it as
    items that stand for one. -/
theorem count_flatMap_eq_countP {α : Type} {f : α → List Series} {q : α → Bool}
    (h : ∀ x, (f x).count s = if q x then 1 else 0) (xs : List α) :
    (xs.flatMap f).count s = xs.countP q := by
  induction xs with
  | nil => rfl
  | cons x xs ih =>
    rw [List.flatMap_cons, List.count_append, ih, h, List.countP_cons, Nat.add_comm]

/-- Over a session the metrics grow by what the outcomes of the recorded operations tell, if the
    cluster keeps the kind of what it stores. -/
theorem balanced_of_run (hrun : Run client world others state w turns state' w')
    (hkind : KeepsKind (exchanges turns)) :
    Balanced client (recorded state.metrics.enabled turns) state.metrics state'.metrics := by
  have hgrowth (s : Series) (q : Performance → Bool)
      (hq : ∀ p : Performance, (p.samples client).count s = if q p then 1 else 0) :
      state'.metrics.count s =
        state.metrics.count s + (recorded state.metrics.enabled turns).countP q := by
    rw [count_of_run hrun hkind, count_flatMap_eq_countP hq]
  have hothers (s : Series) (hs : ¬ Counted client s) :
      state'.metrics.count s = state.metrics.count s := by
    have hzero := hgrowth s (fun _ => false) fun p => Performance.count_samples_eq_zero hs
    simpa using hzero
  refine
    { operations := fun verb => hgrowth _ _ fun p => ?_
      durations := fun verb => hgrowth _ _ fun p => ?_
      durationsWithin := fun verb bound => hgrowth _ _ fun p => ?_
      failures := fun verb reason => hgrowth _ _ fun p => ?_
      drifts := hgrowth _ _ fun p => ?_
      fillings := hgrowth _ _ fun p => ?_
      others := hothers
      foreign := fun s name hlabel hne => hothers s fun hcounted => hne (hcounted.name_eq hlabel) }
  · exact (count_flatMap_samplesOf .operations).trans (p.count_finished verb)
  · exact (count_flatMap_samplesOf .durations).trans (p.count_finished verb)
  · exact p.count_durationsWithin verb bound
  · exact (count_flatMap_samplesOf .failures).trans (p.count_failed verb reason)
  · exact (count_flatMap_samplesOf .drifts).trans p.count_drifted
  · exact (count_flatMap_samplesOf .fillings).trans p.count_filledIn

/-- A declared membership. -/
def member : Resource :=
  .membership { metadata := {}, spec := { forProvider := { organization := "acme" } } }

/-- A session in which the cluster refuses a write, recording is off for a while, and the client is
    handed a membership in the end. -/
def stumbling : List Cue :=
  [⟨.perform .observe, "now", 1⟩, ⟨.configureMetrics { metricsEnabled := false }, "now", 1⟩,
    ⟨.perform .observe, "now", 1⟩, ⟨.configureMetrics {}, "now", 1⟩,
    ⟨.setResource member, "now", 1⟩, ⟨.perform .observe, "now", 1⟩]

/-- What comes of it. -/
def stumbles : List Turn × State × Bool :=
  play .repository Repository.refusingOnce stumbling
    { resource := .repository Repository.bare } true

theorem run_stumbles :
    Run .repository Repository.refusingOnce Eq { resource := .repository Repository.bare } true
      stumbles.1 stumbles.2.1 stumbles.2.2 :=
  Run.start.play stumbling

theorem keepsKind_stumbles : KeepsKind (exchanges stumbles.1) := by
  intro q stored hmem
  obtain ⟨refusing, heq⟩ := run_stumbles.exists_answer hmem
  cases refusing with
  | true => cases heq
  | false =>
    cases heq
    rfl

/-- Two of the three observations are recorded, both as failures of the client of repositories. -/
theorem balanced_of_run_stumbles :
    stumbles.2.1.metrics.count (.operations "Repository" "observe") = 2 ∧
      stumbles.2.1.metrics.count (.failures "Repository" "observe" "local_persistence") = 1 ∧
      stumbles.2.1.metrics.count (.failures "Repository" "observe" "wrong_resource_kind") = 1 ∧
      stumbles.2.1.metrics.count (.operations "Membership" "observe") = 0 := by
  have h := balanced_of_run run_stumbles keepsKind_stumbles
  refine ⟨(h.operations .observe).trans rfl, (h.failures .observe _).trans rfl,
    (h.failures .observe _).trans rfl, ?_⟩
  exact h.foreign _ "Membership" (by simp [Series.operations]) (by decide)

end Session

end GitHubReconciler
