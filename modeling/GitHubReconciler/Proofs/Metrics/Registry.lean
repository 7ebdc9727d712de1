-- SUMMARY: What notes add to the counts of a registry (`Registry.count_addNotes`), and what samples stand for (`Means`).
import GitHubReconciler.Metrics.Registry

/-!
# What notes are counted for

Every note stands for some samples, whatever has been counted before. While a registry records, the
notes of an operation raise the count of each series by the number of its samples among them; else
they change nothing.
-/

namespace GitHubReconciler.Metrics

variable {s t : Series} {samples more : List Series} {notes : List Note} {seconds : Float}

/-- One more sample of a series is counted for this series alone. -/
theorem count_increment (counts : List (Series × Nat)) :
    ((increment t counts).lookup s).getD 0 =
      (counts.lookup s).getD 0 + if t = s then 1 else 0 := by
  induction counts with
  | nil =>
    by_cases heq : t = s
    · simp [increment, heq]
    · have hbeq : (s == t) = false := beq_false_of_ne (Ne.symm heq)
      simp [increment, List.lookup_cons, hbeq, heq]
  | cons first rest ih =>
    obtain ⟨u, n⟩ := first
    by_cases hs : s = u
    · subst hs
      by_cases ht : t = s
      · simp [increment, ht]
      · simp [increment, Ne.symm ht, ht]
    · have hbeq : (s == u) = false := beq_false_of_ne hs
      by_cases hu : u = t
      · subst hu
        simp [increment, List.lookup_cons, hbeq, Ne.symm hs]
      · simp [increment, hu, List.lookup_cons, hbeq, ih]

theorem count_foldl_increment (counts : List (Series × Nat)) :
    ((samples.foldl (fun counts t => increment t counts) counts).lookup s).getD 0 =
      (counts.lookup s).getD 0 + samples.count s := by
  induction samples generalizing counts with
  | nil => rfl
  | cons t samples ih =>
    rw [List.foldl_cons, ih, count_increment, List.count_cons, Nat.add_assoc,
      Nat.add_comm (samples.count s)]
    simp only [beq_iff_eq]

namespace Registry

variable {r : Registry}

@[simp] theorem enabled_add : (r.add samples).enabled = r.enabled := by
  unfold add
  split
  · rfl
  · rfl

theorem count_add :
    (r.add samples).count s = r.count s + if r.enabled then samples.count s else 0 := by
  unfold add
  split
  · exact count_foldl_increment r.counts
  · rfl

@[simp] theorem add_nil : r.add [] = r := by
  unfold add
  split
  · rfl
  · rfl

theorem add_add : (r.add samples).add more = r.add (samples ++ more) := by
  unfold add
  split
  · simp [*]
  · simp [*]

/-- The samples that a note of an operation that took some seconds stands for. -/
def samplesOf (seconds : Float) : Note → List Series
  | .event _ => []
  | .finished kind operation => operationSamples kind operation seconds
  | .failed kind operation reason => [.failures kind operation reason]
  | .filledIn kind => [.fillings kind]
  | .drifted kind => [.drifts kind]

theorem addNote_eq (n : Note) : r.addNote seconds n = r.add (samplesOf seconds n) := by
  cases n with
  | event e => exact add_nil.symm
  | finished kind operation => rfl
  | failed kind operation reason => rfl
  | filledIn kind => rfl
  | drifted kind => rfl

theorem addNotes_eq : r.addNotes seconds notes = r.add (notes.flatMap (samplesOf seconds)) := by
  induction notes generalizing r with
  | nil => exact add_nil.symm
  | cons n rest ih =>
    rw [List.flatMap_cons, ← add_add, ← addNote_eq, ← ih]
    rfl

/-- What notes add to the count of a series does not depend on what has been counted before. -/
theorem count_addNotes :
    (r.addNotes seconds notes).count s =
      r.count s + if r.enabled then (notes.flatMap (samplesOf seconds)).count s else 0 := by
  rw [addNotes_eq, count_add]

@[simp] theorem enabled_addNotes : (r.addNotes seconds notes).enabled = r.enabled := by
  rw [addNotes_eq, enabled_add]

/-- The same notes add the same to two registries that are both switched on or both off. -/
theorem exists_samples {r' : Registry} {notes' : List Note} (henabled : r.enabled = r'.enabled)
    (hnotes : notes = notes') :
    ∃ samples : Series → Nat, ∀ s,
      (r.addNotes seconds notes).count s = r.count s + samples s ∧
        (r'.addNotes seconds notes').count s = r'.count s + samples s := by
  subst hnotes
  refine ⟨_, fun s => ⟨count_addNotes, ?_⟩⟩
  rw [henabled]
  exact count_addNotes

end Registry

/-! ## What samples stand for -/

/-- A sample of a series stands for one such note, and no other. -/
inductive Means : Series → Note → Prop where
  | operations {kind operation : String} :
      Means (.operations kind operation) (.finished kind operation)
  | durations {kind operation : String} :
      Means (.durations kind operation) (.finished kind operation)
  | failures {kind operation reason : String} :
      Means (.failures kind operation reason) (.failed kind operation reason)
  | fillings {kind : String} : Means (.fillings kind) (.filledIn kind)
  | drifts {kind : String} : Means (.drifts kind) (.drifted kind)

/-- The bounds, by their texts, that an operation of some seconds does not exceed. -/
def reached (seconds : Float) : List String :=
  (bounds.filter fun b => seconds ≤ b.1).map (·.2) ++ ["+Inf"]

theorem nodup_reached : (reached seconds).Nodup := by
  have hall : (bounds.map (·.2) ++ ["+Inf"]).Nodup := by decide
  exact hall.sublist ((List.filter_sublist.map _).append_right _)

namespace Registry

variable {kind operation kind' operation' bound : String}

theorem count_samplesOf {m : Note} (h : Means s m) (n : Note) :
    (samplesOf seconds n).count s = if n = m then 1 else 0 := by
  cases h with
  | _ => cases n with
    | _ => simp [samplesOf, operationSamples, Series.operations, Series.durations,
        Series.durationsWithin, Series.failures, Series.fillings, Series.drifts, List.count_cons,
        List.count_eq_zero]

/-- As many samples of a series are counted as notes that they stand for are taken. -/
theorem count_flatMap_samplesOf {m : Note} (h : Means s m) :
    (notes.flatMap (samplesOf seconds)).count s = notes.count m := by
  induction notes with
  | nil => rfl
  | cons n rest ih =>
    rw [List.flatMap_cons, List.count_append, ih, count_samplesOf h, List.count_cons, Nat.add_comm]
    simp only [beq_iff_eq]

theorem operationSamples_eq :
    operationSamples kind operation seconds =
      .operations kind operation :: .durations kind operation ::
        (reached seconds).map (.durationsWithin kind operation) := by
  simp [operationSamples, reached, Function.comp_def]

/-- An operation counts once towards each of its series. -/
theorem nodup_operationSamples : (operationSamples kind operation seconds).Nodup := by
  have hwithin : ((reached seconds).map (Series.durationsWithin kind operation)).Nodup := by
    apply List.pairwise_map.mpr
    apply nodup_reached.imp
    intro bound bound' hne heq
    simp [Series.durationsWithin] at heq
    exact hne heq
  rw [operationSamples_eq, List.nodup_cons, List.nodup_cons]
  refine ⟨?_, ?_, hwithin⟩
  · simp [Series.operations, Series.durations, Series.durationsWithin]
  · simp [Series.durations, Series.durationsWithin]

theorem durationsWithin_mem_operationSamples :
    .durationsWithin kind operation bound ∈ operationSamples kind' operation' seconds ↔
      (kind' = kind ∧ operation' = operation) ∧ bound ∈ reached seconds := by
  rw [operationSamples_eq]
  simp only [Series.operations, Series.durations, Series.durationsWithin, List.mem_cons,
    List.mem_map, Series.mk.injEq, List.cons.injEq, Prod.mk.injEq]
  constructor
  · rintro (⟨hfamily, -⟩ | ⟨hfamily, -⟩ | ⟨_, hmem, -, ⟨-, rfl⟩, ⟨-, rfl⟩, ⟨-, rfl⟩, -⟩)
    · exact absurd hfamily (by decide)
    · exact absurd hfamily (by decide)
    · exact ⟨⟨rfl, rfl⟩, hmem⟩
  · rintro ⟨⟨rfl, rfl⟩, hmem⟩
    exact .inr (.inr ⟨bound, hmem, by simp⟩)

theorem count_durationsWithin (n : Note) :
    (samplesOf seconds n).count (.durationsWithin kind operation bound) =
      if n = .finished kind operation ∧ bound ∈ reached seconds then 1 else 0 := by
  cases n with
  | finished kind' operation' =>
    rw [samplesOf, nodup_operationSamples.count]
    simp only [durationsWithin_mem_operationSamples, Note.finished.injEq]
  | _ => simp [samplesOf, Series.durationsWithin, Series.failures, Series.fillings, Series.drifts]

/-- An operation counts towards a bound of durations if it does not exceed it. -/
theorem count_flatMap_durationsWithin :
    (notes.flatMap (samplesOf seconds)).count (.durationsWithin kind operation bound) =
      if bound ∈ reached seconds then notes.count (.finished kind operation) else 0 := by
  induction notes with
  | nil => simp
  | cons n rest ih =>
    rw [List.flatMap_cons, List.count_append, ih, count_durationsWithin, List.count_cons]
    by_cases hreached : bound ∈ reached seconds
    · simp [hreached, Nat.add_comm]
    · simp [hreached]

end Registry

end GitHubReconciler.Metrics
