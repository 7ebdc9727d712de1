-- SUMMARY: The class of a failure tells its cause (`failures_classified`): no retry helps just if the resource itself is beyond help.
import GitHubReconciler.Proofs.Causes
import GitHubReconciler.Proofs.Secret.Soundness

/-!
# Classes of failures

Whether a failed operation is worth a retry is read off the class of the failure. The classes are
those of the causes: a failure is permanent just if the resource is of another kind or refers to a
template by something that is no full name, and any other class names the party that failed.

The class says so only as long as the cluster hands back resources of the kind that it was given,
and the reading of a value fails in no other way than its own.
-/

namespace GitHubReconciler

open Operation

variable {k : Kind} {verb : Verb} {r : Resource} {xs : List Exchange}
  {outcome : Except Failure Outcome} {failure : Failure}

/-! ## What classes say -/

/-- Reading a value fails in one way only. -/
def ExtractsOrFails (xs : List Exchange) : Prop :=
  ∀ selector failure, (⟨.extract selector, .error failure⟩ : Exchange) ∈ xs →
    ∃ detail, failure = .secretExtraction detail

/-- A value could not be read. -/
def ExtractionFailed (xs : List Exchange) : Prop :=
  ∃ selector failure, (⟨.extract selector, .error failure⟩ : Exchange) ∈ xs

/-- The class of a failure can be relied on. -/
structure Classified (k : Kind) (verb : Verb) (r : Resource) (xs : List Exchange)
    (outcome : Except Failure Outcome) : Prop where
  /-- No retry can help just if the resource is beyond help. -/
  permanent_iff :
    (∃ failure, outcome = .error failure ∧ failure.isPermanent = true) ↔ Hopeless k verb r
  uncalled : Hopeless k verb r → xs = []
  /-- A failure that carries a failed call to GitHub is what such a call is reported as. -/
  remote_iff {failure : Failure} {source : ApiFailure} :
    failure.source? = some source →
      (outcome = .error failure ↔
        ∃ x ∈ xs, x.tolerated verb (places xs).getLast? = false ∧ x.failure? = some failure)
  persistence_iff :
    (∃ kind causes, outcome = .error (.localPersistence kind causes)) ↔ WriteFailed xs
  extraction_iff :
    (∃ detail, outcome = .error (.secretExtraction detail)) ↔ ExtractionFailed xs
  encryption_iff :
    (∃ detail, outcome = .error (.encryption detail)) ↔ ∃ fault, Unsealable xs fault

/-- What there is behind a failure, by its class. -/
def Failure.Explained (k : Kind) (verb : Verb) (r : Resource) (xs : List Exchange)
    (failure : Failure) : Prop :=
  match failure with
  | .wrongKind _ => Hopeless k verb r
  | .malformedReference => Hopeless k verb r
  | .remote _ _ => failure ∈ complaints verb xs
  | .templateNotFound _ => failure ∈ complaints verb xs
  | .localPersistence _ _ => WriteFailed xs
  | .secretExtraction _ => ExtractionFailed xs
  | .encryption _ => ∃ fault, Unsealable xs fault

theorem Cause.explained (h : Cause k verb r xs failure) (hextract : ExtractsOrFails xs) :
    failure.Explained k verb r xs := by
  cases h with
  | wrongKind hother => exact .inl hother
  | malformed _ hmalformed => exact .inr hmalformed
  | reported hreported =>
    obtain ⟨x, hmem, -, hfailure⟩ := mem_complaints.mp hreported
    rcases x.cases_of_failure? hfailure with
      ⟨source, hsource⟩ | ⟨q, causes, rfl, rfl⟩ | ⟨selector, rfl⟩
    · cases failure with
      | remote => exact hreported
      | templateNotFound => exact hreported
      | _ => cases hsource
    · exact ⟨q, causes, hmem⟩
    · obtain ⟨detail, rfl⟩ := hextract _ _ hmem
      exact ⟨selector, _, hmem⟩
  | unsealable hunsealable => exact ⟨_, hunsealable⟩

/-- Where each failure has its cause, and each cause its failure, the classes can be relied on. -/
theorem Attributed.classified (h : Attributed k verb r xs outcome)
    (huncalled : Hopeless k verb r → xs = []) (hextract : ExtractsOrFails xs) :
    Classified k verb r xs outcome := by
  have hexplained {failure : Failure} (hfailed : outcome = .error failure) :
      failure.Explained k verb r xs := ((h failure).mp hfailed).explained hextract
  have hreports {x : Exchange} {failure : Failure} (hmem : x ∈ xs)
      (hcounts : x.tolerated verb (places xs).getLast? = false)
      (hfailure : x.failure? = some failure) : outcome = .error failure :=
    (h failure).mpr (.reported (mem_complaints.mpr ⟨x, hmem, hcounts, hfailure⟩))
  refine
    { permanent_iff := ⟨?_, ?_⟩
      uncalled := huncalled
      remote_iff := fun {failure _} hsource => ⟨?_, ?_⟩
      persistence_iff := ⟨fun ⟨_, _, hfailed⟩ => hexplained hfailed, ?_⟩
      extraction_iff := ⟨fun ⟨_, hfailed⟩ => hexplained hfailed, ?_⟩
      encryption_iff := ⟨fun ⟨_, hfailed⟩ => hexplained hfailed, ?_⟩ }
  · rintro ⟨failure, hfailed, hpermanent⟩
    cases failure with
    | wrongKind => exact hexplained hfailed
    | malformedReference => exact hexplained hfailed
    | _ => cases hpermanent
  · intro hhopeless
    by_cases hkind : r.kind = k
    · have hmalformed := hhopeless.resolve_left fun hother => hother hkind
      exact ⟨_, (h _).mpr (.malformed hkind hmalformed), rfl⟩
    · exact ⟨_, (h _).mpr (.wrongKind hkind), rfl⟩
  · intro hfailed
    cases failure with
    | remote => exact mem_complaints.mp (hexplained hfailed)
    | templateNotFound => exact mem_complaints.mp (hexplained hfailed)
    | _ => cases hsource
  · rintro ⟨x, hmem, hcounts, hfailure⟩
    exact hreports hmem hcounts hfailure
  · rintro ⟨q, causes, hmem⟩
    exact ⟨_, causes, hreports hmem rfl rfl⟩
  · rintro ⟨selector, failure, hmem⟩
    obtain ⟨detail, rfl⟩ := hextract _ _ hmem
    exact ⟨detail, hreports hmem rfl rfl⟩
  · rintro ⟨fault, hunsealable⟩
    exact ⟨_, (h _).mpr (.unsealable hunsealable)⟩

/-- The classes can be relied on for every operation of every client, whatever resource it is handed
    and whatever its calls are answered. -/
theorem failures_classified {σ : Type} (world : Dialogue.World Call Call.Answer σ) (w : σ)
    (k : Kind) (verb : Verb) (now : String) (r : Resource) :
    let run := (k.client.converse verb now r).run world w
    KeepsKind run.exchanges → ExtractsOrFails run.exchanges →
      Classified k verb r run.exchanges run.value.1 := by
  intro run hkeeps hextract
  have hrun : (k.client.converse verb now r).Generates run.exchanges run.value :=
    Dialogue.generates_run world _ w
  exact (Kind.attributed_of_generates hrun hkeeps).classified (Kind.eq_nil_of_hopeless hrun)
    hextract

/-- A world in which a value can be read, but public keys are empty. -/
def keyless : Dialogue.World Call Call.Answer Unit
  | .getPublicKey .., _ => (Except.ok {}, ())
  | .extract _, _ => (Except.ok [1], ())
  | c, _ => (declined c, ())

/-- There a secret cannot be sealed, which is worth a retry. -/
theorem failures_classified_keyless :
    let run := (Secret.client.converse .create "now" (.secrets Secret.declared)).run keyless ()
    (KeepsKind run.exchanges ∧ ExtractsOrFails run.exchanges) ∧
    (∃ detail, run.value.1 = .error (.encryption detail)) ∧
    ¬ ∃ failure, run.value.1 = .error failure ∧ failure.isPermanent = true := by
  intro run
  have hanswers {q : Call} {answer : q.Answer} (hmem : ⟨q, answer⟩ ∈ run.exchanges) :
      ∃ t, answer = (keyless q t).1 := (Dialogue.walk_run keyless _ ()).exists_answer hmem
  have hkeeps : KeepsKind run.exchanges := by
    intro q stored hmem
    obtain ⟨t, heq⟩ := hanswers hmem
    cases heq
    rfl
  have hextract : ExtractsOrFails run.exchanges := by
    intro selector failure hmem
    obtain ⟨t, heq⟩ := hanswers hmem
    cases heq
  have h := failures_classified keyless () .secrets .create "now" (.secrets Secret.declared)
    hkeeps hextract
  refine ⟨⟨hkeeps, hextract⟩, h.encryption_iff.mpr ⟨.absent, .head _, .head _, rfl⟩, ?_⟩
  intro hpermanent
  rcases h.permanent_iff.mp hpermanent with hother | hmalformed
  · exact hother rfl
  · cases hmalformed

end GitHubReconciler
