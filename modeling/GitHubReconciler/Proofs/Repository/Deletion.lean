-- SUMMARY: Which repository a deletion reaches after an observation has found one (`deletion_reaches_observed_iff`).
import GitHubReconciler.Proofs.Repository.Absence
import GitHubReconciler.Proofs.Repository.Directory
import GitHubReconciler.Proofs.Repository.Writing

/-!
# Deletions after observations

An observation also finds a repository that has the recorded name only, but a deletion is
addressed to the desired name. So it reaches the repository that was found just if something has
the desired name. Until a rename is applied nothing may have it; the deletion is answered with 404
then, and changes nothing. It never reaches a repository other than the one that was found.
-/

namespace GitHubReconciler.Repository

open Operation

variable {d : Directory} {o : RepositoryObject} {xs : List Exchange} {now : String}
  {r' : Resource}

/-- An observation finds a repository under the desired name just if something has that name. -/
theorem Observing.asked_eq_iff {result : Except Failure Observation} {asked : String}
    {found : Remote.Repository} (h : Observing now o xs result r')
    (hanswers : ∀ x ∈ xs, d.Answers x d)
    (hmem : (⟨.getRepository o.desired.owner asked, .ok found⟩ : Exchange) ∈ xs) :
    asked = o.desired.name ↔ d (desiredPlace o) ≠ none := by
  constructor
  · rintro rfl
    simp [desiredPlace, (hanswers _ hmem).held_of_ok]
  · intro hheld
    by_contra hother
    obtain ⟨ys, zs, answer, rfl, hlook, hwrites, -⟩ := h.exists_lookingUp
    have hlooked : ∀ x ∈ ys, d.Answers x d := fun x hx => hanswers x (List.mem_append_left _ hx)
    rcases List.mem_append.mp hmem with hmem | hmem
    · exact hheld (hlook.free_of_mem hlooked hmem hother)
    · obtain ⟨q, heq⟩ := hwrites _ hmem
      cases heq

/-- What a deletion does after an observation that found a repository under the name `asked`, with
    the same desired place and the same directory. -/
theorem deletion_reaches_observed_iff {σ : Type} (world : Dialogue.World Call Call.Answer σ)
    (held : σ → Directory) (w v : σ) (o p : RepositoryObject) (now later asked : String)
    (found : Remote.Repository) :
    let observing := (client.converse .observe now (.repository o)).run world w
    let deleting := (client.converse .delete later (.repository p)).run world v
    let observed : FullName := ⟨o.desired.owner, asked⟩
    let desired := desiredPlace o
    Directory.KeptBy world held →
    (⟨.getRepository observed.owner observed.name, .ok found⟩ : Exchange) ∈ observing.exchanges →
    desiredPlace p = desired → held v = held w →
    calls deleting.exchanges = [.deleteRepository desired.owner desired.name] ∧
    (observed = desired ↔ held w desired ≠ none) ∧
    (observed = desired →
      deleting.value.1 = .ok .deleted ∧ held deleting.world = (held w).erase observed) ∧
    (observed ≠ desired →
      (∃ failure, deleting.value.1 = .error (.remote deleteContext failure) ∧
        failure.isNotFound = true) ∧
      held deleting.world = held w) ∧
    ∀ other, other ≠ observed → held deleting.world other = held w other := by
  intro observing deleting observed desired hkept hmem hplace hheld
  obtain ⟨result, -, hobserving⟩ := observing_of_generates
    (Dialogue.generates_run world _ w : Dialogue.Generates _ _ observing.value)
  obtain ⟨-, hanswers⟩ := hkept.answers_of_walk (Dialogue.walk_run world _ w)
    fun x hx => hobserving.isMutation_eq_false hx
  have hfound : observed = desired ↔ held w desired ≠ none := by
    rw [← hobserving.asked_eq_iff hanswers hmem]
    exact ⟨congrArg FullName.name, congrArg (FullName.mk o.desired.owner)⟩
  obtain ⟨answer, hexchanges, hvalue, -⟩ := deleting_of_generates
    (Dialogue.generates_run world _ v : Dialogue.Generates _ _ deleting.value)
  obtain ⟨howner, hname⟩ := FullName.mk.inj hplace
  rw [howner, hname] at hexchanges
  have hwalk : Dialogue.Walk world v deleting.exchanges deleting.world :=
    Dialogue.walk_run world _ v
  rw [hexchanges] at hwalk
  have hanswer := hkept.answers_of_single hwalk
  rw [hheld] at hanswer
  have hreached : observed = desired →
      deleting.value.1 = .ok .deleted ∧ held deleting.world = (held w).erase observed := by
    intro hsame
    obtain ⟨rfl, hdone⟩ := hanswer.erases (hfound.mp hsame)
    rw [hsame]
    exact ⟨hvalue, hdone⟩
  have hmissed : observed ≠ desired →
      (∃ failure, deleting.value.1 = .error (.remote deleteContext failure) ∧
        failure.isNotFound = true) ∧ held deleting.world = held w := by
    intro hother
    have hfree : held w desired = none := not_not.mp (mt hfound.mpr hother)
    obtain ⟨⟨failure, rfl, hmissing⟩, hsame⟩ := hanswer.eq_of_free hfree
    exact ⟨⟨failure, hvalue, hmissing⟩, hsame⟩
  refine ⟨?_, hfound, hreached, hmissed, ?_⟩
  · rw [hexchanges]
    rfl
  · intro other hother
    by_cases hsame : observed = desired
    · rw [(hreached hsame).2, Directory.erase_of_ne hother]
    · rw [(hmissed hsame).2]

/-- Someone has applied the rename already, and the repository is found under its new name. -/
theorem deletion_reaches_observed_applied :
    let applied : Directory := .only ⟨"acme", "new"⟩ { name := some "new" }
    let deleting := (client.converse .delete "later" (.repository renamed)).run
      Directory.keeping applied
    calls deleting.exchanges = [.deleteRepository "acme" "new"] ∧
      deleting.world = applied.erase ⟨"acme", "new"⟩ := by
  intro applied deleting
  obtain ⟨hcalls, -, hreached, -, -⟩ := deletion_reaches_observed_iff Directory.keeping id applied
    applied renamed renamed "now" "later" "new" { name := some "new" } Directory.keptBy_keeping
    (.head _) rfl rfl
  exact ⟨hcalls, (hreached rfl).2⟩

/-- The rename has not been applied. The repository is observed under its old name, the deletion
    asks for the new one, and the repository stays. -/
theorem deletion_misses_renamed :
    let pending : Directory := .only ⟨"acme", "old"⟩ { name := some "old" }
    let observing := (client.converse .observe "now" (.repository renamed)).run
      Directory.keeping pending
    let deleting := (client.converse .delete "later" observing.value.2).run
      Directory.keeping observing.world
    observing.value.1 = .ok (.observed ⟨true, false, false⟩) ∧
    (⟨.getRepository "acme" "old", .ok { name := some "old" }⟩ : Exchange) ∈
      observing.exchanges ∧
    observing.world = pending ∧
    calls deleting.exchanges = [.deleteRepository "acme" "new"] ∧
    deleting.world = pending := by
  exact ⟨rfl, .tail _ (.head _), rfl, rfl, rfl⟩

end GitHubReconciler.Repository
