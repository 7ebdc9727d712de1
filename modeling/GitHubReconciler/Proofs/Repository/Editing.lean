-- SUMMARY: An edit is addressed to the repository whose settings it carries (`edit_reaches_fetched`), by the name it was found under or at the place it reports (`Registry`).
import GitHubReconciler.Proofs.Repository.Absence
import GitHubReconciler.Proofs.Repository.Convergence
import GitHubReconciler.Proofs.Repository.Directory

/-!
# Edits after look-ups

The body of an edit is the desired state laid over the repository that was looked up just before,
while the name that the edit is addressed to is the recorded one. A look-up under the recorded name
makes them the same. One under the desired name need not: GitHub still finds a repository at a place
that it had before, and the edit then goes to the place that it has now, if its name is recorded.

So names alone do not tell whether an edit reaches the repository that was found. A registry does:
it knows repositories by an identity of their own, which every place that they ever had leads to.
-/

namespace GitHubReconciler.Repository

open Operation

variable {o : RepositoryObject} {xs : List Exchange}

/-! ## Places -/

/-- The place that a repository reports as its own, if it names its owner and itself. -/
def reportedPlace? (r : Remote.Repository) : Option FullName :=
  match r.owner.bind (·.login), r.name with
  | some owner, some name => some { owner, name }
  | _, _ => none

/-- Which repository each place leads to, and what every repository reports of itself. Several
    places may lead to the same repository; the one that it reports does. -/
structure Registry (ι : Type) where
  leadsTo : FullName → Option ι
  report : ι → Remote.Repository
  leadsTo_reported (i : ι) (a : FullName) : reportedPlace? (report i) = some a → leadsTo a = some i

/-- Every repository that was got is the one that the place asked for leads to, as it reports
    itself. -/
def Registry.Answered {ι : Type} (g : Registry ι) (xs : List Exchange) : Prop :=
  ∀ owner name found, (⟨.getRepository owner name, .ok found⟩ : Exchange) ∈ xs →
    ∃ i, g.leadsTo { owner, name } = some i ∧ g.report i = found

/-! ## Look-ups -/

/-- A look-up that succeeds gets one repository, under the desired or the recorded name. -/
theorem LookingUp.exists_asked {owner name recorded : String} {found : Remote.Repository}
    (h : LookingUp owner name recorded xs (.ok found)) :
    ∃ asked, (asked = name ∨ recorded ≠ "" ∧ asked = recorded) ∧
      ∀ owner' asked' found',
        (⟨.getRepository owner' asked', .ok found'⟩ : Exchange) ∈ xs ↔
          owner' = owner ∧ asked' = asked ∧ found' = found := by
  cases h with
  | found =>
    refine ⟨name, .inl rfl, fun owner' asked' found' => ⟨fun hmem => ?_, ?_⟩⟩
    · cases List.mem_singleton.mp hmem
      exact ⟨rfl, rfl, rfl⟩
    · rintro ⟨rfl, rfl, rfl⟩
      exact .head _
  | retried hname =>
    refine ⟨recorded, .inr ⟨fun h => hname (.inl h), rfl⟩,
      fun owner' asked' found' => ⟨fun hmem => ?_, ?_⟩⟩
    · rcases List.mem_cons.mp hmem with hfirst | hmem
      · cases hfirst
      · cases List.mem_singleton.mp hmem
        exact ⟨rfl, rfl, rfl⟩
    · rintro ⟨rfl, rfl, rfl⟩
      exact .tail _ (.head _)

/-- A look-up does not edit. -/
theorem LookingUp.edit_notMem {owner name recorded : String} {owner' name' : String}
    {body : Remote.Repository} {answer reply : Call.FromGitHub Remote.Repository}
    (h : LookingUp owner name recorded xs answer) :
    (⟨.editRepository owner' name' body, reply⟩ : Exchange) ∉ xs := by
  intro hmem
  obtain ⟨asked, heq⟩ := h.question_eq hmem
  cases heq

/-- An edit comes last, after a look-up that has found what it is laid over. -/
theorem Updating.eq_of_edit_mem {owner name : String} {body : Remote.Repository}
    {reply : Call.FromGitHub Remote.Repository} {result : Except Failure Unit}
    (h : Updating o xs result)
    (hmem : (⟨.editRepository owner name body, reply⟩ : Exchange) ∈ xs) :
    ∃ ys found, LookingUp o.desired.owner o.desired.name (recordedName o) ys (.ok found) ∧
      xs = ys ++ [⟨.editRepository owner name body, reply⟩] ∧
      owner = o.desired.owner ∧ name = editedName o ∧ body = o.desired.applyTo found := by
  cases h with
  | unfound hlook => exact absurd hmem hlook.edit_notMem
  | @refused ys found failure hlook =>
    rcases List.mem_append.mp hmem with hmem | hmem
    · exact absurd hmem hlook.edit_notMem
    · cases List.mem_singleton.mp hmem
      exact ⟨ys, found, hlook, rfl, rfl, rfl, rfl⟩
  | @edited ys found edited hlook =>
    rcases List.mem_append.mp hmem with hmem | hmem
    · exact absurd hmem hlook.edit_notMem
    · cases List.mem_singleton.mp hmem
      exact ⟨ys, found, hlook, rfl, rfl, rfl, rfl⟩

/-! ## Edits -/

/-- The name that a successful look-up asked for is the one that is edited, unless another name is
    recorded. -/
theorem editedName_eq_asked {asked : String}
    (hasked : asked = o.desired.name ∨ recordedName o ≠ "" ∧ asked = recordedName o)
    (h : recordedName o = "" ∨ recordedName o = asked) : editedName o = asked := by
  unfold editedName
  split
  next hempty => exact (hasked.resolve_right fun h => h.1 hempty).symm
  next hnonempty => exact h.resolve_left hnonempty

/-- An edit that an update issues carries the repository that one look-up of the update has got, of
    the owner that the edit addresses. It is addressed by the name of this look-up if no other name
    is recorded, and by the recorded name if the repository reports that one. In a registry it
    reaches the repository that was got, provided that no other name is recorded or that the
    recorded name is part of the place that this repository reports. -/
theorem edit_reaches_fetched {σ : Type} (world : Dialogue.World Call Call.Answer σ) (w : σ)
    (o : RepositoryObject) (now owner name : String) (body : Remote.Repository)
    (reply : Call.FromGitHub Remote.Repository) :
    let run := (client.converse .update now (.repository o)).run world w
    (⟨.editRepository owner name body, reply⟩ : Exchange) ∈ run.exchanges →
    ∃ asked found,
      (∀ owner' asked' found',
        (⟨.getRepository owner' asked', .ok found'⟩ : Exchange) ∈ run.exchanges ↔
          owner' = owner ∧ asked' = asked ∧ found' = found) ∧
      body = o.desired.applyTo found ∧
      (recordedName o = "" ∨ recordedName o = asked → name = asked) ∧
      (recordedName o ≠ "" → found.name = some (recordedName o) → name = recordedName o) ∧
      ∀ (ι : Type) (g : Registry ι), g.Answered run.exchanges →
        ∃ i, g.leadsTo ⟨owner, asked⟩ = some i ∧ g.report i = found ∧
          (recordedName o = "" ∨ recordedName o = asked ∨
              reportedPlace? found = some ⟨owner, recordedName o⟩ →
            g.leadsTo ⟨owner, name⟩ = some i) := by
  intro run hmem
  obtain ⟨result, -, hupdating, -⟩ :=
    updating_of_generates (Dialogue.generates_run world _ w : Dialogue.Generates _ _ run.value)
  obtain ⟨ys, found, hlook, hsplit, rfl, rfl, rfl⟩ := hupdating.eq_of_edit_mem hmem
  obtain ⟨asked, hasked, hlooked⟩ := hlook.exists_asked
  have hgets (owner' asked' : String) (found' : Remote.Repository) :
      (⟨.getRepository owner' asked', .ok found'⟩ : Exchange) ∈ run.exchanges ↔
        owner' = o.desired.owner ∧ asked' = asked ∧ found' = found := by
    rw [← hlooked, hsplit, List.mem_append, or_iff_left]
    intro hlast
    cases List.mem_singleton.mp hlast
  have hsame : recordedName o = "" ∨ recordedName o = asked → editedName o = asked :=
    editedName_eq_asked hasked
  refine ⟨asked, found, hgets, rfl, hsame, fun hname _ => editedName_eq_recorded hname, ?_⟩
  intro ι g hanswered
  obtain ⟨i, hleads, hreport⟩ := hanswered _ _ _ ((hgets _ _ _).mpr ⟨rfl, rfl, rfl⟩)
  refine ⟨i, hleads, hreport, ?_⟩
  intro hknown
  by_cases hfetched : recordedName o = "" ∨ recordedName o = asked
  · rwa [hsame hfetched]
  · obtain ⟨hname, hother⟩ := not_or.mp hfetched
    have hplace := (hknown.resolve_left hname).resolve_left hother
    rw [editedName_eq_recorded hname]
    exact g.leadsTo_reported i _ (hreport ▸ hplace)

/-- A repository that has been renamed. -/
def relocated : Remote.Repository where
  owner := some { login := some "acme" }
  name := some "other"

/-- Its place and the one that it had before both lead to it. -/
def redirecting : Registry Unit where
  leadsTo a := if a = ⟨"acme", "demo"⟩ ∨ a = ⟨"acme", "other"⟩ then some () else none
  report _ := relocated
  leadsTo_reported := by
    rintro _ _ ⟨⟩
    rfl

/-- A repository that has been renamed in GitHub is found where it was, and edited where it is. -/
theorem edit_reaches_fetched_redirected :
    let o := described.withObserved { (default : Observed) with name := "other" }
    let run := (client.converse .update "now" (.repository o)).run (holding relocated) ()
    ∃ body reply asked,
      (⟨.getRepository "acme" asked, .ok relocated⟩ : Exchange) ∈ run.exchanges ∧
      (⟨.editRepository "acme" "other" body, reply⟩ : Exchange) ∈ run.exchanges ∧
      body = o.desired.applyTo relocated ∧
      redirecting.leadsTo ⟨"acme", asked⟩ = redirecting.leadsTo ⟨"acme", "other"⟩ := by
  intro o run
  have hedit : (⟨.editRepository "acme" "other" _, _⟩ : Exchange) ∈ run.exchanges :=
    .tail _ (.head _)
  have hget : (⟨.getRepository "acme" "demo", .ok relocated⟩ : Exchange) ∈ run.exchanges := .head _
  obtain ⟨asked, found, hgets, hbody, -, -, hreaches⟩ :=
    edit_reaches_fetched (holding relocated) () o "now" "acme" "other" _ _ hedit
  obtain ⟨-, rfl, rfl⟩ := (hgets _ _ _).mp hget
  have hanswered : redirecting.Answered run.exchanges := by
    intro owner name found hmem
    obtain ⟨rfl, rfl, rfl⟩ := (hgets _ _ _).mp hmem
    exact ⟨(), rfl, rfl⟩
  obtain ⟨i, hleads, -, hsame⟩ := hreaches Unit redirecting hanswered
  exact ⟨_, _, _, hget, hedit, hbody, hleads.trans (hsame (.inr (.inr rfl))).symm⟩

/-- A repository was renamed in GitHub, which still finds it under its old name. An observation
    records the new name, and the edit that gives the old one back is addressed to the new one. -/
theorem edit_follows_recorded_name :
    let moved : Remote.Repository := { name := some "other" }
    let observing := (client.converse .observe "now" (.repository described)).run (holding moved) ()
    let updating := (client.converse .update "later" observing.value.2).run (holding moved) ()
    observing.value.1 = .ok (.observed ⟨true, false, false⟩) ∧
    (⟨.getRepository "acme" "demo", .ok moved⟩ : Exchange) ∈ updating.exchanges ∧
    calls updating.exchanges =
      [.getRepository "acme" "demo",
        .editRepository "acme" "other" (described.desired.applyTo moved)] :=
  ⟨rfl, .head _, rfl⟩

end GitHubReconciler.Repository
