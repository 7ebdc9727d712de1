-- SUMMARY: GitHub's side of repositories (`Directory`): how calls are answered (`Directory.Answers`), and look-ups in a directory.
import GitHubReconciler.Proofs.Repository.Observing
import Mathlib.Logic.Function.Basic

/-!
# Directories

A directory is what GitHub keeps of all repositories: which one, if any, has an owner and a name.
A look-up is answered with the repository that is there, or with 404. An edit may move it to
another name. Other calls than those about repositories have nothing to do with a directory, and
how a repository is created is not said.

A world keeps a directory if it answers by one. Whatever else it does, and however it stores
resources, does not matter.
-/

namespace GitHubReconciler.Repository

open Operation

/-- GitHub answered that there is nothing under the name it was asked for. -/
def NotFound {α : Type} (answer : Call.FromGitHub α) : Prop :=
  ∃ failure, answer = .error failure ∧ failure.isNotFound = true

/-- What an edit makes of a repository: the changes, under a name. Its id and whom it belongs to
    stay, and the wish for a first commit is dropped. -/
def edit (current changes : Remote.Repository) (name : String) : Remote.Repository :=
  { changes with
    id := current.id
    owner := current.owner
    organization := current.organization
    name := some name
    settings := changes.settings.lasting }

/-- GitHub may give what was edited another full name. -/
def Edited (current changes : Remote.Repository) (name : String) (edited : Remote.Repository) :
    Prop :=
  ∃ fullName, edited = { edit current changes name with fullName }

/-- Where an object wants its repository to be. -/
def desiredPlace (o : RepositoryObject) : FullName :=
  ⟨o.desired.owner, o.desired.name⟩

/-- Where the last observation found it. -/
def recordedPlace (o : RepositoryObject) : FullName :=
  ⟨o.desired.owner, recordedName o⟩

/-- The repositories in GitHub. -/
abbrev Directory := FullName → Option Remote.Repository

namespace Directory

variable {d e : Directory} {a b : FullName} {r : Remote.Repository}

/-! ## Changes -/

/-- The directory with a single repository. -/
def only (a : FullName) (r : Remote.Repository) : Directory :=
  Function.update (fun _ => none) a (some r)

def erase (d : Directory) (a : FullName) : Directory :=
  Function.update d a none

/-- Take the repository away from one place and put another one in a second place. -/
def move (d : Directory) (a b : FullName) (r : Remote.Repository) : Directory :=
  Function.update (d.erase a) b (some r)

@[simp] theorem only_self : only a r a = some r :=
  Function.update_self ..

theorem only_of_ne {c : FullName} (h : c ≠ a) : only a r c = none :=
  Function.update_of_ne h ..

@[simp] theorem erase_self : d.erase a a = none :=
  Function.update_self ..

theorem erase_of_ne {c : FullName} (h : c ≠ a) : d.erase a c = d c :=
  Function.update_of_ne h ..

@[simp] theorem move_target : d.move a b r b = some r :=
  Function.update_self ..

theorem move_source (h : a ≠ b) : d.move a b r a = none := by
  rw [move, Function.update_of_ne h, erase_self]

theorem move_of_ne {c : FullName} (ha : c ≠ a) (hb : c ≠ b) : d.move a b r c = d c := by
  rw [move, Function.update_of_ne hb, erase_of_ne ha]

/-! ## Answers -/

/-- How GitHub answers calls about repositories, and what they make of the directory. -/
def Answers (d : Directory) : Exchange → Directory → Prop
  | ⟨.getRepository owner name, answer⟩, e =>
      e = d ∧
      match d ⟨owner, name⟩ with
      | some r => answer = .ok r
      | none => NotFound answer
  | ⟨.editRepository owner name changes, answer⟩, e =>
      match d ⟨owner, name⟩ with
      | some r =>
          ∃ edited, Edited r changes (changes.name.getD name) edited ∧ answer = .ok edited ∧
            e = d.move ⟨owner, name⟩ ⟨owner, changes.name.getD name⟩ edited
      | none => NotFound answer ∧ e = d
  | ⟨.deleteRepository owner name, answer⟩, e =>
      match d ⟨owner, name⟩ with
      | some _ => answer = .ok () ∧ e = d.erase ⟨owner, name⟩
      | none => NotFound answer ∧ e = d
  | ⟨.createRepository .., _⟩, _ => True
  | ⟨.generateRepository .., _⟩, _ => True
  | _, e => e = d

/-- Only mutations change a directory. -/
theorem Answers.eq_of_not_mutation {x : Exchange} (h : d.Answers x e)
    (hread : x.1.isMutation = false) : e = d := by
  obtain ⟨q, answer⟩ := x
  cases q with
  | getRepository owner name => exact h.1
  | getPublicKey owner repository => exact h
  | getSecret owner repository name => exact h
  | getMembership user organization => exact h
  | getFile owner repository path branch => exact h
  | persist resource => exact h
  | extract selector => exact h
  | drawKey => exact h
  | _ => cases hread

/-- A world answers by the directory that it keeps. -/
def KeptBy {σ : Type} (world : Dialogue.World Call Call.Answer σ) (held : σ → Directory) : Prop :=
  ∀ q s, (held s).Answers ⟨q, (world q s).1⟩ (held (world q s).2)

/-- Exchanges without a mutation are all answered by the directory that was there. -/
theorem KeptBy.answers_of_walk {σ : Type} {world : Dialogue.World Call Call.Answer σ}
    {held : σ → Directory} {s s' : σ} {xs : List Exchange} (hkept : KeptBy world held)
    (hwalk : Dialogue.Walk world s xs s') (hread : ∀ x ∈ xs, x.1.isMutation = false) :
    held s' = held s ∧ ∀ x ∈ xs, (held s).Answers x (held s) := by
  induction hwalk with
  | nil => exact ⟨rfl, fun x hx => nomatch hx⟩
  | @cons s s' q xs _ ih =>
    have hfirst := hkept q s
    have hsame : held (world q s).2 = held s := hfirst.eq_of_not_mutation (hread _ (.head _))
    rw [hsame] at hfirst
    obtain ⟨hrest, hanswers⟩ := ih fun x hx => hread x (.tail _ hx)
    rw [hsame] at hrest hanswers
    refine ⟨hrest, fun x hx => ?_⟩
    rcases List.mem_cons.mp hx with rfl | hx
    · exact hfirst
    · exact hanswers x hx

/-- A call takes the directory from what it was before to what it is after. -/
theorem KeptBy.answers_of_single {σ : Type} {world : Dialogue.World Call Call.Answer σ}
    {held : σ → Directory} {s s' : σ} {x : Exchange} (hkept : KeptBy world held)
    (hwalk : Dialogue.Walk world s [x] s') : (held s).Answers x (held s') := by
  obtain ⟨q, answer⟩ := x
  obtain ⟨rfl, hrest⟩ := hwalk.answer_eq
  cases hrest
  exact hkept q s

/-- The world that keeps a directory, and declines all that has nothing to do with it. -/
def keeping : Dialogue.World Call Call.Answer Directory
  | .getRepository owner name, d =>
      match d ⟨owner, name⟩ with
      | some r => (Except.ok r, d)
      | none => (notFound, d)
  | .editRepository owner name changes, d =>
      match d ⟨owner, name⟩ with
      | some r =>
          let target := changes.name.getD name
          let edited := edit r changes target
          (Except.ok edited, d.move ⟨owner, name⟩ ⟨owner, target⟩ edited)
      | none => (notFound, d)
  | .deleteRepository owner name, d =>
      match d ⟨owner, name⟩ with
      | some _ => (Except.ok (), d.erase ⟨owner, name⟩)
      | none => (notFound, d)
  | c, d => (declined c, d)
where
  /-- There is nothing under the name. -/
  notFound {α : Type} : Call.FromGitHub α := .error { status := some 404, message := "Not Found" }

theorem notFound_notFound {α : Type} : NotFound (keeping.notFound : Call.FromGitHub α) :=
  ⟨_, rfl, rfl⟩

theorem answers_keeping (d : Directory) (q : Call) :
    d.Answers ⟨q, (keeping q d).1⟩ (keeping q d).2 := by
  cases q with
  | getRepository owner name =>
    cases hheld : d ⟨owner, name⟩ with
    | some r =>
      simp only [keeping, Answers, hheld]
      exact ⟨trivial, rfl⟩
    | none =>
      simp only [keeping, Answers, hheld]
      exact ⟨trivial, notFound_notFound⟩
  | editRepository owner name changes =>
    cases hheld : d ⟨owner, name⟩ with
    | some r =>
      simp only [keeping, Answers, hheld]
      exact ⟨_, ⟨_, rfl⟩, rfl, rfl⟩
    | none =>
      simp only [keeping, Answers, hheld]
      exact ⟨notFound_notFound, trivial⟩
  | deleteRepository owner name =>
    cases hheld : d ⟨owner, name⟩ with
    | some r =>
      simp only [keeping, Answers, hheld]
      exact ⟨rfl, trivial⟩
    | none =>
      simp only [keeping, Answers, hheld]
      exact ⟨notFound_notFound, trivial⟩
  | createRepository => trivial
  | generateRepository => trivial
  | _ => rfl

theorem keptBy_keeping : KeptBy keeping id :=
  fun q d => answers_keeping d q

/-! ## Editing and deleting -/

theorem Answers.edits {owner name : String} {changes : Remote.Repository}
    {answer : Call.FromGitHub Remote.Repository}
    (h : d.Answers ⟨.editRepository owner name changes, answer⟩ e)
    (hheld : d ⟨owner, name⟩ = some r) :
    ∃ edited, Edited r changes (changes.name.getD name) edited ∧ answer = .ok edited ∧
      e = d.move ⟨owner, name⟩ ⟨owner, changes.name.getD name⟩ edited := by
  simp only [Answers, hheld] at h
  exact h

theorem Answers.erases {owner name : String} {answer : Call.FromGitHub Unit}
    (h : d.Answers ⟨.deleteRepository owner name, answer⟩ e) (hheld : d ⟨owner, name⟩ ≠ none) :
    answer = .ok () ∧ e = d.erase ⟨owner, name⟩ := by
  obtain ⟨r, hr⟩ := Option.ne_none_iff_exists'.mp hheld
  simp only [Answers, hr] at h
  exact h

theorem Answers.eq_of_free {owner name : String} {answer : Call.FromGitHub Unit}
    (h : d.Answers ⟨.deleteRepository owner name, answer⟩ e) (hfree : d ⟨owner, name⟩ = none) :
    NotFound answer ∧ e = d := by
  simp only [Answers, hfree] at h
  exact h

/-! ## Looking up -/

theorem Answers.held_of_ok {owner name : String}
    (h : d.Answers ⟨.getRepository owner name, .ok r⟩ e) : d ⟨owner, name⟩ = some r := by
  have hanswer := h.2
  split at hanswer
  next hheld =>
    cases hanswer
    exact hheld
  next => obtain ⟨failure, heq, -⟩ := hanswer; cases heq

theorem Answers.free_of_error {owner name : String} {failure : ApiFailure}
    (h : d.Answers ⟨.getRepository owner name, .error failure⟩ e) : d ⟨owner, name⟩ = none := by
  have hanswer := h.2
  split at hanswer
  next => cases hanswer
  next hfree => exact hfree

end Directory

variable {owner name recorded : String} {d : Directory} {xs : List Exchange}
  {answer : Call.FromGitHub Remote.Repository} {found : Remote.Repository}

/-- What has the desired name is found at once. -/
theorem LookingUp.eq_of_held (h : LookingUp owner name recorded xs answer)
    (hanswers : ∀ x ∈ xs, d.Answers x d) (hheld : d ⟨owner, name⟩ = some found) :
    xs = [⟨.getRepository owner name, .ok found⟩] ∧ answer = .ok found := by
  cases h with
  | found =>
    cases hheld.symm.trans (hanswers _ (.head _)).held_of_ok
    exact ⟨rfl, rfl⟩
  | failed => cases hheld.symm.trans (hanswers _ (.head _)).free_of_error
  | retried => cases hheld.symm.trans (hanswers _ (.head _)).free_of_error

/-- What only has the recorded name is found by the second look-up. -/
theorem LookingUp.eq_of_recorded (h : LookingUp owner name recorded xs answer)
    (hanswers : ∀ x ∈ xs, d.Answers x d) (hfree : d ⟨owner, name⟩ = none)
    (hheld : d ⟨owner, recorded⟩ = some found) (hrecorded : recorded ≠ "") :
    calls xs = [.getRepository owner name, .getRepository owner recorded] ∧
      answer = .ok found := by
  cases h with
  | found => cases hfree.symm.trans (hanswers _ (.head _)).held_of_ok
  | failed hname =>
    obtain rfl := hname.resolve_left hrecorded
    cases hfree.symm.trans hheld
  | @retried _ answer =>
    refine ⟨rfl, ?_⟩
    have hsecond := hanswers _ (.tail _ (.head _))
    cases answer with
    | ok found =>
      cases hheld.symm.trans hsecond.held_of_ok
      rfl
    | error failure => cases hheld.symm.trans hsecond.free_of_error

/-- What is found under another name than the desired one is found because nothing has that. -/
theorem LookingUp.free_of_mem {asked : String} (h : LookingUp owner name recorded xs answer)
    (hanswers : ∀ x ∈ xs, d.Answers x d)
    (hmem : (⟨.getRepository owner asked, .ok found⟩ : Exchange) ∈ xs) (hother : asked ≠ name) :
    d ⟨owner, name⟩ = none := by
  cases h with
  | found =>
    cases List.mem_singleton.mp hmem
    exact absurd rfl hother
  | failed => exact (hanswers _ (.head _)).free_of_error
  | retried => exact (hanswers _ (.head _)).free_of_error

end GitHubReconciler.Repository
