-- SUMMARY: Files that others commit to as well (`Files.Leads`): a commit of an operation is accepted only in place of the blob that the operation has looked up (`commits_guarded`).
import GitHubReconciler.Proofs.Content.Operations
import GitHubReconciler.Proofs.History

/-!
# Files that others commit to

A commit names the blob that it replaces, and GitHub refuses it if another blob has got to its place
in the meantime. Here a blob goes by its name, which is a digest of its body: a file that is changed
and changed back holds the same blob again. What others commit is not restricted.

`Writing` says on what grounds an operation commits, whatever GitHub answers. Together with the
guard of GitHub it tells what a commit that lands has replaced.
-/

namespace GitHubReconciler.Content

open Operation

/-! ## Files in GitHub -/

/-- Where a file is. Without a branch it is on the default branch, which has a name as well; so
    two places may be one. -/
structure Place where
  owner : String
  repository : String
  path : String
  branch : Option String
  deriving DecidableEq

/-- The names of the blobs at all places. -/
abbrev Files := Place → Option String

/-- What someone else commits. -/
abbrev Push := Files → Files

/-- The place that a call is about. -/
def place? : Call → Option Place
  | .getFile owner repository path branch => some ⟨owner, repository, path, branch⟩
  | .createFile owner repository path commit
  | .updateFile owner repository path commit
  | .deleteFile owner repository path commit => some ⟨owner, repository, path, commit.branch⟩
  | _ => none

/-- Where the file of an object is. -/
def place (o : ContentObject) : Place :=
  ⟨o.desired.owner, o.desired.repository, o.desired.path, o.desired.branch⟩

namespace Files

variable {body : String → Bytes} {v w : Files}

/-- There is a file with this body at a place. -/
def Holds (body : String → Bytes) (v : Files) (p : Place) (bytes : Bytes) : Prop :=
  ∃ blob, v p = some blob ∧ body blob = bytes

/-- How a commit is accepted, whatever it does: the blob at its place is the one that it names, and
    there is no file if it names none. What becomes of other places is left open. -/
def Accepts (body : String → Bytes) (v : Files) : Call → Files → Prop
  | .createFile owner repository path commit, w
  | .updateFile owner repository path commit, w =>
      v ⟨owner, repository, path, commit.branch⟩ = commit.sha ∧
        w.Holds body ⟨owner, repository, path, commit.branch⟩ commit.content
  | .deleteFile owner repository path commit, w =>
      v ⟨owner, repository, path, commit.branch⟩ = commit.sha ∧
        w ⟨owner, repository, path, commit.branch⟩ = none
  | _, _ => False

/-- How a commit is answered. The answer to one that is accepted may get lost. -/
def AnswersCommit {α : Type} (body : String → Bytes) (v : Files) (commit : Call)
    (answer : Call.FromGitHub α) (w : Files) : Prop :=
  v.Accepts body commit w ∨ ((∃ failure, answer = .error failure) ∧ w = v)

/-- How GitHub answers calls about files. -/
def Answers (body : String → Bytes) (v : Files) : Exchange → Files → Prop
  | ⟨.getFile owner repository path branch, answer⟩, w =>
      w = v ∧ ∀ found, answer = .ok found →
        found.sha.isSome ∧ v ⟨owner, repository, path, branch⟩ = found.sha
  | ⟨.createFile owner repository path commit, answer⟩, w =>
      v.AnswersCommit body (.createFile owner repository path commit) answer w
  | ⟨.updateFile owner repository path commit, answer⟩, w =>
      v.AnswersCommit body (.updateFile owner repository path commit) answer w
  | ⟨.deleteFile owner repository path commit, answer⟩, w =>
      v.AnswersCommit body (.deleteFile owner repository path commit) answer w
  | _, _ => True

/-- What an incident makes of the files. -/
def Leads (body : String → Bytes) (v : Files) : Incident Push → Files → Prop
  | .answered x, w => v.Answers body x w
  | .foreign push, w => w = push v

theorem AnswersCommit.accepts_of_ok {α : Type} {commit : Call} {x : α}
    (h : v.AnswersCommit body commit (.ok x) w) : v.Accepts body commit w := by
  rcases h with haccepts | ⟨⟨failure, hfailed⟩, -⟩
  · exact haccepts
  · cases hfailed

end Files

open Files

variable {body : String → Bytes} {v : Files} {now : String} {o : ContentObject}
  {verb : Verb} {outcome : Except Failure Outcome} {r' : Resource}
  {xs before after : List Exchange} {x : Exchange} {history : History Push Files}

/-! ## The commits of an operation -/

/-- The commit of an operation, after the exchanges before it, and the blob that it names: the one
    that the look-up has returned, and none if the file is to be created. -/
inductive Writing (o : ContentObject) : Verb → List Exchange → Option String → Call → Prop where
  | creation :
      Writing o .create [] none
        (.createFile o.desired.owner o.desired.repository o.desired.path (o.desired.commit none))
  | replacement {found : Remote.File} :
      Writing o .update [⟨asking o, .ok found⟩] found.sha
        (.updateFile o.desired.owner o.desired.repository o.desired.path
          (o.desired.commit found.sha))
  | deletion {found : Remote.File} :
      Writing o .delete [⟨asking o, .ok found⟩] found.sha
        (.deleteFile o.desired.owner o.desired.repository o.desired.path
          (o.desired.commit found.sha))

theorem Writing.isMutation_eq_false {blob : Option String} {commit : Call}
    (h : Writing o verb before blob commit) : ∀ x ∈ before, x.1.isMutation = false := by
  cases h <;> simp [asking, Call.isMutation]

/-- What comes before the only commit among some exchanges. -/
theorem eq_of_append_eq_concat {front : List Exchange} {y : Exchange}
    (heq : before ++ x :: after = front ++ [y]) (hx : x.1.isMutation = true)
    (hfront : ∀ z ∈ front, z.1.isMutation = false) : before = front ∧ x = y := by
  rcases List.append_eq_append_iff.mp heq with ⟨rest, rfl, hrest⟩ | ⟨rest, rfl, hrest⟩
  · cases rest with
    | nil =>
      obtain ⟨rfl, -⟩ := List.cons.inj hrest
      exact ⟨(List.append_nil before).symm, rfl⟩
    | cons z rest =>
      obtain ⟨rfl, -⟩ := List.cons.inj hrest
      have hquiet := hfront x (by simp)
      rw [hx] at hquiet
      cases hquiet
  · rcases List.append_eq_singleton_iff.mp hrest.symm with ⟨rfl, hcons⟩ | ⟨-, hcons⟩
    · obtain ⟨rfl, -⟩ := List.cons.inj hcons
      exact ⟨List.append_nil front, rfl⟩
    · cases hcons

/-- The exchanges of an operation: a look-up alone, or a commit after what it is based on. -/
theorem Performing.exchanges_eq (h : Performing now o verb xs outcome r') :
    (∃ answer, xs = [⟨asking o, answer⟩]) ∨
      ∃ before blob x, Writing o verb before blob x.1 ∧ xs = before ++ [x] := by
  cases h with
  | observed hobserving => cases hobserving <;> exact .inl ⟨_, rfl⟩
  | notCreated => exact .inr ⟨[], _, _, .creation, rfl⟩
  | created => exact .inr ⟨[], _, _, .creation, rfl⟩
  | updated hupdating =>
    cases hupdating with
    | unfound => exact .inl ⟨_, rfl⟩
    | refused => exact .inr ⟨[_], _, _, .replacement, rfl⟩
    | replaced => exact .inr ⟨[_], _, _, .replacement, rfl⟩
  | deleted hdeleting =>
    cases hdeleting with
    | gone => exact .inl ⟨_, rfl⟩
    | failed => exact .inl ⟨_, rfl⟩
    | refused => exact .inr ⟨[_], _, _, .deletion, rfl⟩
    | deleted => exact .inr ⟨[_], _, _, .deletion, rfl⟩

/-- An operation commits on no other grounds. -/
theorem Performing.writing (h : Performing now o verb (before ++ x :: after) outcome r')
    (hcommit : x.1.isMutation = true) : ∃ blob, Writing o verb before blob x.1 := by
  obtain ⟨answer, heq⟩ | ⟨grounds, blob, y, hwriting, heq⟩ := h.exchanges_eq
  · have hasked : x = ⟨asking o, answer⟩ := by
      rw [← List.mem_singleton, ← heq]
      simp
    rw [hasked] at hcommit
    cases hcommit
  · obtain ⟨rfl, rfl⟩ := eq_of_append_eq_concat heq hcommit hwriting.isMutation_eq_false
    exact ⟨blob, hwriting⟩

/-! ## Commits that land -/

/-- A commit lands in a history from some state on: GitHub accepts it. -/
structure Landing (body : String → Bytes) (v : Files) (history : History Push Files) where
  before : History Push Files
  exchange : Exchange
  /-- The files once it is accepted. -/
  files : Files
  after : History Push Files
  history_eq : history = before ++ ⟨.answered exchange, files⟩ :: after
  accepted : (before.last v).Accepts body exchange.1 files

theorem Files.Accepts.isMutation {commit : Call} {w : Files} (h : v.Accepts body commit w) :
    commit.isMutation = true := by
  unfold Accepts at h
  split at h
  · rfl
  · rfl
  · rfl
  · exact h.elim

/-- A commit whose answer shows that it was accepted lands. -/
theorem nonempty_landing (before : List Exchange) (hfollows : history.Follows (Leads body) v)
    (heq : history.exchanges = before ++ x :: after)
    (haccepts : ∀ u w : Files, u.Answers body x w → u.Accepts body x.1 w) :
    Nonempty (Landing body v history) := by
  obtain ⟨earlier, files, later, heq, -, hanswers⟩ := hfollows.exists_answered before heq
  exact ⟨⟨earlier, x, files, later, heq, haccepts _ _ hanswers⟩⟩

/-- An operation that fails to commit anything fails, unless it is a deletion that finds no file. -/
theorem Performing.landing_or_error (h : Performing now o verb history.exchanges outcome r')
    (hverb : verb ≠ .observe) (hfollows : history.Follows (Leads body) v) :
    Nonempty (Landing body v history) ∨ (∃ failure, outcome = .error failure) ∨
      verb = .delete ∧ outcome = .ok .deleted ∧ ∃ failure, ApiFailure.isNotFound failure = true ∧
        history.exchanges = [⟨asking o, .error failure⟩] := by
  generalize hxs : history.exchanges = xs at h
  cases h with
  | observed hobserving => exact absurd rfl hverb
  | notCreated => exact .inr (.inl ⟨_, rfl⟩)
  | created =>
    exact .inl (nonempty_landing [] hfollows hxs fun _ _ => AnswersCommit.accepts_of_ok)
  | updated hupdating =>
    cases hupdating with
    | unfound => exact .inr (.inl ⟨_, rfl⟩)
    | refused => exact .inr (.inl ⟨_, rfl⟩)
    | replaced =>
      exact .inl (nonempty_landing [_] hfollows hxs fun _ _ => AnswersCommit.accepts_of_ok)
  | deleted hdeleting =>
    cases hdeleting with
    | gone hmissing => exact .inr (.inr ⟨rfl, rfl, _, hmissing, rfl⟩)
    | failed => exact .inr (.inl ⟨_, rfl⟩)
    | refused => exact .inr (.inl ⟨_, rfl⟩)
    | deleted =>
      exact .inl (nonempty_landing [_] hfollows hxs fun _ _ => AnswersCommit.accepts_of_ok)

/-! ## The guard -/

/-- A look-up that is answered with a file names its blob. -/
theorem isSome_sha_of_follows {earlier : History Push Files} {found : Remote.File}
    (hfollows : earlier.Follows (Leads body) v)
    (heq : earlier.exchanges = [⟨asking o, .ok found⟩]) : found.sha.isSome = true := by
  obtain ⟨_, _, _, -, -, hanswers⟩ := hfollows.exists_answered [] heq
  exact (hanswers.2 found rfl).1

/-- Only a creation names no blob. -/
theorem Writing.eq_none_iff {earlier : History Push Files} {blob : Option String} {commit : Call}
    (h : Writing o verb earlier.exchanges blob commit)
    (hfollows : earlier.Follows (Leads body) v) : blob = none ↔ verb = .create := by
  generalize hxs : earlier.exchanges = xs at h
  cases h with
  | creation => simp
  | replacement => simp [Option.isSome_iff_ne_none.mp (isSome_sha_of_follows hfollows hxs)]
  | deletion => simp [Option.isSome_iff_ne_none.mp (isSome_sha_of_follows hfollows hxs)]

/-- A commit that is accepted replaces the blob that it names. -/
theorem Writing.replaces {blob : Option String} {commit : Call} {w : Files}
    (h : Writing o verb before blob commit) (haccepts : v.Accepts body commit w) :
    v (place o) = blob ∧
      if verb = .delete then w (place o) = none
      else w.Holds body (place o) o.desired.content.toUTF8.toList := by
  cases h with
  | creation => exact haccepts
  | replacement => exact haccepts
  | deletion => exact haccepts

theorem Writing.place_eq {blob : Option String} {commit : Call}
    (h : Writing o verb before blob commit) :
    place? commit = some (place o) ∧ ∀ y ∈ before, place? y.1 = some (place o) := by
  cases h <;> simp [asking, place?, place, Desired.commit]

/-- All calls of an operation are about the file of the object. -/
theorem Performing.place_eq (h : Performing now o verb xs outcome r') :
    ∀ x ∈ xs, place? x.1 = some (place o) := by
  obtain ⟨answer, rfl⟩ | ⟨grounds, blob, x, hwriting, rfl⟩ := h.exchanges_eq
  · simp [asking, place?, place]
  · obtain ⟨hcommit, hgrounds⟩ := hwriting.place_eq
    exact List.forall_mem_append.mpr ⟨hgrounds, List.forall_mem_singleton.mpr hcommit⟩

/-- A commit of an operation never overwrites what others have committed, whatever they do between
    the calls. All calls are about the file of the object. If a commit is accepted then the blob at
    its place is the one that the look-up of the operation has returned, and there is no file there
    if the operation is a creation; once it is accepted the desired body is there, or no file if
    the operation is a deletion. If none is accepted then the operation fails, unless it is a
    deletion whose look-up finds no file; this makes no other call. -/
theorem commits_guarded (hverb : verb ≠ .observe)
    (hfollows : history.Follows (Leads body) v)
    (hdone : (client.converse verb now (.content o)).Generates history.exchanges (outcome, r')) :
    (∀ x ∈ history.exchanges, place? x.1 = some (place o)) ∧
    (∀ l : Landing body v history, ∃ blob,
      Writing o verb l.before.exchanges blob l.exchange.1 ∧
      (blob = none ↔ verb = .create) ∧ (l.before.last v) (place o) = blob ∧
      if verb = .delete then l.files (place o) = none
      else l.files.Holds body (place o) o.desired.content.toUTF8.toList) ∧
    (Nonempty (Landing body v history) ∨ (∃ failure, outcome = .error failure) ∨
      verb = .delete ∧ outcome = .ok .deleted ∧ ∃ failure, ApiFailure.isNotFound failure = true ∧
        history.exchanges = [⟨asking o, .error failure⟩]) := by
  have hperforming := performing_of_generates hdone
  refine ⟨hperforming.place_eq, ?_, hperforming.landing_or_error hverb hfollows⟩
  rintro ⟨earlier, x, files, later, rfl, haccepted⟩
  rw [History.exchanges_append] at hperforming
  obtain ⟨hearlier, -⟩ := History.follows_append.mp hfollows
  obtain ⟨blob, hwriting⟩ := hperforming.writing haccepted.isMutation
  exact ⟨blob, hwriting, hwriting.eq_none_iff hearlier, hwriting.replaces haccepted⟩

/-! ## A file of one's own among others -/

/-- Put a blob at a place. -/
def Files.put (v : Files) (p : Place) (blob : String) : Files :=
  fun q => if q = p then some blob else v q

/-- A declared file. -/
def readme : ContentObject where
  metadata := { name := some "readme" }
  spec := { forProvider :=
    { owner := "acme", repository := "demo", path := "README.md", message := "docs"
      content := "new" } }

/-- Where another file of the repository is. -/
def license : Place :=
  ⟨"acme", "demo", "LICENSE", none⟩

/-- Files of which the declared one is out of date. -/
def outdated : Files :=
  fun _ => some "old"

/-- Someone else commits to another file between the calls of an update. -/
def interleaved : History Push Files :=
  [⟨.answered ⟨asking readme, .ok { sha := some "old" }⟩, outdated⟩,
    ⟨.foreign (·.put license "theirs"), outdated.put license "theirs"⟩,
    ⟨.answered ⟨.updateFile "acme" "demo" "README.md" (readme.desired.commit (some "old")),
        .ok { sha := some "new" }⟩,
      (outdated.put license "theirs").put (place readme) "new"⟩]

theorem follows_interleaved :
    interleaved.Follows (Leads fun blob => blob.toUTF8.toList) outdated := by
  refine ⟨⟨rfl, ?_⟩, rfl, .inl ⟨rfl, "new", rfl, rfl⟩, trivial⟩
  rintro found heq
  cases heq
  exact ⟨rfl, rfl⟩

theorem generates_interleaved :
    (client.converse .update "now" (.content readme)).Generates interleaved.exchanges
      (.ok .updated, .content readme) := by
  refine yields_map.mpr ⟨.ok (), rfl, yields_instrumented.mpr ?_⟩
  refine yields_call_bind.mpr ⟨.ok { sha := some "old" }, _, rfl, yields_expect_ok_bind.mpr ?_⟩
  refine yields_call_bind.mpr ⟨.ok { sha := some "new" }, [], rfl, yields_expect_ok_bind.mpr ?_⟩
  exact yields_log.mpr ⟨rfl, rfl, rfl⟩

/-- Here every blob goes by its body. The commit of the update lands, and replaces the blob that
    the look-up before the other commit has returned. -/
theorem commits_guarded_interleaved :
    ∃ l : Landing (fun blob => blob.toUTF8.toList) outdated interleaved,
      Writing readme .update l.before.exchanges (some "old") l.exchange.1 ∧
      (l.before.last outdated) (place readme) = some "old" ∧
      l.files.Holds (fun blob => blob.toUTF8.toList) (place readme) "new".toUTF8.toList := by
  let landing : Landing (fun blob => blob.toUTF8.toList) outdated interleaved :=
    ⟨interleaved.take 2, _, _, [], rfl, ⟨rfl, "new", rfl, rfl⟩⟩
  obtain ⟨-, hlandings, -⟩ :=
    commits_guarded (by decide) follows_interleaved generates_interleaved
  obtain ⟨blob, hwriting, -, hreplaced, hleft⟩ := hlandings landing
  obtain rfl : some "old" = blob := hreplaced
  exact ⟨landing, hwriting, rfl, hleft⟩

end GitHubReconciler.Content
