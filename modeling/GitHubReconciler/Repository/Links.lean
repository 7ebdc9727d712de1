-- SUMMARY: The addresses and counters that GitHub keeps for a repository (`Repository.Links`, `Repository.Counts`).
import GitHubReconciler.Json.Codec

/-!
# Links and counts

GitHub reports many addresses and some counters with a repository, any of which may be missing.
The status keeps them all, with an empty value for what is missing. So both are families over
the type of their values.
-/

namespace GitHubReconciler.Repository

/-! ## Links -/

/-- The addresses of a repository and of the collections that belong to it. -/
structure Links (α : Type) where
  api : α
  archive : α
  assignees : α
  blobs : α
  branches : α
  collaborators : α
  comments : α
  commits : α
  compare : α
  contents : α
  contributors : α
  deployments : α
  downloads : α
  events : α
  forks : α
  gitCommits : α
  gitRefs : α
  gitTags : α
  hooks : α
  issueComment : α
  issueEvents : α
  issues : α
  keys : α
  labels : α
  languages : α
  merges : α
  milestones : α
  notifications : α
  pulls : α
  releases : α
  stargazers : α
  statuses : α
  subscribers : α
  subscription : α
  tags : α
  trees : α
  teams : α
  html : α
  clone : α
  git : α
  mirror : α
  ssh : α
  svn : α
  deriving DecidableEq, Inhabited, Repr

namespace Links

/-- The same value for every link. -/
def const (x : α) : Links α where
  api := x
  archive := x
  assignees := x
  blobs := x
  branches := x
  collaborators := x
  comments := x
  commits := x
  compare := x
  contents := x
  contributors := x
  deployments := x
  downloads := x
  events := x
  forks := x
  gitCommits := x
  gitRefs := x
  gitTags := x
  hooks := x
  issueComment := x
  issueEvents := x
  issues := x
  keys := x
  labels := x
  languages := x
  merges := x
  milestones := x
  notifications := x
  pulls := x
  releases := x
  stargazers := x
  statuses := x
  subscribers := x
  subscription := x
  tags := x
  trees := x
  teams := x
  html := x
  clone := x
  git := x
  mirror := x
  ssh := x
  svn := x

/-- Apply a function to every link. -/
def map (f : α → β) (l : Links α) : Links β where
  api := f l.api
  archive := f l.archive
  assignees := f l.assignees
  blobs := f l.blobs
  branches := f l.branches
  collaborators := f l.collaborators
  comments := f l.comments
  commits := f l.commits
  compare := f l.compare
  contents := f l.contents
  contributors := f l.contributors
  deployments := f l.deployments
  downloads := f l.downloads
  events := f l.events
  forks := f l.forks
  gitCommits := f l.gitCommits
  gitRefs := f l.gitRefs
  gitTags := f l.gitTags
  hooks := f l.hooks
  issueComment := f l.issueComment
  issueEvents := f l.issueEvents
  issues := f l.issues
  keys := f l.keys
  labels := f l.labels
  languages := f l.languages
  merges := f l.merges
  milestones := f l.milestones
  notifications := f l.notifications
  pulls := f l.pulls
  releases := f l.releases
  stargazers := f l.stargazers
  statuses := f l.statuses
  subscribers := f l.subscribers
  subscription := f l.subscription
  tags := f l.tags
  trees := f l.trees
  teams := f l.teams
  html := f l.html
  clone := f l.clone
  git := f l.git
  mirror := f l.mirror
  ssh := f l.ssh
  svn := f l.svn

/-- Links as JSON, given how one of them is described. -/
def recordOf (field : String → (Links α → α) → Record (Links α) α) :
    Record (Links α) (Links α) :=
  Links.mk
    <$> field "url" (·.api)
    <*> field "archiveUrl" (·.archive)
    <*> field "assigneesUrl" (·.assignees)
    <*> field "blobsUrl" (·.blobs)
    <*> field "branchesUrl" (·.branches)
    <*> field "collaboratorsUrl" (·.collaborators)
    <*> field "commentsUrl" (·.comments)
    <*> field "commitsUrl" (·.commits)
    <*> field "compareUrl" (·.compare)
    <*> field "contentsUrl" (·.contents)
    <*> field "contributorsUrl" (·.contributors)
    <*> field "deploymentsUrl" (·.deployments)
    <*> field "downloadsUrl" (·.downloads)
    <*> field "eventsUrl" (·.events)
    <*> field "forksUrl" (·.forks)
    <*> field "gitCommitsUrl" (·.gitCommits)
    <*> field "gitRefsUrl" (·.gitRefs)
    <*> field "gitTagsUrl" (·.gitTags)
    <*> field "hooksUrl" (·.hooks)
    <*> field "issueCommentUrl" (·.issueComment)
    <*> field "issueEventsUrl" (·.issueEvents)
    <*> field "issuesUrl" (·.issues)
    <*> field "keysUrl" (·.keys)
    <*> field "labelsUrl" (·.labels)
    <*> field "languagesUrl" (·.languages)
    <*> field "mergesUrl" (·.merges)
    <*> field "milestonesUrl" (·.milestones)
    <*> field "notificationsUrl" (·.notifications)
    <*> field "pullsUrl" (·.pulls)
    <*> field "releasesUrl" (·.releases)
    <*> field "stargazersUrl" (·.stargazers)
    <*> field "statusesUrl" (·.statuses)
    <*> field "subscribersUrl" (·.subscribers)
    <*> field "subscriptionUrl" (·.subscription)
    <*> field "tagsUrl" (·.tags)
    <*> field "treesUrl" (·.trees)
    <*> field "teamsUrl" (·.teams)
    <*> field "htmlUrl" (·.html)
    <*> field "cloneUrl" (·.clone)
    <*> field "gitUrl" (·.git)
    <*> field "mirrorUrl" (·.mirror)
    <*> field "sshUrl" (·.ssh)
    <*> field "svnUrl" (·.svn)

end Links

/-! ## Counts -/

structure Counts (α : Type) where
  forks : α
  network : α
  openIssues : α
  stargazers : α
  subscribers : α
  watchers : α
  deriving DecidableEq, Inhabited, Repr

namespace Counts

/-- The same value for every counter. -/
def const (x : α) : Counts α where
  forks := x
  network := x
  openIssues := x
  stargazers := x
  subscribers := x
  watchers := x

/-- Apply a function to every counter. -/
def map (f : α → β) (c : Counts α) : Counts β where
  forks := f c.forks
  network := f c.network
  openIssues := f c.openIssues
  stargazers := f c.stargazers
  subscribers := f c.subscribers
  watchers := f c.watchers

/-- Counters as JSON, given how one of them is described. -/
def recordOf (field : String → (Counts α → α) → Record (Counts α) α) :
    Record (Counts α) (Counts α) :=
  Counts.mk
    <$> field "forksCount" (·.forks)
    <*> field "networkCount" (·.network)
    <*> field "openIssuesCount" (·.openIssues)
    <*> field "stargazersCount" (·.stargazers)
    <*> field "subscribersCount" (·.subscribers)
    <*> field "watchersCount" (·.watchers)

end Counts

end GitHubReconciler.Repository
