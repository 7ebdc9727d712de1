-- SUMMARY: The client of declared files (`Content.client`): creating, replacing and deleting a file by commits.
import GitHubReconciler.Content.Body
import GitHubReconciler.Operation.Basic

/-!
# The client of files

A commit that replaces or deletes a file names the blob that was found just before, so that
GitHub can refuse it if the file has changed in between.
-/

namespace GitHubReconciler.Content

open Operation

/-! ## Calls -/

def getFile (d : Desired) : Operation (Call.FromGitHub Remote.File) :=
  call (.getFile d.owner d.repository d.path d.branch)

def createFile (d : Desired) : Operation (Call.FromGitHub Remote.File) :=
  call (.createFile d.owner d.repository d.path (d.commit none))

/-- Replace a blob by the desired file. -/
def updateFile (d : Desired) (sha : Option String) : Operation (Call.FromGitHub Remote.File) :=
  call (.updateFile d.owner d.repository d.path (d.commit sha))

/-- Delete the file that holds a blob. -/
def deleteFile (d : Desired) (sha : Option String) : Operation (Call.FromGitHub Unit) :=
  call (.deleteFile d.owner d.repository d.path (d.commit sha))

/-! ## Contexts of failures -/

def getContext : String := "cannot get repository content"

def createContext : String := "cannot create repository content"

def updateContext : String := "cannot update repository content"

def deleteContext : String := "cannot delete repository content"

/-! ## Operations -/

/-- Compare a file with the desired one, and log what stands out. -/
def compare (d : Desired) (found : Remote.File) : Operation Bool := do
  if !isInlined found then
    log .warn "File body not inlined by GitHub, skipping drift check"
      [("encoding", .text (found.encoding.getD ""))]
  let upToDate := d.isMetBy found
  if !upToDate then
    note (.drifted Kind.content.name)
    log .info "File differs from desired content" []
  return upToDate

/-- Observe a file. -/
def observe (now : String) : Operation Observation := do
  let o ← getContentObject
  match ← getFile o.desired with
  | .error failure =>
      if failure.isNotFound then
        log .debug "File does not exist" []
        return .absent
      else
        throw (.remote getContext failure)
  | .ok found =>
      let upToDate ← compare o.desired found
      set (Resource.content
        ((o.withCondition (.ready .available now)).withObserved (.ofRemote found)))
      return { resourceExists := true, upToDate, filledIn := false }

/-- Create a file. -/
def create (now : String) : Operation Bool := do
  let o ← getContentObject
  let _ ← expect createContext (← createFile o.desired)
  log .info "Created file" [("path", .text o.desired.path)]
  set (Resource.content (o.withCondition (.ready .creating now)))
  return false

/-- Replace a file. -/
def update : Operation Unit := do
  let o ← getContentObject
  let found ← expect getContext (← getFile o.desired)
  let _ ← expect updateContext (← updateFile o.desired found.sha)
  log .info "Updated file" [("path", .text o.desired.path)]

/-- Delete a file, if there still is one. -/
def delete (now : String) : Operation Unit := do
  let o ← getContentObject
  match ← getFile o.desired with
  | .error failure =>
      if failure.isNotFound then
        log .debug "File already deleted" []
      else
        throw (.remote getContext failure)
  | .ok found =>
      expect deleteContext (← deleteFile o.desired found.sha)
      log .info "Deleted file" [("path", .text o.desired.path)]
      set (Resource.content (o.withCondition (.ready .deleting now)))

/-- The client of declared files. -/
def client : Client where
  observe now := instrumented .content .observe (observe now)
  create now := instrumented .content .create (create now)
  update := instrumented .content .update update
  delete now := instrumented .content .delete (delete now)

end GitHubReconciler.Content
