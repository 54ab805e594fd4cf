import SafetyCenter.Center

namespace SafetyCenter

inductive Operation where
  | start (loaded : Except Error Catalogue)
  | submitReport (source : SourceId) (report : Option Report) (event : Event) (user : UserId)
  | storedReport (source : SourceId) (user : UserId)
  | reportFailure (source : SourceId) (event : Event) (user : UserId)
  | requestRefresh (reason : RefreshReason) (user : UserId)
  | showView (user : UserId)
  | subscribe (observer : Observer) (user : UserId)
  | unsubscribe (observer : Observer) (user : UserId)
  | dismissIssue (issue : String) (user : UserId)
  | executeAction (issue action : String) (user : UserId)
  | showCatalogue
  | overrideCatalogue (catalogue : Catalogue)
  | resetCatalogue
  | forgetReports
  | isActive
  | followToggle (value : Bool)
  | applyInitial (value : Bool)

namespace Operation

/-- The critical section of an operation. -/
def perform (groups : Resolver) (s : Center) : Operation → Outcome
  | .start loaded => s.start loaded
  | .submitReport source report _ user => s.submitReport groups source report user
  | .storedReport source user => s.storedReport source user
  | .reportFailure source event user => s.reportFailure groups source event user
  | .requestRefresh reason user => s.requestRefresh groups reason user
  | .showView user => s.showView groups user
  | .subscribe observer user => s.subscribe groups observer user
  | .unsubscribe observer user => s.unsubscribe observer user
  | .dismissIssue issue user => s.dismissIssue groups issue user
  | .executeAction issue action user => s.executeAction groups issue action user
  | .showCatalogue => s.showCatalogue
  | .overrideCatalogue c => s.overrideCatalogue c
  | .resetCatalogue => s.resetCatalogue
  | .forgetReports => s.forgetReports
  | .isActive => s.ignore (.flag s.isActive)
  | .followToggle value => s.followToggle value
  | .applyInitial value => s.applyInitial value

end Operation

end SafetyCenter
