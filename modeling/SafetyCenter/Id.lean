namespace SafetyCenter

/-- The name of a safety source, compared exactly. -/
structure SourceId where
  name : String
  deriving Repr, DecidableEq, Inhabited

structure UserId where
  number : UInt32
  deriving Repr, DecidableEq, Inhabited

def UserId.text (u : UserId) : String :=
  toString u.number.toNat

/-- One issue of one report. The session is part of the identity, so a report of a new session has
new issues even where it reuses their keys. -/
structure IssueId where
  source : SourceId
  user : UserId
  issueKey : String
  issueType : String
  session : String
  deriving Repr, DecidableEq, Inhabited

structure ActionId where
  issue : IssueId
  actionKey : String
  deriving Repr, DecidableEq, Inhabited

/-- What one source says for one user: the place where a report is kept. -/
structure Slot where
  source : SourceId
  user : UserId
  deriving Repr, DecidableEq, Inhabited

def IssueId.slot (id : IssueId) : Slot :=
  ⟨id.source, id.user⟩

def ActionId.slot (id : ActionId) : Slot :=
  id.issue.slot

end SafetyCenter
