import SafetyCenter.Id
import SafetyCenter.Wire.Base64Url
import SafetyCenter.Wire.Field

namespace SafetyCenter

/-- Why a text is no id. -/
inductive IdFault where
  /-- the text is not base64 -/
  | base64 (fault : Base64Url.Fault)
  /-- its bytes are not the fields of an id -/
  | field (fault : Field.Fault)
  /-- the source or the issue key is empty -/
  | emptyIssuePart
  /-- the action key is empty -/
  | emptyActionKey
  deriving Repr, DecidableEq

def IdFault.message : IdFault → String
  | .base64 fault => fault.message
  | .field fault => fault.message
  | .emptyIssuePart => "source id and issue key must not be empty"
  | .emptyActionKey => "action key must not be empty"

/-- Reads a text as base64 of one record. -/
def readIdRecord {α : Type} (read : Field.Reader α) (text : String) : Except IdFault α :=
  match Base64Url.decode (Utf8.ofText text) with
  | .error fault => .error (.base64 fault)
  | .ok bytes =>
    match Field.all read bytes with
    | .error fault => .error (.field fault)
    | .ok a => .ok a

namespace IssueId

def bytes (id : IssueId) : List UInt8 :=
  Field.ofText id.source.name ++ Field.ofNat 4 id.user.number.toNat ++ Field.ofText id.issueKey ++
    Field.ofText id.issueType ++ Field.ofText id.session

def reader : Field.Reader IssueId := fun bs => do
  let (source, bs) ← Field.text bs
  let (user, bs) ← Field.number 4 bs
  let (issueKey, bs) ← Field.text bs
  let (issueType, bs) ← Field.text bs
  let (session, bs) ← Field.text bs
  return (⟨⟨source⟩, ⟨UInt32.ofNat user⟩, issueKey, issueType, session⟩, bs)

/-- The text handed to callers. -/
def encode (id : IssueId) : String :=
  String.ofList (Base64Url.encode id.bytes)

/-- An issue id that can name an issue: its source and its key are not empty. -/
def isNamed (id : IssueId) : Bool :=
  id.source.name ≠ "" && id.issueKey ≠ ""

/-- The issue id whose text this is. -/
def decode (text : String) : Except IdFault IssueId :=
  match readIdRecord reader text with
  | .error fault => .error fault
  | .ok id => if id.isNamed then .ok id else .error .emptyIssuePart

end IssueId

namespace ActionId

/-- The fields of an action id, as bytes: those of its issue, then its key. -/
def bytes (id : ActionId) : List UInt8 :=
  id.issue.bytes ++ Field.ofText id.actionKey

def reader : Field.Reader ActionId := fun bs => do
  let (issue, bs) ← IssueId.reader bs
  let (actionKey, bs) ← Field.text bs
  return (⟨issue, actionKey⟩, bs)

def encode (id : ActionId) : String :=
  String.ofList (Base64Url.encode id.bytes)

def decode (text : String) : Except IdFault ActionId :=
  match readIdRecord reader text with
  | .error fault => .error fault
  | .ok id =>
    if !id.issue.isNamed then .error .emptyIssuePart
    else if id.actionKey = "" then .error .emptyActionKey
    else .ok id

end ActionId

end SafetyCenter
