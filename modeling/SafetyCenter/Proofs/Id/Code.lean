import SafetyCenter.Id.Code
import SafetyCenter.Proofs.Wire.Base64Url
import SafetyCenter.Proofs.Wire.Field

set_option autoImplicit false

namespace SafetyCenter

namespace IssueId

/-- The texts in an issue id are short enough to be written. -/
structure Fits (id : IssueId) : Prop where
  source : Field.Fits id.source.name
  issueKey : Field.Fits id.issueKey
  issueType : Field.Fits id.issueType
  session : Field.Fits id.session

theorem reader_eq_ok_iff {id : IssueId} {bs rest : List UInt8} :
    reader bs = .ok (id, rest) ↔ id.Fits ∧ bs = id.bytes ++ rest := by
  unfold reader
  simp only [Field.bind_eq_ok_iff, Prod.exists, Field.text_eq_ok_iff, Field.number_eq_ok_iff]
  constructor
  · intro given
    obtain ⟨source, _, ⟨sourceFits, rfl⟩, user, _, ⟨userFits, rfl⟩, issueKey, _, ⟨keyFits, rfl⟩,
      issueType, _, ⟨typeFits, rfl⟩, session, _, ⟨sessionFits, rfl⟩, same⟩ := given
    cases same
    have user : (UInt32.ofNat user).toNat = user := UInt32.toNat_ofNat_of_lt' userFits
    refine ⟨⟨sourceFits, keyFits, typeFits, sessionFits⟩, ?_⟩
    simp only [bytes, user, List.append_assoc]
  · intro given
    obtain ⟨fits, rfl⟩ := given
    have user : UInt32.ofNat id.user.number.toNat = id.user.number := UInt32.ofNat_toNat
    refine ⟨_, _, ⟨fits.source, ?_⟩, _, _, ⟨id.user.number.toNat_lt, rfl⟩, _, _,
      ⟨fits.issueKey, rfl⟩, _, _, ⟨fits.issueType, rfl⟩, _, rest, ⟨fits.session, rfl⟩, ?_⟩
    · simp only [bytes, List.append_assoc]
    · rw [user]
      rfl

theorem isNamed_iff (id : IssueId) :
    id.isNamed = true ↔ id.source.name ≠ "" ∧ id.issueKey ≠ "" := by
  simp only [isNamed, ne_eq, decide_not, Bool.and_eq_true, Bool.not_eq_true',
    decide_eq_false_iff_not]

end IssueId

namespace ActionId

structure Fits (id : ActionId) : Prop where
  issue : id.issue.Fits
  actionKey : Field.Fits id.actionKey

theorem reader_eq_ok_iff {id : ActionId} {bs rest : List UInt8} :
    reader bs = .ok (id, rest) ↔ id.Fits ∧ bs = id.bytes ++ rest := by
  unfold reader
  simp only [Field.bind_eq_ok_iff, Prod.exists, Field.text_eq_ok_iff, IssueId.reader_eq_ok_iff]
  constructor
  · intro given
    obtain ⟨issue, _, ⟨issueFits, rfl⟩, actionKey, _, ⟨keyFits, rfl⟩, same⟩ := given
    cases same
    exact ⟨⟨issueFits, keyFits⟩, by simp only [bytes, List.append_assoc]⟩
  · intro given
    obtain ⟨fits, rfl⟩ := given
    exact ⟨_, _, ⟨fits.issue, List.append_assoc _ _ _⟩, _, _, ⟨fits.actionKey, rfl⟩, rfl⟩

end ActionId

theorem ofText_eq_encode_iff {text : String} {cs : List Char} :
    Utf8.ofText text = Utf8.encode cs ↔ text = String.ofList cs := by
  constructor
  · intro same
    have chars : text.toList = cs := by
      have read := Utf8.decode_encode 0 text.toList
      rw [← Utf8.ofText, same, Utf8.decode_encode] at read
      exact (Except.ok.inj read).symm
    rw [← chars, String.ofList_toList]
  · intro same
    rw [same, Utf8.ofText, String.toList_ofList]

theorem Base64Url.decode_text_eq_ok_iff {text : String} {bs : List UInt8} :
    Base64Url.decode (Utf8.ofText text) = .ok bs ↔
      text = String.ofList (Base64Url.encode bs) := by
  rw [Base64Url.decode_eq_ok_iff, ofText_eq_encode_iff]

/-- A record is read from a text exactly if the text is the base64 form of the bytes that are
written for it. -/
theorem readIdRecord_eq_ok_iff {α : Type} {read : Field.Reader α} {Fits : α → Prop}
    {bytes : α → List UInt8}
    (canonical : ∀ a bs rest, read bs = .ok (a, rest) ↔ Fits a ∧ bs = bytes a ++ rest)
    (text : String) (a : α) :
    readIdRecord read text = .ok a ↔
      Fits a ∧ text = String.ofList (Base64Url.encode (bytes a)) := by
  unfold readIdRecord
  constructor
  · intro success
    split at success
    · cases success
    · rename_i content decoded
      split at success
      · cases success
      · rename_i a' whole
        cases success
        rw [Field.all_eq_ok_iff, canonical, List.append_nil] at whole
        rw [Base64Url.decode_text_eq_ok_iff, whole.2] at decoded
        exact ⟨whole.1, decoded⟩
  · intro given
    obtain ⟨fits, same⟩ := given
    have decoded := Base64Url.decode_text_eq_ok_iff.mpr same
    have whole : Field.all read (bytes a) = .ok a := by
      rw [Field.all_eq_ok_iff, canonical, List.append_nil]
      exact ⟨fits, rfl⟩
    simp only [decoded, whole]

/-- The text of an id is read back, unless the id can name no issue. -/
theorem IssueId.decode_encode_of_fits {id : IssueId} (fits : id.Fits) :
    IssueId.decode id.encode = if id.isNamed then .ok id else .error .emptyIssuePart := by
  have read : readIdRecord reader id.encode = .ok id :=
    (readIdRecord_eq_ok_iff (fun _ _ _ => reader_eq_ok_iff) id.encode id).mpr ⟨fits, rfl⟩
  simp only [decode, read]

theorem IssueId.decode_eq_ok_iff (text : String) (id : IssueId) :
    IssueId.decode text = .ok id ↔
      id.Fits ∧ id.source.name ≠ "" ∧ id.issueKey ≠ "" ∧ text = id.encode := by
  have record := readIdRecord_eq_ok_iff (fun _ _ _ => IssueId.reader_eq_ok_iff) text id
  unfold IssueId.decode IssueId.encode
  constructor
  · intro success
    split at success
    · cases success
    · rename_i id' read
      split at success
      · rename_i named
        cases success
        obtain ⟨fits, same⟩ := record.mp read
        obtain ⟨source, issueKey⟩ := id.isNamed_iff.mp named
        exact ⟨fits, source, issueKey, same⟩
      · cases success
  · intro given
    obtain ⟨fits, source, issueKey, same⟩ := given
    have named := id.isNamed_iff.mpr ⟨source, issueKey⟩
    simp only [record.mpr ⟨fits, same⟩, named, ↓reduceIte]

theorem ActionId.decode_eq_ok_iff (text : String) (id : ActionId) :
    ActionId.decode text = .ok id ↔
      id.Fits ∧ id.issue.source.name ≠ "" ∧ id.issue.issueKey ≠ "" ∧ id.actionKey ≠ "" ∧
        text = id.encode := by
  have record := readIdRecord_eq_ok_iff (fun _ _ _ => ActionId.reader_eq_ok_iff) text id
  unfold ActionId.decode ActionId.encode
  constructor
  · intro success
    split at success
    · cases success
    · rename_i id' read
      split at success
      · cases success
      · rename_i named
        split at success
        · cases success
        · rename_i actionKey
          cases success
          obtain ⟨fits, same⟩ := record.mp read
          rw [Bool.not_eq_true, Bool.not_eq_false'] at named
          obtain ⟨source, issueKey⟩ := id.issue.isNamed_iff.mp named
          exact ⟨fits, source, issueKey, actionKey, same⟩
  · intro given
    obtain ⟨fits, source, issueKey, actionKey, same⟩ := given
    have named := id.issue.isNamed_iff.mpr ⟨source, issueKey⟩
    simp [record.mpr ⟨fits, same⟩, named, actionKey]

/-- The texts of an action's ids are read back if the source has a name and neither key is empty. -/
theorem ActionId.decode_of_named {id : ActionId} (fits : id.Fits)
    (named : id.issue.source.name ≠ "" ∧ id.issue.issueKey ≠ "" ∧ id.actionKey ≠ "") :
    IssueId.decode id.issue.encode = .ok id.issue ∧ ActionId.decode id.encode = .ok id :=
  ⟨(IssueId.decode_eq_ok_iff _ _).mpr ⟨fits.issue, named.1, named.2.1, rfl⟩,
    (ActionId.decode_eq_ok_iff _ _).mpr ⟨fits, named.1, named.2.1, named.2.2, rfl⟩⟩

/-- A text is accepted as an issue id or as an action id exactly if it is the text of that id, and
the id has a source and its keys. Texts in an id have fewer than `2 ^ 64` bytes, since their lengths
are written in eight bytes; nothing longer is ever read. -/
theorem decode_eq_ok_iff_eq_encode (text : String) :
    (∀ id : IssueId, IssueId.decode text = .ok id ↔
      id.Fits ∧ id.source.name ≠ "" ∧ id.issueKey ≠ "" ∧ text = id.encode) ∧
    (∀ id : ActionId, ActionId.decode text = .ok id ↔
      id.Fits ∧ id.issue.source.name ≠ "" ∧ id.issue.issueKey ≠ "" ∧ id.actionKey ≠ "" ∧
        text = id.encode) :=
  ⟨IssueId.decode_eq_ok_iff text, ActionId.decode_eq_ok_iff text⟩

end SafetyCenter
