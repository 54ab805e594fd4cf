import SafetyCenter.Proofs.Id.Code

/-!
Issue ids and action ids are told apart by their bytes. No id starts with the bytes of another one of
its kind, whatever the texts in it look like, because its lengths say where it ends. The bytes of an
action go on behind those of its issue. So no text is that of an issue and that of an action as well,
and the bytes say which issue an action belongs to.
-/

set_option autoImplicit false

namespace SafetyCenter

/-- Records that are read back whatever follows them are free of prefixes: where two of them start the
same bytes, they are the same, and so is what follows. -/
theorem Field.eq_of_append_eq {α : Type} {read : Field.Reader α} {Fits : α → Prop}
    {bytes : α → List UInt8}
    (canonical : ∀ a bs rest, read bs = .ok (a, rest) ↔ Fits a ∧ bs = bytes a ++ rest)
    {a b : α} {rest rest' : List UInt8} (fits : Fits a) (fits' : Fits b)
    (same : bytes a ++ rest = bytes b ++ rest') : a = b ∧ rest = rest' := by
  have first := (canonical a (bytes a ++ rest) rest).mpr ⟨fits, rfl⟩
  have second := (canonical b (bytes a ++ rest) rest').mpr ⟨fits', same⟩
  rw [first] at second
  cases second
  exact ⟨rfl, rfl⟩

theorem IssueId.eq_of_append_eq {i j : IssueId} {rest rest' : List UInt8} (fits : i.Fits)
    (fits' : j.Fits) (same : i.bytes ++ rest = j.bytes ++ rest') : i = j ∧ rest = rest' :=
  Field.eq_of_append_eq (fun _ _ _ => IssueId.reader_eq_ok_iff) fits fits' same

/-- An action belongs to an issue exactly if its bytes start with those of the issue. -/
theorem ActionId.issue_eq_iff_prefix {a : ActionId} {i : IssueId} (fits : a.Fits) (fits' : i.Fits) :
    a.issue = i ↔ i.bytes <+: a.bytes := by
  constructor
  · rintro rfl
    exact List.prefix_append a.issue.bytes (Field.ofText a.actionKey)
  · rintro ⟨rest, same⟩
    exact (IssueId.eq_of_append_eq fits' fits.issue same).1.symm

/-- A text takes up bytes for its length, even the empty one. -/
theorem Field.ofText_ne_nil (s : String) : Field.ofText s ≠ [] := by
  intro none
  have long := congrArg List.length none
  rw [Field.ofText, List.length_append, Field.ofNat_length, List.length_nil] at long
  omega

/-- The key of an action takes up bytes, so an action never has the bytes of an issue. -/
theorem ActionId.bytes_ne {a : ActionId} {i : IssueId} (fits : a.Fits) (fits' : i.Fits) :
    a.bytes ≠ i.bytes := by
  intro same
  have whole : a.issue.bytes ++ Field.ofText a.actionKey = i.bytes ++ [] := by
    rw [List.append_nil]
    exact same
  exact Field.ofText_ne_nil a.actionKey (IssueId.eq_of_append_eq fits.issue fits' whole).2

/-- No text is accepted both as an issue id and as an action id, and of an action's text and an
issue's text the bytes tell whether the action belongs to the issue: exactly if those of the issue
are the beginning of those of the action. -/
theorem ids_told_apart :
    (∀ (text : String) (i : IssueId) (a : ActionId),
      ¬ (IssueId.decode text = .ok i ∧ ActionId.decode text = .ok a)) ∧
    ∀ (s t : String) (a : ActionId) (i : IssueId),
      ActionId.decode s = .ok a → IssueId.decode t = .ok i →
      ∃ ofAction ofIssue : List UInt8,
        Base64Url.decode (Utf8.ofText s) = .ok ofAction ∧
        Base64Url.decode (Utf8.ofText t) = .ok ofIssue ∧
        (a.issue = i ↔ ofIssue <+: ofAction) := by
  constructor
  · rintro text i a ⟨issue, action⟩
    obtain ⟨issueFits, -, -, spelled⟩ := (IssueId.decode_eq_ok_iff text i).mp issue
    obtain ⟨actionFits, -, -, -, spelled'⟩ := (ActionId.decode_eq_ok_iff text a).mp action
    have ofIssue := Base64Url.decode_text_eq_ok_iff.mpr spelled
    have ofAction := Base64Url.decode_text_eq_ok_iff.mpr spelled'
    rw [ofIssue] at ofAction
    exact ActionId.bytes_ne actionFits issueFits (Except.ok.inj ofAction).symm
  · intro s t a i action issue
    obtain ⟨actionFits, -, -, -, spelled⟩ := (ActionId.decode_eq_ok_iff s a).mp action
    obtain ⟨issueFits, -, -, spelled'⟩ := (IssueId.decode_eq_ok_iff t i).mp issue
    exact ⟨a.bytes, i.bytes, Base64Url.decode_text_eq_ok_iff.mpr spelled,
      Base64Url.decode_text_eq_ok_iff.mpr spelled', ActionId.issue_eq_iff_prefix actionFits issueFits⟩

/-- An action `fix` of the issue `weak`, and an issue whose session goes on with what is written for
the key of that action. -/
theorem ids_told_apart_of_lookalike :
    let weak : IssueId := ⟨⟨"lock"⟩, ⟨1⟩, "weak", "", "first"⟩
    let fix : ActionId := ⟨weak, "fix"⟩
    let lookalike : IssueId := { weak with session := "first\x03\x00\x00\x00\x00\x00\x00\x00fix" }
    ActionId.decode fix.encode = .ok fix ∧ IssueId.decode weak.encode = .ok weak ∧
      IssueId.decode lookalike.encode = .ok lookalike ∧
      (∀ i, IssueId.decode fix.encode ≠ .ok i) ∧
      (∃ ofAction ofIssue : List UInt8, Base64Url.decode (Utf8.ofText fix.encode) = .ok ofAction ∧
        Base64Url.decode (Utf8.ofText weak.encode) = .ok ofIssue ∧ ofIssue <+: ofAction) ∧
      ∃ ofAction ofIssue : List UInt8, Base64Url.decode (Utf8.ofText fix.encode) = .ok ofAction ∧
        Base64Url.decode (Utf8.ofText lookalike.encode) = .ok ofIssue ∧ ¬ ofIssue <+: ofAction := by
  intro weak fix lookalike
  have fits : fix.Fits := ⟨⟨by decide, by decide, by decide, by decide⟩, by decide⟩
  have fits' : lookalike.Fits := ⟨by decide, by decide, by decide, by decide⟩
  obtain ⟨issue, action⟩ := ActionId.decode_of_named fits ⟨by decide, by decide, by decide⟩
  have other : IssueId.decode lookalike.encode = .ok lookalike :=
    (IssueId.decode_eq_ok_iff _ _).mpr ⟨fits', by decide, by decide, rfl⟩
  obtain ⟨long, short, readLong, readShort, own⟩ := ids_told_apart.2 _ _ fix weak action issue
  obtain ⟨long', short', readLong', readShort', foreign⟩ :=
    ids_told_apart.2 _ _ fix lookalike action other
  exact ⟨action, issue, other, fun i read => ids_told_apart.1 _ i fix ⟨read, action⟩,
    ⟨long, short, readLong, readShort, own.mp rfl⟩,
    ⟨long', short', readLong', readShort', fun start => absurd (foreign.mpr start) (by decide)⟩⟩

end SafetyCenter
