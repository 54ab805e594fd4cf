import SafetyCenter.Proofs.Center.Interleaving

set_option autoImplicit false

namespace SafetyCenter

def Task.Goes (t t' : Task) : Prop :=
  (∃ refreshId c, t.Makes refreshId c t') ∨ t.Passes t'

/-- Whatever a task does, it comes to the end of its tail, and until then it can always go on. -/
inductive Task.Ends : Task → Prop where
  | returned (t : Task) (ended : t.stages = []) : Ends t
  | goesOn (t : Task) (able : ∃ t', t.Goes t') (always : ∀ t', t.Goes t' → Ends t') : Ends t

def Stage.isRound : Stage → Bool
  | .round _ => true
  | _ => false

def Task.Prompt (t : Task) : Prop :=
  ∀ stage ∈ t.stages, stage.isRound = false

namespace Task

theorem ends_dispatch {group : Option ProfileGroup} {stages : List Stage} {b : Bool}
    (rest : Ends ⟨group, stages, b⟩) (target : String) (user : UserId) (kind : CallKind) :
    Ends ⟨group, .dispatch target user kind :: stages, b⟩ := by
  refine .goesOn _ ⟨_, Or.inl ⟨0, _, .dispatch group target user kind stages b⟩⟩ fun t goes => ?_
  rcases goes with ⟨refreshId, c, makes⟩ | passes
  · cases makes
    exact rest
  · cases passes

/-- The observers take the view in any order, so the induction is on how many are left. -/
theorem ends_deliver {group : Option ProfileGroup} {stages : List Stage} {b : Bool}
    (rest : Ends ⟨group, stages, b⟩) (view : View) (error : Option String)
    (observers : List Observer) : Ends ⟨group, .deliver view error observers :: stages, b⟩ := by
  induction left : observers.length generalizing observers with
  | zero =>
    rw [List.length_eq_zero_iff.mp left]
    refine .goesOn _ ⟨_, Or.inr (.delivered group view error stages b)⟩ fun t goes => ?_
    rcases goes with ⟨refreshId, c, makes⟩ | passes
    · generalize empty : ([] : List Observer) = observers at makes
      cases makes with
      | deliver before after o => simp at empty
    · cases passes
      exact rest
  | succ n ih =>
    obtain ⟨first, others, rfl⟩ := List.exists_cons_of_length_eq_add_one left
    refine .goesOn _ ⟨_, Or.inl ⟨0, _, .deliver group view error [] others first stages b⟩⟩
      fun t goes => ?_
    rcases goes with ⟨refreshId, c, makes⟩ | passes
    · generalize all : first :: others = observers at makes left
      cases makes with
      | deliver before after o =>
        apply ih
        simp only [List.length_append, List.length_cons] at left ⊢
        omega
    · cases passes

theorem ends_of_prompt (group : Option ProfileGroup) (stages : List Stage) (b : Bool)
    (prompt : Prompt ⟨group, stages, b⟩) : Ends ⟨group, stages, b⟩ := by
  induction stages with
  | nil => exact .returned _ rfl
  | cons stage stages ih =>
    have rest := ih fun later member => prompt later (List.mem_cons_of_mem _ member)
    cases stage with
    | deliver view error observers => exact ends_deliver rest view error observers
    | dispatch target user kind => exact ends_dispatch rest target user kind
    | round round =>
      have waits := prompt (.round round) List.mem_cons_self
      cases waits

theorem Prompt.makes {t t' : Task} {refreshId : Nat} {c : Call} (prompt : t.Prompt)
    (makes : t.Makes refreshId c t') : t'.Prompt := by
  cases makes with
  | deliver group view error before after o stages b =>
    intro stage member
    rcases List.mem_cons.mp member with rfl | later
    · rfl
    · exact prompt stage (List.mem_cons_of_mem _ later)
  | dispatch group target user kind stages b =>
    exact fun stage member => prompt stage (List.mem_cons_of_mem _ member)
  | refresh group reason source user targets stages =>
    have waits := prompt _ List.mem_cons_self
    cases waits
  | announce group value source sources stages =>
    have waits := prompt _ List.mem_cons_self
    cases waits

theorem Prompt.passes {t t' : Task} (prompt : t.Prompt) (passes : t.Passes t') : t'.Prompt := by
  cases passes <;> exact fun stage member => prompt stage (List.mem_cons_of_mem _ member)

end Task

def Operation.isAboutIssue : Operation → Bool
  | .dismissIssue _ _ | .executeAction _ _ _ => true
  | _ => false

def Outcome.Prompt (o : Outcome) : Prop :=
  ∀ stage ∈ o.stages, stage.isRound = false

namespace Center

variable {groups : Resolver} {s : Center}

theorem prompt_refuse (s : Center) (e : Error) : (s.refuse e).Prompt := by
  simp [Outcome.Prompt, refuse]

theorem prompt_ignore (s : Center) (reply : Reply) : (s.ignore reply).Prompt := by
  simp [Outcome.Prompt, ignore]

theorem prompt_dismissIssue (s : Center) (text : String) (user : UserId) :
    (s.dismissIssue groups text user).Prompt := by
  unfold dismissIssue
  split
  · exact prompt_refuse s _
  · refine forOwner_cases (prompt_refuse s _) (prompt_refuse s _) fun g _ _ => ?_
    refine ifActive_cases (fun _ => prompt_ignore s _) fun _ => ?_
    dsimp only
    split
    · unfold dismissalDispatch
      split
      · simp [Outcome.Prompt, deliveryFor, Stage.isRound]
      · simp [Outcome.Prompt, deliveryFor, Stage.isRound]
    · exact prompt_ignore _ _

theorem prompt_executeAction (s : Center) (issueText actionText : String) (user : UserId) :
    (s.executeAction groups issueText actionText user).Prompt := by
  unfold executeAction
  split
  · exact prompt_refuse s _
  · split
    · exact prompt_refuse s _
    · split
      · exact prompt_refuse s _
      · refine forOwner_cases (prompt_refuse s _) (prompt_refuse s _) fun g _ _ => ?_
        refine ifActive_cases (fun _ => prompt_ignore s _) fun _ => ?_
        split
        · exact prompt_ignore s _
        · dsimp only
          split
          · simp [Outcome.Prompt, deliveryFor, Stage.isRound]
          · simp [Outcome.Prompt, Stage.isRound]

end Center

/-- What users ask for about an issue has no round in its tail. -/
theorem Operation.prompt_of_isAboutIssue {groups : Resolver} (s : Center) {op : Operation}
    (about : op.isAboutIssue = true) :
    (op.perform groups s).Prompt := by
  cases op with
  | dismissIssue issue user => exact s.prompt_dismissIssue issue user
  | executeAction issue action user => exact s.prompt_executeAction issue action user
  | _ => cases about

end SafetyCenter
