import SafetyCenter.Scenario.Play

/-!
The course of a scenario, whatever the patience. `Goes` is how a thread gets on without the clock,
`Leads` how it gets on in the end, with the clock going on whenever nothing else can. What a thread
leads to is what playing it comes to, given enough patience.
-/

set_option autoImplicit false

namespace SafetyCenter.Scenario

/-- Without the clock a thread gets to where another one stands: polling it, with some more patience,
is polling the other one. -/
def Goes (w : World) (t : Thread) (w' : World) (t' : Thread) : Prop :=
  ∃ k, ∀ n, ∃ m, n ≤ m ∧ poll (n + k) w t = poll m w' t'

/-- Polling a thread ends where another one stands. -/
def Rests (w : World) (t : Thread) (w' : World) (t' : Thread) : Prop :=
  ∃ k, ∀ n, poll (n + k) w t = (w', t')

/-- Nothing can go on before the clock does. -/
def Stuck (w : World) (t : Thread) : Prop :=
  ∀ n, poll n w t = (w, t)

/-- Polling threads one after the other ends where others stand. -/
def AllRest (w : World) (ts : List Thread) (w' : World) (ts' : List Thread) : Prop :=
  ∃ k, ∀ n, inOrder (poll (n + k)) w ts = (w', ts')

section Turns

-- What polling comes to, by what a thread waits for. Proofs rewrite with these and do not unfold `poll`.

variable (n : Nat) (w : World) (frames : List Frame)

theorem poll_asleep_none :
    poll (n + 1) w (.asleep none frames) =
      match Thread.expire? w (.asleep none frames) with
      | some (w', t') => poll n w' t'
      | none => (w, .asleep none frames) := rfl

theorem poll_asleep_some (moment : Nat) :
    poll (n + 1) w (.asleep (some moment) frames) =
      if moment ≤ w.now then poll n w (.ready (.outcome true) frames)
      else
        match Thread.expire? w (.asleep (some moment) frames) with
        | some (w', t') => poll n w' t'
        | none => (w, .asleep (some moment) frames) := rfl

theorem poll_queued (ticket : Nat) :
    poll (n + 1) w (.queued ticket frames) =
      if w.turn.holder = some ticket then poll n w (.ready .granted frames)
      else
        match Thread.expire? w (.queued ticket frames) with
        | some (w', t') => poll n w' t'
        | none => (w, .queued ticket frames) := rfl

theorem poll_joined (children : List Thread) :
    poll (n + 1) w (.joined children frames) =
      match inOrder (poll n) w children with
      | (w', children') =>
        match Thread.tally? children' with
        | some tally => poll n w' (.ready (.tally tally) frames)
        | none =>
          match Thread.expire? w' (.joined children' frames) with
          | some (w'', t'') => poll n w'' t''
          | none => (w', .joined children' frames) := rfl

end Turns

section Moves

variable {w w₁ w₂ : World} {t t₁ t₂ : Thread}

theorem Goes.refl (w : World) (t : Thread) : Goes w t w t :=
  ⟨0, fun n => ⟨n, Nat.le_refl n, rfl⟩⟩

theorem Goes.trans (first : Goes w t w₁ t₁) (second : Goes w₁ t₁ w₂ t₂) : Goes w t w₂ t₂ := by
  obtain ⟨k, first⟩ := first
  obtain ⟨l, second⟩ := second
  refine ⟨l + k, fun n => ?_⟩
  obtain ⟨m, enough, same⟩ := first (n + l)
  obtain ⟨m', enough', same'⟩ := second (m - l)
  refine ⟨m', by omega, ?_⟩
  rw [← Nat.add_assoc, same, ← same', Nat.sub_add_cancel (by omega)]

/-- A single move. -/
theorem Goes.move (step : ∀ n, poll (n + 1) w t = poll n w₁ t₁) : Goes w t w₁ t₁ :=
  ⟨1, fun n => ⟨n, Nat.le_refl n, step n⟩⟩

theorem Goes.rests (first : Goes w t w₁ t₁) (second : Rests w₁ t₁ w₂ t₂) : Rests w t w₂ t₂ := by
  obtain ⟨k, first⟩ := first
  obtain ⟨l, second⟩ := second
  refine ⟨l + k, fun n => ?_⟩
  obtain ⟨m, enough, same⟩ := first (n + l)
  rw [← Nat.add_assoc, same, ← second (m - l), Nat.sub_add_cancel (by omega)]

theorem Stuck.rests (stuck : Stuck w t) : Rests w t w t := ⟨0, fun n => stuck n⟩

/-- Where polling ends and nothing can go on is where a thread gets to. -/
theorem Rests.goes (rests : Rests w t w₁ t₁) (stuck : Stuck w₁ t₁) : Goes w t w₁ t₁ := by
  obtain ⟨k, rests⟩ := rests
  refine ⟨k, fun n => ⟨n, Nat.le_refl n, ?_⟩⟩
  rw [rests, stuck]

theorem stuck_done (w : World) (signal : Signal) : Stuck w (.ready signal []) := by
  intro n
  cases n with
  | zero => rfl
  | succ n => rfl

theorem goes_advance (w : World) (signal : Signal) (frame : Frame) (frames : List Frame) :
    Goes w (.ready signal (frame :: frames)) (Thread.advance w signal (frame :: frames)).1
      (Thread.advance w signal (frame :: frames)).2 :=
  .move fun _ => rfl

theorem goes_woken {moment : Nat} (due : moment ≤ w.now) (frames : List Frame) :
    Goes w (.asleep (some moment) frames) w (.ready (.outcome true) frames) := by
  refine .move fun n => ?_
  rw [poll_asleep_some]
  simp only [due, if_pos]

end Moves

section Order

variable {w w₁ w₂ : World} {t t₁ : Thread} {ts ts₁ : List Thread}

theorem AllRest.nil (w : World) : AllRest w [] w [] := ⟨0, fun _ => rfl⟩

theorem AllRest.cons (first : Rests w t w₁ t₁) (others : AllRest w₁ ts w₂ ts₁) :
    AllRest w (t :: ts) w₂ (t₁ :: ts₁) := by
  obtain ⟨k, first⟩ := first
  obtain ⟨l, others⟩ := others
  refine ⟨k + l, fun n => ?_⟩
  have early : n + (k + l) = n + l + k := by omega
  have late : n + (k + l) = n + k + l := by omega
  rw [inOrder, early, first]
  dsimp only
  rw [← early, late, others]

theorem inOrder_of_stuck (stuck : ∀ t ∈ ts, Stuck w t) (n : Nat) :
    inOrder (poll n) w ts = (w, ts) := by
  induction ts with
  | nil => rfl
  | cons t ts ih =>
    rw [inOrder, stuck t List.mem_cons_self n]
    dsimp only
    rw [ih fun other member => stuck other (List.mem_cons_of_mem _ member)]

end Order

section Time

/-- Nobody is given up exactly as long as no call among the frames is up. -/
theorem splitExpired_eq_none_iff {now : Nat} {frames : List Frame} :
    Thread.splitExpired now frames = none ↔ ∀ d ∈ Thread.deadlines frames, now < d := by
  induction frames with
  | nil => simp [Thread.splitExpired, Thread.deadlines]
  | cons frame frames ih =>
    cases frame with
    | limit c d =>
      by_cases due : d ≤ now
      · have never : ¬ ∀ d' ∈ Thread.deadlines (.limit c d :: frames), now < d' := fun early =>
          Nat.not_lt.mpr due (early d (by simp [Thread.deadlines]))
        simp only [never, iff_false]
        simp [Thread.splitExpired, due]
      · simpa [Thread.splitExpired, Thread.deadlines, due, Nat.lt_of_not_le due] using ih
    | _ => simpa [Thread.splitExpired, Thread.deadlines] using ih

/-- The innermost call is given up with all that it was about to do. -/
theorem splitExpired_append {now d : Nat} (c : Call) (due : d ≤ now) {above : List Frame}
    (none_above : Thread.deadlines above = []) (below : List Frame) :
    Thread.splitExpired now (above ++ .limit c d :: below) =
      some (above, .limit c d :: below) := by
  induction above with
  | nil => simp [Thread.splitExpired, due]
  | cons frame above ih =>
    cases frame with
    | limit c' d' => simp [Thread.deadlines] at none_above
    | _ => simp [Thread.splitExpired, ih none_above]

variable {w : World}

theorem expire?_eq_none {t : Thread} (early : ∀ d ∈ Thread.deadlines t.frames, w.now < d) :
    t.expire? w = none := by
  rw [Thread.expire?, splitExpired_eq_none_iff.mpr early]
  rfl

theorem stuck_asleep {until? : Option Nat} {frames : List Frame}
    (later : ∀ moment, until? = some moment → w.now < moment)
    (early : ∀ d ∈ Thread.deadlines frames, w.now < d) : Stuck w (.asleep until? frames) := by
  intro n
  have patient : Thread.expire? w (.asleep until? frames) = none := expire?_eq_none early
  cases n with
  | zero => rfl
  | succ n =>
    cases until? with
    | none =>
      rw [poll_asleep_none]
      simp only [patient]
    | some moment =>
      rw [poll_asleep_some]
      simp only [Nat.not_le.mpr (later moment rfl), if_neg, not_false_eq_true, patient]

theorem stuck_queued {ticket : Nat} {frames : List Frame} (other : w.turn.holder ≠ some ticket)
    (early : ∀ d ∈ Thread.deadlines frames, w.now < d) : Stuck w (.queued ticket frames) := by
  intro n
  have patient : Thread.expire? w (.queued ticket frames) = none := expire?_eq_none early
  cases n with
  | zero => rfl
  | succ n =>
    rw [poll_queued]
    simp only [other, if_neg, not_false_eq_true, patient]

theorem stuck_joined {children : List Thread} {frames : List Frame}
    (stuck : ∀ t ∈ children, Stuck w t) (unfinished : Thread.tally? children = none)
    (early : ∀ d ∈ Thread.deadlines frames, w.now < d) : Stuck w (.joined children frames) := by
  intro n
  have patient : Thread.expire? w (.joined children frames) = none := expire?_eq_none early
  cases n with
  | zero => rfl
  | succ n =>
    rw [poll_joined]
    simp only [inOrder_of_stuck stuck n, unfinished, patient]

/-- A sleeper whose call is up is woken by that. -/
theorem goes_asleep_expired {until? : Option Nat} {frames : List Frame}
    (later : ∀ moment, until? = some moment → w.now < moment) {w' : World} {t' : Thread}
    (expired : Thread.expire? w (.asleep until? frames) = some (w', t')) :
    Goes w (.asleep until? frames) w' t' := by
  refine .move fun n => ?_
  cases until? with
  | none =>
    rw [poll_asleep_none]
    simp only [expired]
  | some moment =>
    rw [poll_asleep_some]
    simp only [Nat.not_le.mpr (later moment rfl), if_neg, not_false_eq_true, expired]

theorem goes_queued_expired {ticket : Nat} {frames : List Frame}
    (other : w.turn.holder ≠ some ticket) {w' : World} {t' : Thread}
    (expired : Thread.expire? w (.queued ticket frames) = some (w', t')) :
    Goes w (.queued ticket frames) w' t' := by
  refine .move fun n => ?_
  rw [poll_queued]
  simp only [other, if_neg, not_false_eq_true, expired]

variable {w₁ : World} {children children' : List Thread} {frames : List Frame}

theorem goes_joined (rest : AllRest w children w₁ children') {tally : Tally}
    (finished : Thread.tally? children' = some tally) :
    Goes w (.joined children frames) w₁ (.ready (.tally tally) frames) := by
  obtain ⟨k, rest⟩ := rest
  refine ⟨k + 1, fun n => ⟨n + k, Nat.le_add_right n k, ?_⟩⟩
  rw [← Nat.add_assoc, poll_joined]
  simp only [rest, finished]

theorem goes_joined_expired (rest : AllRest w children w₁ children')
    (unfinished : Thread.tally? children' = none) {w' : World} {t' : Thread}
    (expired : Thread.expire? w₁ (.joined children' frames) = some (w', t')) :
    Goes w (.joined children frames) w' t' := by
  obtain ⟨k, rest⟩ := rest
  refine ⟨k + 1, fun n => ⟨n + k, Nat.le_add_right n k, ?_⟩⟩
  rw [← Nat.add_assoc, poll_joined]
  simp only [rest, unfinished, expired]

/-- Those who wait side by side, wait. -/
theorem goes_joined_stuck (rest : AllRest w children w₁ children')
    (stuck : ∀ t ∈ children', Stuck w₁ t) (unfinished : Thread.tally? children' = none)
    (early : ∀ d ∈ Thread.deadlines frames, w₁.now < d) :
    Goes w (.joined children frames) w₁ (.joined children' frames) := by
  refine Rests.goes ?_ (stuck_joined stuck unfinished early)
  have patient : Thread.expire? w₁ (.joined children' frames) = none := expire?_eq_none early
  obtain ⟨k, rest⟩ := rest
  refine ⟨k + 1, fun n => ?_⟩
  rw [← Nat.add_assoc, poll_joined]
  simp only [rest, unfinished, patient]

end Time

/-- What becomes of a thread in the end: it gets on, or the clock goes on to the next moment that the
thread waits for. -/
inductive Leads (P : World → Thread → Prop) : World → Thread → Prop where
  | here {w : World} {t : Thread} (holds : P w t) : Leads P w t
  | goes {w w' : World} {t t' : Thread} (goes : Goes w t w' t') (rest : Leads P w' t') : Leads P w t
  | again {w : World} {t : Thread} (stuck : Stuck w t) (unfinished : ∀ s, t ≠ .ready s [])
      (handed : w.turn.handed = true)
      (rest : Leads P { w with turn := { w.turn with handed := false } } t) : Leads P w t
  | later {w : World} {t : Thread} {moment : Nat} (stuck : Stuck w t)
      (calm : w.turn.handed = false) (next : t.moments.min? = some moment)
      (rest : Leads P { w with now := max w.now moment } t) : Leads P w t

/-- Playing a thread comes to a signal, with enough patience. -/
def Plays (w : World) (t : Thread) (w' : World) (signal : Signal) : Prop :=
  ∃ n, ∀ m ≥ n, settle m w t = (w', some signal)

/-- Playing an operation from the start comes to its answer, with the number of its refresh round. -/
def World.Performs (w : World) (op : Operation) (w' : World) (answer : Except Error Reply)
    (refreshId : Option Nat) : Prop :=
  Plays (Thread.ofStep w (.operation op) []).1 (Thread.ofStep w (.operation op) []).2 w'
    (.result (.answer answer refreshId))

def resume (n : Nat) : World × Thread → World × Option Signal
  | (w, .ready signal []) => (w, some signal)
  | (w, t) =>
    if w.turn.handed then settle n w t
    else
      match t.moments.min? with
      | none => (w, none)
      | some moment => settle n { w with now := max w.now moment } t

theorem settle_succ (n : Nat) (w : World) (t : Thread) :
    settle (n + 1) w t =
      resume n (poll n { w with turn := { w.turn with handed := false } } t) := rfl

theorem resume_unfinished {t : Thread} (unfinished : ∀ s, t ≠ .ready s []) (n : Nat) (w : World) :
    resume n (w, t) =
      if w.turn.handed then settle n w t
      else
        match t.moments.min? with
        | none => (w, none)
        | some moment => settle n { w with now := max w.now moment } t := by
  unfold resume
  split
  · rename_i same
    cases same
    exact absurd rfl (unfinished _)
  · rename_i same
    cases same
    rfl

theorem Leads.trans {P Q : World → Thread → Prop} {w : World} {t : Thread} (leads : Leads P w t)
    (rest : ∀ w' t', P w' t' → Leads Q w' t') : Leads Q w t := by
  induction leads with
  | here holds => exact rest _ _ holds
  | goes goes _ ih => exact .goes goes ih
  | again stuck unfinished handed _ ih => exact .again stuck unfinished handed ih
  | later stuck calm next _ ih => exact .later stuck calm next ih

/-- What a thread leads to is what polling and going on comes to. -/
theorem Leads.resume {P : World → Thread → Prop} (ends : ∀ w t, P w t → ∃ s, t = .ready s [])
    {w : World} {t : Thread} (leads : Leads P w t) :
    ∃ w' s, P w' (.ready s []) ∧ ∃ k, ∀ m n, Scenario.resume (m + k) (poll (n + k) w t) =
      (w', some s) := by
  -- The patience for polling and the patience for going on are counted apart: a move takes from the
  -- first alone, and the second starts the first anew whenever the clock goes on.
  induction leads with
  | @here w t holds =>
    obtain ⟨s, rfl⟩ := ends w t holds
    refine ⟨w, s, holds, 0, fun m n => ?_⟩
    rw [stuck_done w s (n + 0)]
    rfl
  | @goes w w' t t' goes _ ih =>
    obtain ⟨w'', s, holds, k, ih⟩ := ih
    obtain ⟨l, goes⟩ := goes
    refine ⟨w'', s, holds, k + l, fun m n => ?_⟩
    obtain ⟨n', enough, same⟩ := goes (n + k)
    rw [← Nat.add_assoc n, same, ← Nat.sub_add_cancel (Nat.le_trans (Nat.le_add_left k n) enough)]
    have late := ih (m + l) (n' - k)
    rwa [Nat.add_right_comm, Nat.add_assoc] at late
  | @again w t stuck unfinished handed _ ih =>
    obtain ⟨w'', s, holds, k, ih⟩ := ih
    refine ⟨w'', s, holds, k + 1, fun m n => ?_⟩
    rw [stuck, resume_unfinished unfinished, if_pos handed, ← Nat.add_assoc, settle_succ, ih]
  | @later w t moment stuck calm next _ ih =>
    obtain ⟨w'', s, holds, k, ih⟩ := ih
    have unfinished : ∀ s, t ≠ .ready s [] := by
      intro s same
      rw [same] at next
      cases next
    refine ⟨w'', s, holds, k + 1, fun m n => ?_⟩
    rw [stuck, resume_unfinished unfinished, if_neg (by rw [calm]; exact Bool.false_ne_true), next]
    dsimp only
    rw [← Nat.add_assoc, settle_succ]
    have same : ({ w with now := max w.now moment, turn := { w.turn with handed := false } } : World)
        = { w with now := max w.now moment } := by rw [← calm]
    dsimp only at same ⊢
    rw [same, ih]

/-- What a thread leads to is what playing it comes to. -/
theorem Leads.plays {P : World → Thread → Prop} (ends : ∀ w t, P w t → ∃ s, t = .ready s [])
    {w : World} {t : Thread}
    (leads : Leads P { w with turn := { w.turn with handed := false } } t) :
    ∃ w' s, P w' (.ready s []) ∧ Plays w t w' s := by
  obtain ⟨w', s, holds, k, resumes⟩ := leads.resume ends
  refine ⟨w', s, holds, k + 1, fun m enough => ?_⟩
  obtain ⟨n, rfl⟩ := Nat.exists_eq_add_of_le enough
  rw [Nat.add_comm, ← Nat.add_assoc, settle_succ]
  exact resumes n n

end SafetyCenter.Scenario
