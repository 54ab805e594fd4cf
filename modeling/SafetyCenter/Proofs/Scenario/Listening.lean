import Mathlib.Data.List.Forall2
import SafetyCenter.Proofs.Scenario.Conduct
import SafetyCenter.Proofs.Scenario.Course

/-!
Calls that are answered without steps. Nothing but time passes while somebody waits for the answer,
and the wait ends: with the answer, when the call is up, or when a call further down is given up. How
a call ends is up to its own receiver and its own limit.
-/

set_option autoImplicit false

namespace SafetyCenter

def Stage.showings : Stage → List Call
  | .deliver view error observers => observers.map fun o => .deliver o view error
  | .dispatch .. => []
  | .round _ => []

def Tally.of (outcomes : List Bool) : Tally :=
  ⟨outcomes.count true, outcomes.count false⟩

namespace Tally

/-- A call may be counted before the others or as the first of them. -/
theorem count_add_of (t : Tally) (ok : Bool) (outcomes : List Bool) :
    (t.count ok).add (of outcomes) = t.add (of (ok :: outcomes)) := by
  cases ok with
  | true => simp [count, add, of, Nat.add_assoc, Nat.add_comm 1]
  | false => simp [count, add, of, Nat.add_assoc, Nat.add_comm 1]

theorem empty_add (t : Tally) : ({} : Tally).add t = t := by
  simp [add]

end Tally

namespace Scenario

/-- Whether a call that its receiver ends like this succeeds within a time. -/
def Manner.succeeds (limit : Nat) : Manner → Bool
  | .succeed => true
  | .fail => false
  | .hang => false
  | .delay ms => ms ≤ limit

/-- Whether a call succeeds if its receiver takes no steps and ends it in the given manner. -/
def World.inTime (w : World) (manner : Call → Manner) (c : Call) : Bool :=
  (manner c).succeeds (c.limit w.settings)

def World.succeeds (w : World) : Call → Bool :=
  w.inTime w.conduct.manner

/-- The calls that were made, the earliest first. -/
def World.calls (w : World) : List Call :=
  w.events.reverse.filterMap fun
    | .call c => some c
    | .nested .. => none

/-- Calls were made and answered, and nothing else happened but that time passed and failures were
counted. -/
structure World.Made (w : World) (cs : List Call) (w' : World) : Prop where
  center : w'.center = { w.center with metrics := w'.center.metrics }
  settings : w'.settings = w.settings
  groups : w'.groups = w.groups
  turn : w'.turn = w.turn
  calls : w'.calls = w.calls ++ cs
  conduct : w'.conduct = w.conduct

namespace World

variable {w w' w'' : World} {cs cs' : List Call}

theorem calls_see_call (w : World) (c : Call) : (w.see (.call c)).calls = w.calls ++ [c] := by
  simp [calls, see]

theorem calls_see_nested (w : World) (step : Step) (result : Result) :
    (w.see (.nested step result)).calls = w.calls := by
  simp [calls, see]

theorem calls_startCall (w : World) (c : Call) : (w.startCall c).1.calls = w.calls ++ [c] := by
  have frame := w.startCall_fst c
  generalize (w.startCall c).1 = called at *
  rw [calls, frame]
  exact w.calls_see_call c

/-- Calls change nothing about which others succeed. -/
theorem Made.succeeds (made : w.Made cs w') : w'.succeeds = w.succeeds := by
  funext c
  simp only [World.succeeds, World.inTime, made.conduct, made.settings]

theorem Made.refl (w : World) : w.Made [] w :=
  ⟨rfl, rfl, rfl, rfl, (List.append_nil _).symm, rfl⟩

theorem Made.trans (first : w.Made cs w') (second : w'.Made cs' w'') :
    w.Made (cs ++ cs') w'' where
  center := by rw [second.center, first.center]
  settings := second.settings.trans first.settings
  groups := second.groups.trans first.groups
  turn := second.turn.trans first.turn
  calls := by rw [second.calls, first.calls, List.append_assoc]
  conduct := second.conduct.trans first.conduct

/-- Nothing was called before. -/
theorem Made.after (first : w.Made [] w') (second : w'.Made cs w'') : w.Made cs w'' :=
  first.trans second

/-- Nothing is called later. -/
theorem Made.before (first : w.Made cs w') (second : w'.Made [] w'') : w.Made cs w'' := by
  simpa only [List.append_nil] using first.trans second

theorem made_count (w : World) (a : Activity) : w.Made [] (w.count a) :=
  ⟨rfl, rfl, rfl, rfl, (List.append_nil _).symm, rfl⟩

theorem made_now (w : World) (now : Nat) : w.Made [] { w with now } :=
  ⟨rfl, rfl, rfl, rfl, (List.append_nil _).symm, rfl⟩

theorem made_startCall {c : Call} (quiet : w.conduct.steps c = []) :
    w.Made [c] (w.startCall c).1 := by
  have conduct : (w.startCall c).1.conduct = w.conduct :=
    (w.startCall_conduct c).2.2.trans (w.wearing_conduct.after_eq_self quiet)
  rw [startCall_fst] at conduct ⊢
  exact ⟨rfl, rfl, rfl, rfl, calls_see_call w c, conduct⟩

end World

/-- A call that was answered is counted by whoever made it. -/
theorem goes_answered (w : World) (ok : Bool) (c : Call) (deadline : Nat) (cs : List Call)
    (tally : Tally) (frames : List Frame) :
    ∃ w', Goes w (.ready (.outcome ok) (.limit c deadline :: .calls cs tally :: frames)) w'
        (.ready .go (.calls cs (tally.count ok) :: frames)) ∧
      w.Made [] w' ∧ w'.now = w.now := by
  refine ⟨if ok then w else w.count c.failure,
    (goes_advance w _ _ _).trans (goes_advance _ _ _ _), ?_, ?_⟩
  · cases ok with
    | true => exact .refl w
    | false => exact w.made_count c.failure
  · cases ok with
    | true => rfl
    | false => rfl

/-- A sleeper sleeps until it is woken or a call among its frames is up. -/
theorem leads_asleep {P : World → Thread → Prop} {w : World} {until? : Option Nat}
    {frames : List Frame} (calm : w.turn.handed = false)
    (bounded : Thread.deadlines frames ≠ [])
    (woken : ∀ now moment, until? = some moment → moment ≤ now →
      (∀ deadline ∈ Thread.deadlines frames, w.now ≤ deadline → now ≤ deadline) →
      Leads P { w with now } (.ready (.outcome true) frames))
    (givenUp : ∀ now above below, (∀ moment, until? = some moment → now < moment) →
      Thread.splitExpired now frames = some (above, below) →
      Leads P { w with now, turn := Thread.dropFrames w.turn above }
        (.ready (.outcome false) below)) :
    Leads P w (.asleep until? frames) := by
  -- Either something is due now, or it is when the clock has gone on to the next moment.
  have due : ∀ now, (∃ moment, until? = some moment ∧ moment ≤ now) ∨
      (∃ deadline ∈ Thread.deadlines frames, deadline ≤ now) →
      (∀ deadline ∈ Thread.deadlines frames, w.now ≤ deadline → now ≤ deadline) →
      Leads P { w with now } (.asleep until? frames) := by
    intro now due prompt
    by_cases wakes : ∃ moment, until? = some moment ∧ moment ≤ now
    · obtain ⟨moment, rfl, past⟩ := wakes
      exact .goes (goes_woken past frames) (woken now moment rfl past prompt)
    · obtain ⟨deadline, among, past⟩ := due.resolve_left wakes
      have later : ∀ moment, until? = some moment → now < moment := fun moment same =>
        Nat.lt_of_not_le fun past => wakes ⟨moment, same, past⟩
      cases expired : Thread.splitExpired now frames with
      | none =>
        exact absurd (splitExpired_eq_none_iff.mp expired deadline among) (Nat.not_lt.mpr past)
      | some split =>
        obtain ⟨above, below⟩ := split
        refine .goes (goes_asleep_expired later ?_) (givenUp now above below later expired)
        rw [Thread.expire?, Thread.frames, expired]
        rfl
  by_cases now : (∃ moment, until? = some moment ∧ moment ≤ w.now) ∨
      ∃ deadline ∈ Thread.deadlines frames, deadline ≤ w.now
  · exact due w.now now fun _ _ prompt => prompt
  · have later : ∀ moment, until? = some moment → w.now < moment := fun moment same =>
      Nat.lt_of_not_le fun past => now (.inl ⟨moment, same, past⟩)
    have early : ∀ deadline ∈ Thread.deadlines frames, w.now < deadline := fun deadline among =>
      Nat.lt_of_not_le fun past => now (.inr ⟨deadline, among, past⟩)
    have some_moment : (Thread.moments (.asleep until? frames)).min? ≠ none := by
      simp [Thread.moments, bounded]
    obtain ⟨moment, next⟩ := Option.ne_none_iff_exists'.mp some_moment
    refine .later (stuck_asleep later early) calm next (due _ ?_ fun deadline among ahead => ?_)
    · have among := List.min?_mem next
      rw [Thread.moments, List.mem_append, Option.mem_toList] at among
      rcases among with wakes | up
      · exact .inl ⟨moment, wakes, Nat.le_max_right ..⟩
      · exact .inr ⟨moment, up, Nat.le_max_right ..⟩
    · have first := (List.min?_eq_some_iff.mp next).2 deadline (List.mem_append_right _ among)
      exact Nat.max_le.mpr ⟨ahead, first⟩

/-- A call that was answered, or is still to be, by somebody who takes no steps, and whether it
succeeds. -/
inductive Thread.Attends (now bound : Nat) : Bool → Thread → Prop
  | done (ok : Bool) : Attends now bound ok (.ready (.tally (({} : Tally).count ok)) [])
  | waits {until? : Option Nat} {deadline : Nat} (c : Call)
      (later : ∀ moment, until? = some moment → now < moment) (early : now < deadline)
      (soon : deadline ≤ bound) :
      Attends now bound (until?.any (· ≤ deadline))
        (.asleep until? [.limit c deadline, .calls [] {}])

abbrev Thread.AllAttend (now bound : Nat) (outcomes : List Bool) (ts : List Thread) : Prop :=
  List.Forall₂ (Thread.Attends now bound) outcomes ts

namespace Thread

variable {w : World} {t : Thread} {ts : List Thread} {now bound : Nat} {outcomes : List Bool}

theorem Attends.stuck {ok : Bool} (attends : Attends w.now bound ok t) : Stuck w t := by
  cases attends with
  | done ok => exact stuck_done w _
  | @waits until? deadline c later early soon =>
    refine stuck_asleep later fun d among => ?_
    have same : d = deadline := by simpa [deadlines] using among
    rwa [same]

theorem AllAttend.stuck (attend : AllAttend w.now bound outcomes ts) : ∀ t ∈ ts, Stuck w t := by
  induction attend with
  | nil => exact List.forall_mem_nil _
  | cons attends _ ih => exact List.forall_mem_cons.mpr ⟨attends.stuck, ih⟩

/-- Whoever was answered is done. -/
theorem attends_answered (w : World) (ok : Bool) (c : Call) (deadline bound : Nat) :
    ∃ w' t', Rests w (.ready (.outcome ok) [.limit c deadline, .calls [] {}]) w' t' ∧
      w.Made [] w' ∧ w'.now = w.now ∧ Attends w.now bound ok t' := by
  obtain ⟨w', goes, made, now⟩ := goes_answered w ok c deadline [] {} []
  exact ⟨w', _, (goes.trans (goes_advance _ _ _ _)).rests (stuck_done w' _).rests, made, now,
    .done _⟩

/-- Whoever waits is answered, is given up or goes on waiting. -/
theorem attends_asleep (w : World) (until? : Option Nat) (c : Call) {deadline bound : Nat}
    (prompt : w.now ≤ deadline) (soon : deadline ≤ bound) :
    ∃ w' t', Rests w (.asleep until? [.limit c deadline, .calls [] {}]) w' t' ∧
      w.Made [] w' ∧ w'.now = w.now ∧ Attends w.now bound (until?.any (· ≤ deadline)) t' := by
  by_cases wakes : ∃ moment, until? = some moment ∧ moment ≤ w.now
  · obtain ⟨moment, rfl, past⟩ := wakes
    have inTime : (some moment).any (· ≤ deadline) = true :=
      decide_eq_true (Nat.le_trans past prompt)
    obtain ⟨w', t', rests, attends⟩ := attends_answered w true c deadline bound
    rw [inTime]
    exact ⟨w', t', (goes_woken past _).rests rests, attends⟩
  · have later : ∀ moment, until? = some moment → w.now < moment := fun moment same =>
      Nat.lt_of_not_le fun past => wakes ⟨moment, same, past⟩
    by_cases up : deadline ≤ w.now
    · have tooLate : until?.any (· ≤ deadline) = false := by
        rw [Option.any_eq_false_iff_get]
        intro given
        have future := later _ (Option.some_get given).symm
        exact decide_eq_false (Nat.not_le.mpr (Nat.lt_of_le_of_lt up future))
      obtain ⟨w', t', rests, attends⟩ := attends_answered w false c deadline bound
      rw [tooLate]
      refine ⟨w', t', (goes_asleep_expired later ?_).rests rests, attends⟩
      rw [expire?, frames, ← List.nil_append [Frame.limit c deadline, _],
        splitExpired_append c up rfl]
      rfl
    · have waits : Attends w.now bound (until?.any (· ≤ deadline))
          (.asleep until? [.limit c deadline, .calls [] {}]) :=
        .waits c later (Nat.lt_of_not_le up) soon
      exact ⟨w, _, waits.stuck.rests, .refl w, rfl, waits⟩

/-- A call that is answered without steps is made and waited for. -/
theorem attends_ofCall {c : Call} (quiet : w.conduct.steps c = [])
    (soon : w.now + c.limit w.settings ≤ bound) :
    ∃ w' t', Rests w (ofCall c) w' t' ∧ w.Made [c] w' ∧ w'.now = w.now ∧
      Attends w.now bound (w.succeeds c) t' := by
  have started := goes_advance w .go (.calls [c] {}) []
  have idle : (w.startCall c).2.steps = [] := (w.startCall_conduct c).1.trans quiet
  have same : (w.startCall c).1.now = w.now ∧ (w.startCall c).1.settings = w.settings := by
    rw [World.startCall_fst]
    exact ⟨rfl, rfl⟩
  simp only [advance, ofStartedCall, idle] at started
  have ended := started.trans (goes_advance _ _ _ _)
  have made := World.made_startCall quiet
  have manner : (w.startCall c).2.manner = w.conduct.manner c := (w.startCall_conduct c).2.1
  generalize (w.startCall c).1 = w₁ at *
  obtain ⟨now, settings⟩ := same
  rw [settings, now, manner] at ended
  have prompt : w₁.now ≤ w.now + c.limit w.settings := by
    rw [now]
    exact Nat.le_add_right ..
  have rests : ∃ w' t', Rests w₁ (ofManner w₁ (w.conduct.manner c)
      [.limit c (w.now + c.limit w.settings), .calls [] {}]) w' t' ∧
      w₁.Made [] w' ∧ w'.now = w₁.now ∧ Attends w₁.now bound (w.succeeds c) t' := by
    unfold World.succeeds World.inTime
    cases w.conduct.manner c with
    | succeed => exact attends_answered ..
    | fail => exact attends_answered ..
    | hang => exact attends_asleep w₁ none c prompt soon
    | delay ms =>
      have inTime : (some (w₁.now + ms)).any (· ≤ w.now + c.limit w.settings) =
          (Manner.delay ms).succeeds (c.limit w.settings) := by
        simp [Manner.succeeds, now]
      rw [← inTime]
      exact attends_asleep w₁ (some (w₁.now + ms)) c prompt soon
  obtain ⟨w', t', rests, later, now', attends⟩ := rests
  exact ⟨w', t', ended.rests rests, made.before later, now'.trans now, now ▸ attends⟩

theorem attends_all_ofCall {cs : List Call} (quiet : ∀ c ∈ cs, w.conduct.steps c = [])
    (soon : ∀ c ∈ cs, w.now + c.limit w.settings ≤ bound) :
    ∃ w' ts', AllRest w (cs.map ofCall) w' ts' ∧ w.Made cs w' ∧ w'.now = w.now ∧
      AllAttend w.now bound (cs.map w.succeeds) ts' := by
  induction cs generalizing w with
  | nil => exact ⟨w, [], .nil w, .refl w, rfl, .nil⟩
  | cons c cs ih =>
    obtain ⟨w₁, t', rests, made, now, attends⟩ :=
      attends_ofCall (quiet c List.mem_cons_self) (soon c List.mem_cons_self)
    obtain ⟨w₂, ts', others, made', now', attend⟩ := ih (w := w₁)
      (fun c' member => by rw [made.conduct]; exact quiet c' (List.mem_cons_of_mem c member))
      (fun c' member => by
        rw [now, made.settings]
        exact soon c' (List.mem_cons_of_mem c member))
    rw [now, made.succeeds] at attend
    exact ⟨w₂, t' :: ts', .cons rests others, made.trans made', now'.trans now,
      .cons attends attend⟩

/-- When the clock has gone on, everybody who is still waiting gets another turn. -/
theorem attends_all (attend : AllAttend now bound outcomes ts)
    (prompt : ∀ moment ∈ momentsAll ts, w.now ≤ moment) :
    ∃ w' ts', AllRest w ts w' ts' ∧ w.Made [] w' ∧ w'.now = w.now ∧
      AllAttend w.now bound outcomes ts' := by
  induction attend generalizing w with
  | nil => exact ⟨w, [], .nil w, .refl w, rfl, .nil⟩
  | @cons ok t outcomes ts attends _ ih =>
    rw [momentsAll, List.forall_mem_append] at prompt
    have turn : ∃ w' t', Rests w t w' t' ∧ w.Made [] w' ∧ w'.now = w.now ∧
        Attends w.now bound ok t' := by
      cases attends with
      | done ok => exact ⟨w, _, (stuck_done w _).rests, .refl w, rfl, .done ok⟩
      | @waits until? deadline c later early soon =>
        exact attends_asleep w _ c (prompt.1 deadline (by simp [moments, deadlines])) soon
    obtain ⟨w₁, t', rests, made, now₁, attends'⟩ := turn
    obtain ⟨w₂, ts', others, made', now₂, attend'⟩ := ih (w := w₁) (by rw [now₁]; exact prompt.2)
    rw [now₁] at attend'
    exact ⟨w₂, t' :: ts', .cons rests others, made.after made', now₂.trans now₁,
      .cons attends' attend'⟩

/-- When all are done, each was counted as it went. -/
theorem tally_of_attend (attend : AllAttend now bound outcomes ts) {tally : Tally}
    (finished : tally? ts = some tally) : tally = .of outcomes := by
  induction attend generalizing tally with
  | nil =>
    cases finished
    rfl
  | cons attends _ ih =>
    cases attends with
    | done ok =>
      obtain ⟨others, rest, rfl⟩ := Option.map_eq_some_iff.mp finished
      rw [ih rest, Tally.count_add_of, Tally.empty_add]
    | waits => cases finished

/-- As long as not all are done, somebody waits for a moment that is not past the bound. -/
theorem exists_moment_of_unfinished (attend : AllAttend now bound outcomes ts)
    (unfinished : tally? ts = none) : ∃ moment ∈ momentsAll ts, moment ≤ bound := by
  induction attend with
  | nil => cases unfinished
  | @cons ok t outcomes ts attends _ ih =>
    have others : tally? ts = none → ∃ moment ∈ momentsAll (t :: ts), moment ≤ bound := by
      intro unfinished
      obtain ⟨moment, member, soon⟩ := ih unfinished
      exact ⟨moment, by simp [momentsAll, member], soon⟩
    cases attends with
    | done ok => exact others (by simpa [tally?] using unfinished)
    | @waits until? deadline c later early soon =>
      exact ⟨deadline, by simp [momentsAll, moments, deadlines], soon⟩

/-- Whatever somebody waits for is still to come. -/
theorem lt_of_mem_momentsAll (attend : AllAttend now bound outcomes ts) {moment : Nat}
    (member : moment ∈ momentsAll ts) : now < moment := by
  induction attend with
  | nil => cases member
  | cons attends _ ih =>
    rw [momentsAll, List.mem_append] at member
    rcases member with first | others
    · cases attends with
      | done ok => cases first
      | @waits until? deadline c later early soon =>
        have either : until? = some moment ∨ moment = deadline := by
          simpa [moments, deadlines] using first
        rcases either with wakes | rfl
        · exact later moment wakes
        · exact early
    · exact ih others

/-- While not all are done and no call further down is up, the next moment that somebody waits for is
to come, and not past the bound. -/
theorem exists_next_moment {frames : List Frame} (attend : AllAttend now bound outcomes ts)
    (unfinished : tally? ts = none) (early : ∀ d ∈ deadlines frames, now < d) :
    ∃ next, (moments (.joined ts frames)).min? = some next ∧ now < next ∧ next ≤ bound ∧
      ∀ moment ∈ momentsAll ts, next ≤ moment := by
  obtain ⟨moment, awaited, soon⟩ := exists_moment_of_unfinished attend unfinished
  have among : moment ∈ moments (.joined ts frames) := by
    rw [moments, List.mem_append]
    exact .inl awaited
  have some_moment : (moments (.joined ts frames)).min? ≠ none := by
    rw [Ne, List.min?_eq_none_iff]
    exact List.ne_nil_of_mem among
  obtain ⟨next, least⟩ := Option.ne_none_iff_exists'.mp some_moment
  have first := (List.min?_eq_some_iff.mp least).2
  refine ⟨next, least, ?_, Nat.le_trans (first moment among) soon, fun moment awaited =>
    first moment (List.mem_append_left _ awaited)⟩
  have member := List.min?_mem least
  rw [moments, List.mem_append] at member
  exact member.elim (lt_of_mem_momentsAll attend) (early next)

/-- Nobody who waits for such an answer holds the right to broadcast. -/
theorem dropAll_of_attends (attend : AllAttend now bound outcomes ts) (turn : Turn) :
    dropAll turn ts = turn := by
  induction attend with
  | nil => rfl
  | @cons ok t outcomes ts attends _ ih =>
    have alone : drop turn t = turn := by
      cases attends with
      | done ok => rfl
      | waits c later early soon => rfl
    rw [dropAll, alone, ih]

end Thread

open Thread in
/-- Calls that are made side by side and answered without steps come to an end, unless a call
further down is given up. -/
theorem leads_joined {P : World → Thread → Prop} {w : World} {children : List Thread}
    {frames : List Frame} {bound : Nat} (calm : w.turn.handed = false) {w₁ : World}
    {children₁ : List Thread} {cs : List Call} {outcomes : List Bool}
    (rest : AllRest w children w₁ children₁) (made : w.Made cs w₁)
    (attend : AllAttend w₁.now bound outcomes children₁)
    (finish : ∀ w', w.Made cs w' → Leads P w' (.ready (.tally (.of outcomes)) frames))
    (giveUp : ∀ w' above below, w.Made cs w' → splitExpired w'.now frames = some (above, below) →
      Leads P { w' with turn := dropFrames w'.turn above } (.ready (.outcome false) below)) :
    Leads P w (.joined children frames) := by
  -- Each time the clock goes on it comes closer to the bound, at which all calls are up.
  induction left : bound - w₁.now using Nat.strongRecOn generalizing w children w₁ children₁ cs with
  | ind left₀ ih =>
    cases tally : tally? children₁ with
    | some all =>
      rw [tally_of_attend attend tally] at tally
      exact .goes (goes_joined rest tally) (finish w₁ made)
    | none =>
      cases expired : splitExpired w₁.now frames with
      | some split =>
        obtain ⟨above, below⟩ := split
        refine .goes (goes_joined_expired rest tally ?_) (giveUp w₁ above below made expired)
        rw [expire?, Thread.frames, expired]
        simp only [Option.map_some, withFrames, drop, dropAll_of_attends attend]
      | none =>
        have early := splitExpired_eq_none_iff.mp expired
        obtain ⟨next, least, future, near, first⟩ := exists_next_moment attend tally early
        have calm₁ : w₁.turn.handed = false := by rw [made.turn]; exact calm
        refine .goes (goes_joined_stuck rest attend.stuck tally early)
          (.later (stuck_joined attend.stuck tally early) calm₁ least ?_)
        obtain ⟨w₂, children₂, rest₂, made₂, now₂, attend₂⟩ :=
          attends_all (w := { w₁ with now := max w₁.now next }) attend fun moment awaited =>
            Nat.max_le.mpr ⟨Nat.le_of_lt (lt_of_mem_momentsAll attend awaited), first moment awaited⟩
        have since : w.Made cs { w₁ with now := max w₁.now next } := made.before (w₁.made_now _)
        rw [← now₂] at attend₂
        refine ih (bound - w₂.now) ?_ calm₁ rest₂ made₂ attend₂
          (fun w' made' => finish w' (since.before made'))
          (fun w' above below made' => giveUp w' above below (since.before made')) rfl
        have now₂' : w₂.now = max w₁.now next := now₂
        omega

/-- A view is shown to everybody, unless a call further down is given up meanwhile; even then it was
shown to everybody. -/
theorem leads_delivery {P : World → Thread → Prop} {w : World} {frames : List Frame}
    (calm : w.turn.handed = false) (view : View) (error : Option String) (observers : List Observer)
    (quiet : ∀ c ∈ (Stage.deliver view error observers).showings, w.conduct.steps c = [])
    (finish : ∀ w', w.Made (Stage.deliver view error observers).showings w' →
      Leads P w' (.ready (.tally
        (.of ((Stage.deliver view error observers).showings.map w.succeeds))) frames))
    (giveUp : ∀ w' above below, w.Made (Stage.deliver view error observers).showings w' →
      Thread.splitExpired w'.now frames = some (above, below) →
      Leads P { w' with turn := Thread.dropFrames w'.turn above } (.ready (.outcome false) below)) :
    Leads P w (Thread.ofDelivery view error observers frames) := by
  have soon : ∀ c ∈ (Stage.deliver view error observers).showings,
      w.now + c.limit w.settings ≤ w.now + w.settings.observerTimeout := by
    intro c member
    obtain ⟨o, -, rfl⟩ := List.mem_map.mp member
    exact Nat.le_refl _
  obtain ⟨w₁, children, rest, made, now, attend⟩ := Thread.attends_all_ofCall quiet soon
  rw [Stage.showings, List.map_map] at rest
  rw [← now] at attend
  exact leads_joined calm rest made attend finish giveUp

/-- An operation that showed its view to everybody, or to nobody, comes to its end, unless a call
further down is given up meanwhile. -/
theorem leads_tail {P : World → Thread → Prop} {w : World} {frames : List Frame}
    (calm : w.turn.handed = false) (listen : w.conduct.ObserversListen)
    (answer : Except Error Reply) {stages : List Stage}
    (telling : stages = [] ∨ ∃ view error observers, stages = [.deliver view error observers])
    (finish : ∀ w', w.Made (stages.flatMap Stage.showings) w' →
      Leads P w' (.ready (.result (.answer answer none)) frames))
    (giveUp : ∀ w' above below, w.Made (stages.flatMap Stage.showings) w' →
      Thread.splitExpired w'.now frames = some (above, below) →
      Leads P { w' with turn := Thread.dropFrames w'.turn above } (.ready (.outcome false) below)) :
    Leads P w (.ready .go (.tail answer none stages :: frames)) := by
  rcases telling with rfl | ⟨view, error, observers, rfl⟩
  · exact .goes (goes_advance _ _ _ _) (finish w (.refl w))
  · have told : [Stage.deliver view error observers].flatMap Stage.showings =
        (Stage.deliver view error observers).showings := List.flatMap_singleton ..
    rw [told] at finish giveUp
    have quiet : ∀ c ∈ (Stage.deliver view error observers).showings, w.conduct.steps c = [] := by
      intro c member
      obtain ⟨o, -, rfl⟩ := List.mem_map.mp member
      exact listen o view error
    refine .goes (goes_advance _ _ _ _) (leads_delivery calm view error observers quiet
      (fun w' made => .goes ((goes_advance _ _ _ _).trans (goes_advance _ _ _ _))
        (finish w' made)) fun w' above below made expired => ?_)
    change (Thread.splitExpired w'.now frames).map _ = _ at expired
    obtain ⟨⟨above', below'⟩, expired, same⟩ := Option.map_eq_some_iff.mp expired
    cases same
    exact giveUp w' above' below made expired

/-- A call whose receiver has taken its steps ends. If it took no time so far, it succeeds if its
receiver ends it well within its limit. -/
theorem leads_ended {P : World → Thread → Prop} {w : World} (calm : w.turn.handed = false)
    (manner : Manner) (c : Call) (deadline : Nat) {frames : List Frame}
    (free : Thread.deadlines frames = [])
    (ends : ∀ w' ok, w.Made [] w' →
      (∀ limit, deadline = w.now + limit → ok = manner.succeeds limit) →
      Leads P w' (.ready (.outcome ok) (.limit c deadline :: frames))) :
    Leads P w (.ready .go (.script [] manner :: .limit c deadline :: frames)) := by
  refine .goes (goes_advance _ _ _ _) ?_
  have sleeps : ∀ until?, (∀ limit, deadline = w.now + limit →
      until?.any (· ≤ deadline) = manner.succeeds limit) →
      Leads P w (.asleep until? (.limit c deadline :: frames)) := by
    intro until? succeeds
    have deadlines : Thread.deadlines (.limit c deadline :: frames) = [deadline] :=
      congrArg (deadline :: ·) free
    refine leads_asleep calm (by simp [deadlines]) (fun now moment same past prompt => ?_)
      fun now above below later expired => ?_
    · refine ends _ true (w.made_now now) fun limit until_limit => ?_
      have ahead := prompt deadline (by simp [deadlines]) (until_limit ▸ Nat.le_add_right ..)
      rw [← succeeds limit until_limit, same]
      exact (decide_eq_true (Nat.le_trans past ahead)).symm
    · have split : above = [] ∧ below = .limit c deadline :: frames ∧ deadline ≤ now := by
        rw [Thread.splitExpired] at expired
        split at expired
        · rename_i up
          cases expired
          exact ⟨rfl, rfl, up⟩
        · rw [splitExpired_eq_none_iff.mpr (by simp [free])] at expired
          cases expired
      obtain ⟨rfl, rfl, up⟩ := split
      refine ends _ false (w.made_now now) fun limit until_limit => ?_
      rw [← succeeds limit until_limit]
      cases until? with
      | none => rfl
      | some moment =>
        exact (decide_eq_false (Nat.not_le.mpr (Nat.lt_of_le_of_lt up (later moment rfl)))).symm
  cases manner with
  | succeed => exact ends w true (.refl w) fun _ _ => rfl
  | fail => exact ends w false (.refl w) fun _ _ => rfl
  | hang => exact sleeps none fun _ _ => rfl
  | delay ms =>
    refine sleeps _ fun limit until_limit => ?_
    simp [Manner.succeeds, until_limit]

end Scenario

end SafetyCenter
