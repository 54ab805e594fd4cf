import SafetyCenter.Proofs.Scenario.Assignment
import SafetyCenter.Proofs.Scenario.Listening

set_option autoImplicit false

namespace SafetyCenter

namespace Scenario

inductive Campaign where
  /-- shows a view to observers, side by side -/
  | deliver (view : View) (error : Option String) (observers : List Observer)
  /-- asks the sources of a group to report again, one after the other -/
  | refresh (c : Catalogue) (g : ProfileGroup) (reason : RefreshReason)
  /-- tells all sources, one after the other, whether the center is enabled -/
  | announce (c : Catalogue) (enabled : Bool)

namespace Campaign

/-- What `playRound` does to the world before the first call, and the thread that it plays. -/
def startRound (w : World) (round : Round) : World × Thread :=
  let w := if round.isRefresh then { w with refreshes := w.refreshes + 1 } else w
  (w, .ready .go [.calls (round.calls w.refreshes) {}])

def start (w : World) : Campaign → World × Thread
  | .deliver view error observers => (w, Thread.ofDelivery view error observers [])
  | .refresh c g reason => startRound w (.refresh reason (Center.refreshTargets c g))
  | .announce c enabled => startRound w (.announce enabled (c.sources.map (·.id)))

/-- One call for each target. A refresh carries its number. -/
def calls (refreshId : Nat) : Campaign → List Call
  | .deliver view error observers => observers.map fun o => .deliver o view error
  | .refresh c g reason =>
    (Center.refreshTargets c g).map fun target => .refresh target.1 target.2 reason refreshId
  | .announce c enabled => (c.sources.map (·.id)).map fun source => .announce source enabled

/-- Doing the work comes to a tally, with enough patience. -/
def Ends (campaign : Campaign) (w w' : World) (t : Tally) : Prop :=
  Plays (campaign.start w).1 (campaign.start w).2 w' (.tally t)

end Campaign

/-- Every target was called once, in order, and was counted as it ended its call. -/
structure World.Counted (w : World) (cs : List Call) (ok : Call → Bool) (w' : World) (t : Tally) :
    Prop where
  calls : w'.calls = w.calls ++ cs
  sent : t.sent = cs.countP ok
  failed : t.failed = cs.countP (!ok ·)
  all : t.sent + t.failed = cs.length

/-- Calls that are made one after the other and answered without steps come to an end. However one
of them ends, the next is made. -/
theorem leads_calls {P : World → Thread → Prop} {cs : List Call} {w : World} {tally : Tally}
    {frames : List Frame} (calm : w.turn.handed = false) (free : Thread.deadlines frames = [])
    (quiet : ∀ c ∈ cs, w.conduct.steps c = [])
    (finish : ∀ w', w.Made cs w' →
      Leads P w' (.ready (.tally (tally.add (.of (cs.map w.succeeds)))) frames)) :
    Leads P w (.ready .go (.calls cs tally :: frames)) := by
  induction cs generalizing w tally with
  | nil => exact .goes (goes_advance _ _ _ _) (finish w (.refl w))
  | cons c cs ih =>
    rw [List.forall_mem_cons] at quiet
    obtain ⟨steps, manner, -⟩ := w.startCall_conduct c
    have made := World.made_startCall quiet.1
    have started := goes_advance w .go (.calls (c :: cs) tally) frames
    simp only [Thread.advance, Thread.ofStartedCall, steps, quiet.1] at started
    refine .goes started (leads_ended (made.turn ▸ calm) _ c _ (by exact free) ?_)
    intro w₁ ok answered exactly
    have own : ok = w.succeeds c := by
      rw [exactly _ rfl, manner, made.settings, World.succeeds, World.inTime]
    obtain ⟨w₂, counted, noted, -⟩ := goes_answered w₁ ok c _ cs tally frames
    have soFar : w.Made [c] w₂ := made.before (answered.before noted)
    refine .goes counted (ih (soFar.turn ▸ calm) (soFar.conduct ▸ quiet.2) fun w₃ rest => ?_)
    rw [soFar.succeeds, own, Tally.count_add_of]
    exact finish w₃ (soFar.trans rest)

theorem World.Assigns.map_succeeds {w : World} {cs : List Call} {manner : Call → Manner}
    (assigns : w.Assigns cs manner) : cs.map w.succeeds = cs.map (w.inTime manner) :=
  List.map_congr_left fun c member => by
    rw [World.succeeds, World.inTime, (assigns c member).2, World.inTime]

/-- The work comes to an end at which every target was called and counted as it ended its call. -/
theorem Campaign.ends (campaign : Campaign) {w : World} {manner : Call → Manner}
    (assigns : w.Assigns (campaign.calls (w.refreshes + 1)) manner) :
    ∃ w', campaign.Ends w w' (.of ((campaign.calls (w.refreshes + 1)).map (w.inTime manner))) ∧
      w'.calls = w.calls ++ campaign.calls (w.refreshes + 1) := by
  let Done (w' : World) (t : Thread) : Prop :=
    t = .ready (.tally (.of ((campaign.calls (w.refreshes + 1)).map w.succeeds))) [] ∧
      w'.calls = w.calls ++ campaign.calls (w.refreshes + 1)
  let calm (v : World) : World := { v with turn := { v.turn with handed := false } }
  have quiet : ∀ c ∈ campaign.calls (w.refreshes + 1), w.conduct.steps c = [] :=
    fun c member => (assigns c member).1
  have leads : Leads Done (calm (campaign.start w).1) (campaign.start w).2 := by
    cases campaign with
    | deliver view error observers =>
      refine leads_delivery (w := calm w) rfl view error observers quiet
        (fun w' made => .here ⟨rfl, made.calls⟩) fun w' above below made expired => ?_
      cases (show none = some (above, below) from expired)
    | refresh c g reason =>
      refine leads_calls (w := calm { w with refreshes := w.refreshes + 1 }) rfl rfl quiet
        fun w' made => .here ⟨?_, made.calls⟩
      rw [Tally.empty_add]
      rfl
    | announce c enabled =>
      refine leads_calls (w := calm w) rfl rfl quiet fun w' made => .here ⟨?_, made.calls⟩
      rw [Tally.empty_add]
      rfl
  obtain ⟨w', signal, ⟨same, calls⟩, plays⟩ := Leads.plays (P := Done)
    (fun w' t done => ⟨_, done.1⟩) leads
  cases same
  rw [assigns.map_succeeds] at plays
  exact ⟨w', plays, calls⟩

end Scenario

end SafetyCenter
