import Crater.Proofs.Calls
import Crater.Proofs.PlainMap

/-!
# Notices

A world tells its bus about voxels that observers are to see changed and about
every effect it plays. What it tells depends on its calls and never on the bus:
`obey_showing` swaps the bus of a world, and the list of effects with it, under
a call. The answer stays the same, and the two lists grow by what the call shows.
Hence the same for every sequence of calls.

What becomes of the notices is up to the bus. One that nobody takes events from
has room for a fixed number of them and keeps the first that fit.
-/

namespace Crater

/-! ## Buses -/

namespace EventBus

/-- A bus after some events have been sent to it and none was taken. -/
def sendAll (bus : EventBus) (events : List Event) : EventBus :=
  events.foldl (fun bus event => (bus.send event).2) bus

/-- A bus that has got to hear of some events. Those it has no room for are lost, and all
are lost if nobody is left to receive them. -/
def heard (bus : EventBus) (events : List Event) : EventBus :=
  if bus.hasReceiver then
    { bus with queue := bus.queue ++ events.take (bus.capacity - bus.queue.size) }
  else bus

theorem sendAll_of_not_accepts {bus : EventBus} (h : bus.accepts = false) (events : List Event) :
    bus.sendAll events = bus := by
  induction events with
  | nil => rfl
  | cons event rest ih =>
      have hlost : (bus.send event).2 = bus := by simp [send, h]
      rw [sendAll, List.foldl_cons, hlost]
      exact ih

/-- **Events are lost only at the end**: what is sent one after the other is kept as far
as there is room. -/
theorem sendAll_eq_heard (bus : EventBus) (events : List Event) :
    bus.sendAll events = bus.heard events := by
  induction events generalizing bus with
  | nil => simp [sendAll, heard]
  | cons event rest ih =>
      cases haccepts : bus.accepts with
      | true =>
          simp only [accepts, Bool.and_eq_true, decide_eq_true_eq] at haccepts
          obtain ⟨hreceiver, hlt⟩ := haccepts
          obtain ⟨room, hroom⟩ : ∃ room, bus.capacity - bus.queue.size = room + 1 :=
            ⟨bus.capacity - bus.queue.size - 1, by omega⟩
          have hleft : bus.capacity - (bus.queue.size + 1) = room := by omega
          have hsend : (bus.send event).2 = { bus with queue := bus.queue.push event } := by
            simp [send, accepts, hreceiver, hlt]
          rw [sendAll, List.foldl_cons, hsend]
          refine (ih _).trans ?_
          simp [heard, hreceiver, hroom, hleft]
      | false =>
          rw [sendAll_of_not_accepts haccepts]
          simp only [accepts, Bool.and_eq_false_iff, decide_eq_false_iff_not] at haccepts
          rcases haccepts with hgone | hfull
          · simp [heard, hgone]
          · simp [heard, Nat.sub_eq_zero_of_le (Nat.le_of_not_lt hfull)]

end EventBus

/-! ## Calls -/

inductive WorldCall where
  | store (call : StorageCall)
  | play (effect : Effect)
  | drop (stack : ItemStack) (position : Vec3)
  | strike (entity : EntityId) (source : DamageSource) (damage : Float32) (impulse : Vec3)

def WorldCall.played : WorldCall → List Effect
  | play effect => [effect]
  | store _ | drop .. | strike .. => []

namespace World

/-- Carries out a call, and gives its answer if it has one. -/
def obey (w : World) : WorldCall → Option Bool × World
  | .store call => w.perform call
  | .play effect => (none, w.play effect)
  | .drop stack position => (none, w.dropItem stack position)
  | .strike entity source damage impulse =>
    (w.strike entity source damage impulse).map some id

def obeyAll (w : World) (calls : List WorldCall) : World :=
  calls.foldl (fun w call => (w.obey call).2) w

/-- What a world is to tell about a call: where a write for observers to see is accepted,
the new block, and every effect. -/
def notices (w : World) : WorldCall → List Event
  | .store (.setVoxel p state flags) =>
    if (w.setVoxel p state flags).1 && flags.has .sync then [.voxelChanged p state.block] else []
  | .play effect => [.effect effect]
  | .store (.place ..) | .store (.placeVoxel ..) | .store (.fill ..) | .store (.guard _) => []
  | .drop .. | .strike .. => []

/-- What a world is to tell about some calls, the first to tell first. -/
def noticesAll (w : World) : List WorldCall → List Event
  | [] => []
  | call :: rest => w.notices call ++ (w.obey call).2.noticesAll rest

theorem obeyAll_cons (w : World) (call : WorldCall) (rest : List WorldCall) :
    w.obeyAll (call :: rest) = (w.obey call).2.obeyAll rest := rfl

theorem obeyAll_append (w : World) (earlier later : List WorldCall) :
    w.obeyAll (earlier ++ later) = (w.obeyAll earlier).obeyAll later :=
  List.foldl_append

theorem noticesAll_append (w : World) (earlier later : List WorldCall) :
    w.noticesAll (earlier ++ later) =
      w.noticesAll earlier ++ (w.obeyAll earlier).noticesAll later := by
  induction earlier generalizing w with
  | nil => rfl
  | cons call rest ih =>
      rw [List.cons_append, noticesAll, ih, noticesAll, obeyAll_cons, List.append_assoc]

/-! ## Another bus -/

/-- The same world with other effects played and another bus. -/
def showing (w : World) (effects : Array Effect) (bus : Option EventBus) : World :=
  { w with effects, bus }

theorem sendAll_nil (bus : Option EventBus) : bus.map (·.sendAll []) = bus := by
  cases bus <;> rfl

theorem showing_self (w : World) : w.showing w.effects w.bus = w := rfl

theorem publish_showing (w : World) (effects : Array Effect) (bus : Option EventBus)
    (event : Event) :
    (w.showing effects bus).publish event = w.showing effects (bus.map (·.sendAll [event])) := by
  cases bus <;> rfl

theorem play_showing (w : World) (effects : Array Effect) (bus : Option EventBus)
    (effect : Effect) :
    (w.showing effects bus).play effect =
      w.showing (effects.push effect) (bus.map (·.sendAll [.effect effect])) :=
  publish_showing w (effects.push effect) bus (.effect effect)

/-- A write under another bus tells it what it has to tell. -/
theorem setVoxel_showing (w : World) (effects : Array Effect) (bus : Option EventBus)
    (p : Position) (state : BlockState) (flags : WriteFlags) :
    (w.showing effects bus).setVoxel p state flags =
      ((w.setVoxel p state flags).1, (w.setVoxel p state flags).2.showing effects
        (bus.map (·.sendAll (w.notices (.store (.setVoxel p state flags)))))) := by
  have hplace : ((w.showing effects bus).place p state).2 =
      (w.place p state).2.showing effects bus := rfl
  cases hw : w.isWritable p with
  | false =>
      have hother : (w.showing effects bus).isWritable p = false := hw
      rw [notices, setVoxel_of_not_isWritable state flags hother,
        setVoxel_of_not_isWritable state flags hw, Bool.false_and, if_neg Bool.false_ne_true,
        sendAll_nil, hplace, show (w.showing effects bus).isGuarded p = w.isGuarded p from rfl]
      cases w.isGuarded p <;> rfl
  | true =>
      have hother : (w.showing effects bus).isWritable p = true := hw
      rw [notices, setVoxel_of_isWritable state flags hother, setVoxel_of_isWritable state flags hw,
        Bool.true_and, hplace]
      cases flags.has .sync with
      | false => simp only [Bool.false_eq_true, if_false, sendAll_nil]
      | true =>
          simp only [if_true, publish_showing]
          rw [← showing_self (w.place p state).2, publish_showing]
          rfl

/-- **A call does not look at the bus.** Under another bus, and with other effects played
before, it gives the same answer and does the same. -/
theorem obey_showing (w : World) (effects : Array Effect) (bus : Option EventBus)
    (call : WorldCall) :
    (w.showing effects bus).obey call =
      ((w.obey call).1, (w.obey call).2.showing (effects ++ call.played.toArray)
        (bus.map (·.sendAll (w.notices call)))) := by
  cases call with
  | store call =>
      cases call with
      | place | placeVoxel | fill | guard =>
          simp only [WorldCall.played, notices, Array.append_empty, sendAll_nil]
          rfl
      | setVoxel p state flags =>
          have hstep := w.setVoxel_showing effects bus p state flags
          simp only [obey, perform, hstep, Prod.map, WorldCall.played, Array.append_empty, id]
  | play effect =>
      simp only [obey, play_showing, WorldCall.played, notices]
      rw [← showing_self w, play_showing]
      rfl
  | drop | strike =>
      simp only [WorldCall.played, notices, Array.append_empty, sendAll_nil]
      rfl

/-- What some calls do under another bus. -/
theorem obeyAll_showing (w : World) (effects : Array Effect) (bus : Option EventBus)
    (calls : List WorldCall) :
    (w.showing effects bus).obeyAll calls =
      (w.obeyAll calls).showing (effects ++ (calls.flatMap WorldCall.played).toArray)
        (bus.map (·.sendAll (w.noticesAll calls))) := by
  induction calls generalizing w effects bus with
  | nil => simp [noticesAll, sendAll_nil, obeyAll]
  | cons call rest ih =>
      rw [obeyAll_cons, obey_showing, ih, obeyAll_cons]
      simp [noticesAll, EventBus.sendAll, Function.comp_def]

def attach (w : World) (bus : Option EventBus) : World := { w with bus }

/-- **A run of calls does not look at the bus**: whatever bus is attached, the world comes
out the same, and the bus has been sent what there was to tell. -/
theorem obeyAll_attach (w : World) (bus : Option EventBus) (calls : List WorldCall) :
    (w.attach bus).obeyAll calls =
      (w.obeyAll calls).attach (bus.map (·.sendAll (w.noticesAll calls))) := by
  have hown := w.obeyAll_showing w.effects w.bus calls
  have hother := w.obeyAll_showing w.effects bus calls
  rw [showing_self] at hown
  rw [show w.attach bus = w.showing w.effects bus from rfl, hother, attach]
  -- the effects are the same as with the bus that the world has
  rw [show w.effects ++ _ = (w.obeyAll calls).effects from (congrArg World.effects hown).symm]
  rfl

theorem obey_attach (w : World) (bus : Option EventBus) (call : WorldCall) :
    (w.attach bus).obey call = ((w.obey call).1,
      (w.obey call).2.attach (bus.map (·.sendAll (w.noticesAll [call])))) := by
  have hanswer : ((w.attach bus).obey call).1 = (w.obey call).1 := by
    rw [show w.attach bus = w.showing w.effects bus from rfl, obey_showing]
  exact Prod.ext hanswer (w.obeyAll_attach bus [call])

end World

end Crater
