import Crater.Proofs.CallLists
import Crater.Proofs.Sites

/-!
# Observers

Nobody who watches an explosion has a hand in it. With or without particles, an
explosion leaves the same world behind, apart from the particle itself. With or
without a bus, full or deserted, every call gives the same answer; and a bus
that nobody takes events from holds the first events that fit, in the order of
the calls that they tell of.
-/

namespace Crater

namespace Detonation

/-! ## The calls of a detonation -/

def soundEffect (d : Detonation) (pitch : Float32) : Effect :=
  .sound d.explosion.effects.sound d.explosion.center d.config.soundVolume pitch

def particleEffect (d : Detonation) : Effect :=
  .particle d.particle d.explosion.center ⟨1.0, 0.0, 0.0⟩

def presentCalls (d : Detonation) (particles : Bool) (pitch : Float32) : List WorldCall :=
  .play (d.soundEffect pitch) :: if particles then [.play d.particleEffect] else []

def deliverCalls (source : DamageSource) (report : ImpactReport) : List WorldCall :=
  report.impacts.map fun impact => .strike impact.entity source impact.damage impact.impulse

/-- The calls of a blast: none if a ray has no end. -/
def blastCalls (d : Detonation) (w : World) (g : Generator) : List WorldCall :=
  match ((RayFan.ofConfig d.config).trace d.explosion w.terrain g).1 with
  | none => []
  | some _ => deliverCalls d.explosion.damageSource (d.impacts w)

def finalizeCalls (d : Detonation) (particles : Bool) (w : World) (g : Generator) :
    List WorldCall :=
  let shown := d.presentCalls particles (drawPitch g).1
  shown ++ (CommitRules.ofConfig d.config).commitCalls d.explosion d.affected (w.obeyAll shown)
    (drawPitch g).2

/-- What a call to a detonation does to its world, as calls to the world. Out of turn it
does nothing. -/
def calls (d : Detonation) (w : World) (g : Generator) : Call → List WorldCall
  | .detonate => if d.phase = .created then d.blastCalls w g else []
  | .detonateUnless veto =>
    if d.phase = .created ∧ veto d.explosion = false then d.blastCalls w g else []
  | .spareVoxels => []
  | .finalize particles => if d.phase = .detonated then d.finalizeCalls particles w g else []

section
variable (d : Detonation) {w w' : World} (g : Generator)

theorem obeyAll_presentCalls (particles : Bool) (pitch : Float32) (w : World) :
    w.obeyAll (d.presentCalls particles pitch) = d.present particles pitch w := by
  cases particles <;> rfl

theorem obeyAll_deliverCalls (source : DamageSource) (report : ImpactReport) (w : World) :
    w.obeyAll (deliverCalls source report) = deliver source report w :=
  List.foldl_map

/-! ## Twin worlds -/

theorem blast_twin (h : World.Twin w w') :
    d.blast w' g = (⟨(d.blast w g).1.detonation, w'.obeyAll (d.blastCalls w g),
      (d.blast w g).1.result⟩, (d.blast w g).2) := by
  have hterrain : w'.terrain = w.terrain := by
    obtain ⟨effects, bus, rfl⟩ := h
    rfl
  have himpacts : d.impacts w' = d.impacts w := by
    obtain ⟨effects, bus, rfl⟩ := h
    rfl
  rw [blast, blast, Draw.bind_apply, Draw.bind_apply, hterrain, himpacts, blastCalls]
  cases ((RayFan.ofConfig d.config).trace d.explosion w.terrain g).1 with
  | none => rfl
  | some affected =>
      rw [obeyAll_deliverCalls]
      rfl

theorem finalize_twin (hphase : d.phase = .detonated) (particles : Bool)
    (h : World.Twin w w') :
    d.finalize particles w' g =
      (⟨(d.finalize particles w g).1.detonation, w'.obeyAll (d.finalizeCalls particles w g),
        (d.finalize particles w g).1.result⟩, (d.finalize particles w g).2) := by
  rw [d.finalize_eq_closed g hphase, d.finalize_eq_closed g hphase, ← obeyAll_presentCalls,
    ← obeyAll_presentCalls, CommitRules.commit_twin _ _ _ _ (h.obeyAll _), finalizeCalls,
    World.obeyAll_append]
  rfl

theorem perform_of_early {call : Call} (hearly : d.phase ≠ call.turn) (w : World) :
    d.perform w call g = (⟨d, w, .error (.invalidState call.operation d.phase)⟩, g) := by
  have h := d.performed w g call
  generalize d.perform w call g = made at h ⊢
  cases h with
  | refused => rfl
  | endless turn | struck turn | vetoed turn | spared turn | finalized turn =>
      exact absurd turn hearly

/-- **A call to a detonation is carrying out its calls**, in any twin of the world, and its
answer is the same in all of them. -/
theorem perform_twin (call : Call) (h : World.Twin w w') :
    d.perform w' call g =
      (⟨(d.perform w call g).1.detonation, w'.obeyAll (d.calls w g call),
        (d.perform w call g).1.result⟩, (d.perform w call g).2) := by
  have hearly : d.phase ≠ call.turn → d.perform w' call g =
      (⟨(d.perform w call g).1.detonation, w', (d.perform w call g).1.result⟩,
        (d.perform w call g).2) := by
    intro hearly
    rw [d.perform_of_early g hearly, d.perform_of_early g hearly]
  have hblast : d.phase = .created → d.perform w' .detonate g =
      (⟨(d.perform w .detonate g).1.detonation, w'.obeyAll (d.blastCalls w g),
        (d.perform w .detonate g).1.result⟩, (d.perform w .detonate g).2) := by
    intro hturn
    simp only [perform, Draw.map_apply, detonate, if_pos hturn]
    rw [d.blast_twin g h]
    rfl
  cases call with
  | detonate =>
      rw [calls]
      split
      · next hturn => exact hblast hturn
      · next hturn => exact hearly hturn
  | detonateUnless veto =>
      by_cases hturn : d.phase = .created
      · cases hveto : veto d.explosion with
        | true =>
            simp only [calls, perform, Draw.map_apply, detonateUnless, hturn, hveto, if_true]
            rfl
        | false =>
            rw [d.perform_detonateUnless w hveto, d.perform_detonateUnless w' hveto, calls,
              if_pos ⟨hturn, hveto⟩]
            exact hblast hturn
      · rw [calls, if_neg fun h => hturn h.1]
        exact hearly hturn
  | spareVoxels =>
      rw [perform, perform]
      cases d.spareVoxels <;> rfl
  | finalize particles =>
      rw [calls]
      split
      · next hturn =>
        simp only [perform, Draw.map_apply]
        rw [d.finalize_twin g hturn particles h]
        rfl
      · next hturn => exact hearly hturn

end

section
variable (d : Detonation) (g : Generator) (call : Call)

theorem world_perform (w : World) :
    (d.perform w call g).1.world = w.obeyAll (d.calls w g call) :=
  congrArg (·.1.world) (d.perform_twin g call (.refl w))

/-- A call to a detonation does not look at the bus. -/
theorem perform_attach (w : World) (bus : Option EventBus) :
    d.perform (w.attach bus) call g =
      (⟨(d.perform w call g).1.detonation, (d.perform w call g).1.world.attach
        (bus.map (·.sendAll (w.noticesAll (d.calls w g call)))), (d.perform w call g).1.result⟩,
        (d.perform w call g).2) := by
  have htwin : World.Twin w (w.attach bus) := ⟨w.effects, bus, rfl⟩
  rw [d.perform_twin g call htwin, World.obeyAll_attach, d.world_perform g call w]

end

/-! ## Particles -/

theorem present_false (d : Detonation) (pitch : Float32) (w : World) :
    ∃ bus, d.present false pitch w = w.showing (w.effects.push (d.soundEffect pitch)) bus :=
  ⟨_, w.play_showing w.effects w.bus (d.soundEffect pitch)⟩

theorem present_true (d : Detonation) (pitch : Float32) (w : World) :
    ∃ bus, d.present true pitch w =
      w.showing ((w.effects.push (d.soundEffect pitch)).push d.particleEffect) bus := by
  obtain ⟨bus, hsound⟩ := d.present_false pitch w
  have hparticle : d.present true pitch w = (d.present false pitch w).play d.particleEffect := rfl
  rw [hparticle, hsound, World.play_showing]
  exact ⟨_, rfl⟩

/-- **Particles do not influence the world.** With and without them, finalizing gives the
same answer, draws the same and leaves the same detonation and the same world, but for the
particle, which is played after the sound, and the bus, which is told of it. -/
theorem finalize_particles (d : Detonation) (w : World) (g : Generator)
    (hphase : d.phase = .detonated) :
    ∃ pitch bus,
      (d.finalize false w g).1.world.effects = w.effects.push (d.soundEffect pitch) ∧
      d.finalize true w g =
        (⟨(d.finalize false w g).1.detonation,
          (d.finalize false w g).1.world.showing
            ((w.effects.push (d.soundEffect pitch)).push d.particleEffect) bus,
          (d.finalize false w g).1.result⟩, (d.finalize false w g).2) := by
  obtain ⟨bus, hplain⟩ := d.present_false (drawPitch g).1 w
  obtain ⟨bus', hshown⟩ := d.present_true (drawPitch g).1 w
  -- both commits are the one in `w`, each with what was played before it
  obtain ⟨busEnd, hplainEnd⟩ := (CommitRules.ofConfig d.config).commit_showing d.explosion
    d.affected w (drawPitch g).2 (w.effects.push (d.soundEffect (drawPitch g).1)) bus
  obtain ⟨busEnd', hshownEnd⟩ := (CommitRules.ofConfig d.config).commit_showing d.explosion
    d.affected w (drawPitch g).2
    ((w.effects.push (d.soundEffect (drawPitch g).1)).push d.particleEffect) bus'
  rw [d.finalize_eq_closed g hphase false, d.finalize_eq_closed g hphase true, hplain, hshown,
    hplainEnd, hshownEnd]
  exact ⟨_, busEnd', rfl, rfl⟩

/-- A detonation that is about to remove one voxel. -/
def primed : Detonation :=
  { brief with phase := .detonated, affected := AffectedSet.empty.insert ⟨0, 0, 0⟩ }

/-- A blast under a block of dirt, with and without its particle. -/
theorem finalize_particles_primed : primed.phase = .detonated ∧
    ∃ pitch bus,
      (primed.finalize false .clod (.ofSeed 1)).1.world.effects =
        World.clod.effects.push (primed.soundEffect pitch) ∧
      primed.finalize true .clod (.ofSeed 1) =
        (⟨(primed.finalize false .clod (.ofSeed 1)).1.detonation,
          (primed.finalize false .clod (.ofSeed 1)).1.world.showing
            ((World.clod.effects.push (primed.soundEffect pitch)).push primed.particleEffect) bus,
          (primed.finalize false .clod (.ofSeed 1)).1.result⟩,
        (primed.finalize false .clod (.ofSeed 1)).2) :=
  ⟨rfl, finalize_particles primed .clod (.ofSeed 1) rfl⟩

end Detonation

/-! ## Buses -/

/-- Something done at a site: a call to its world, or to one of its explosions. -/
inductive Act where
  | world (call : WorldCall)
  | blast (order : Order)

/-- What comes back from an act. A call to an explosion gives its answer and the generator
after it, if there is such an explosion. -/
inductive Reply where
  | world (answer : Option Bool)
  | blast (answer : Option (Except Failure Answer × Generator))

namespace Site

def act (site : Site) : Act → Reply × Site
  | .world call =>
    let (answer, world) := site.world.obey call
    (.world answer, { site with world })
  | .blast order =>
    let answer := site.blasts[order.blast]?.map fun d =>
      let (made, g) := d.perform site.world order.call order.generator
      (made.result, g)
    (.blast answer, site.obey order)

def actAll (site : Site) : List Act → List Reply × Site
  | [] => ([], site)
  | first :: rest =>
    let (reply, site) := site.act first
    let (replies, site) := actAll site rest
    (reply :: replies, site)

/-- What an act does to the world, as calls. -/
def calls (site : Site) : Act → List WorldCall
  | .world call => [call]
  | .blast order =>
    match site.blasts[order.blast]? with
    | none => []
    | some d => d.calls site.world order.generator order.call

def callsAll (site : Site) : List Act → List WorldCall
  | [] => []
  | first :: rest => site.calls first ++ callsAll (site.act first).2 rest

/-- What there is to tell about some acts. -/
def news (site : Site) (acts : List Act) : List Event := site.world.noticesAll (site.callsAll acts)

def attach (site : Site) (bus : Option EventBus) : Site :=
  { site with world := site.world.attach bus }

/-- The calls of an act are all that it does to the world. -/
theorem world_act (site : Site) (a : Act) :
    (site.act a).2.world = site.world.obeyAll (site.calls a) := by
  cases a with
  | world call => rfl
  | blast order =>
      rw [act, obey, calls]
      cases site.blasts[order.blast]? with
      | none => rfl
      | some d => exact d.world_perform order.generator order.call site.world

theorem act_attach (site : Site) (bus : Option EventBus) (a : Act) :
    (site.attach bus).act a = ((site.act a).1, (site.act a).2.attach
      (bus.map (·.sendAll (site.world.noticesAll (site.calls a))))) := by
  cases a with
  | world call =>
      simp only [act, attach, calls, World.obey_attach]
  | blast order =>
      simp only [act, attach, calls, obey]
      cases site.blasts[order.blast]? with
      | none =>
          simp only [World.noticesAll, World.sendAll_nil]
          rfl
      | some d =>
          simp only [Option.map_some, d.perform_attach order.generator order.call]
          rfl

/-- The calls of some acts are all that they do to the world. -/
theorem world_actAll (site : Site) (acts : List Act) :
    (site.actAll acts).2.world = site.world.obeyAll (site.callsAll acts) := by
  induction acts generalizing site with
  | nil => rfl
  | cons first rest ih =>
      rw [callsAll, World.obeyAll_append, ← site.world_act first]
      exact ih _

theorem actAll_attach_sendAll (site : Site) (bus : Option EventBus) (acts : List Act) :
    (site.attach bus).actAll acts = ((site.actAll acts).1,
      (site.actAll acts).2.attach (bus.map (·.sendAll (site.news acts)))) := by
  induction acts generalizing site bus with
  | nil =>
      simp only [actAll, news, callsAll, World.noticesAll, World.sendAll_nil]
  | cons first rest ih =>
      have hnews : site.news (first :: rest) =
          site.world.noticesAll (site.calls first) ++ (site.act first).2.news rest := by
        rw [news, callsAll, World.noticesAll_append, ← site.world_act first]
        rfl
      simp only [actAll, act_attach, ih, hnews, Option.map_map, Function.comp_def,
        EventBus.sendAll, List.foldl_append]

/-- **A bus only observes.** Whatever bus is attached, the same acts bring the same replies
and leave the same site, and the bus gets to hear of the news as far as it has room. The
news are those of the calls that the acts make. -/
theorem actAll_attach (site : Site) (acts : List Act) :
    (site.actAll acts).2.world = site.world.obeyAll (site.callsAll acts) ∧
    (∀ bus, (site.attach bus).actAll acts = ((site.actAll acts).1,
      (site.actAll acts).2.attach (bus.map (·.heard (site.news acts))))) ∧
    ∀ capacity, ((site.attach (some { capacity })).actAll acts).2.world.bus.map EventBus.queue =
      some ((site.news acts).take capacity).toArray := by
  have hattach : ∀ bus, (site.attach bus).actAll acts = ((site.actAll acts).1,
      (site.actAll acts).2.attach (bus.map (·.heard (site.news acts)))) := by
    intro bus
    simp only [← EventBus.sendAll_eq_heard]
    exact site.actAll_attach_sendAll bus acts
  refine ⟨site.world_actAll acts, hattach, ?_⟩
  intro capacity
  rw [hattach]
  simp [attach, World.attach, EventBus.heard]

end Site

end Crater
