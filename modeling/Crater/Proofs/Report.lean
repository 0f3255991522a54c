import Crater.Demo.Run
import Crater.Proofs.Arena
import Crater.Proofs.Radii
import Crater.Proofs.Replay

/-!
# The report of the demo

A demo that ends well reports numbers that agree with each other. All voxels that
the blast reaches are replaced, nothing is refused, and what the bus passes on is
the sound, the particle, the knockback of the player if the player is hit, and a
change for each replacement and each fire. Nothing of that is lost: the arena has
not enough voxels to fill the bus.
-/

namespace Crater

theorem ExplosionPlan.eq_of_build {plan : ExplosionPlan} {explosion : Explosion}
    (h : plan.build = .ok explosion) :
    explosion.radius = plan.radius ∧ explosion.interaction = plan.interaction := by
  unfold build at h
  split at h
  · split at h
    · obtain rfl := Except.ok.inj h
      exact ⟨rfl, rfl⟩
    · cases h
  · cases h

namespace Demo

/-! ## What is reported -/

/-- Whether a notice reports numbers of the blast, of its commit or of the bus. -/
def Notice.isFigure : Notice → Bool
  | detonated _ | finalized _ | drained .. => true
  | _ => false

def Notice.isHitOn (id : EntityId) : Notice → Bool
  | struck impact => impact.entity == id
  | _ => false

structure Figures where
  voxels : ℕ
  summary : CommitSummary
  events : ℕ
  changes : ℕ
  knockbacks : ℕ
  drops : ℕ

/-- A report with numbers that agree with each other. -/
structure IsConsistent (notices : List Notice) (f : Figures) : Prop where
  figures : notices.filter Notice.isFigure =
    [.detonated f.voxels, .finalized f.summary, .drained f.events f.changes f.knockbacks f.drops]
  changed : f.summary.changed = f.voxels
  rejected : f.summary.rejected = 0
  items : f.summary.items ≤ f.summary.changed
  drops : f.drops = f.summary.dropped
  changes : f.changes = f.summary.changed + f.summary.fires
  knockbacks : f.knockbacks = if notices.any (Notice.isHitOn ⟨2⟩) then 1 else 0
  /-- The sound and the particle are the other two. -/
  events : f.events = f.changes + f.knockbacks + 2
  kept : f.events < busCapacity
  taken : ∀ entity, .knockbackLost entity ∉ notices

namespace Scene

theorem drainNotice_eq {world : World} {bus : EventBus} (hbus : world.bus = some bus)
    {t c k : ℕ} (h : Counts bus.drain.1 t c k) :
    drainNotice world = .drained t c k world.drops.size := by
  obtain ⟨rfl, rfl, rfl⟩ := h
  simp only [drainNotice, hbus]
  congr 2 <;> funext event <;> cases event <;> rfl

/-- After finalizing, the bus holds the knockback and all that finalizing told it. -/
theorem drainNotice_finalize {d : Detonation} (hphase : d.phase = .detonated) {w : World}
    {g : Generator} {capacity : ℕ} {knockback : List (EntityId × Vec3)} {summary : CommitSummary}
    (hbus : w.bus =
      some (({ capacity } : EventBus).sendAll (Detonation.knockbackEvents knockback)))
    (hresult : (d.finalize true w g).1.result = .ok summary)
    (hroom : knockback.length + (2 + (summary.changed + summary.fires)) ≤ capacity) :
    drainNotice (d.finalize true w g).1.world =
      .drained (knockback.length + (2 + (summary.changed + summary.fires)))
        (summary.changed + summary.fires) knockback.length
        (d.finalize true w g).1.world.drops.size := by
  have hcounts := (Detonation.counts_knockbackEvents knockback).append
    (Detonation.counts_finalizeCalls hphase hresult)
  rw [if_pos rfl, Nat.zero_add, Nat.add_zero] at hcounts
  have htold := Detonation.bus_finalize hphase true w g
  rw [hbus, Option.map_some, ← EventBus.sendAll_append] at htold
  refine drainNotice_eq htold ?_
  rwa [EventBus.drain_sendAll (hcounts.total.trans_le hroom)]

theorem lostNotices_of_taken (ids : List (EntityId × Vec3)) :
    lostNotices (ids.map fun (entity, _) => (entity, true)) = [] := by
  simp [lostNotices]

/-- A scene as it is before the blast. -/
structure IsReady (scene : Scene) : Prop where
  builtin : scene.world.registry.UsesBuiltin
  bus : scene.world.bus = some { capacity := busCapacity }
  drops : scene.world.drops = #[]
  guarded : ∀ p, scene.world.isGuarded p = false
  population : scene.world.population = inhabitants
  ground : ∀ p, scene.world.voxel p ≠ .air → p ∈ ground
  interaction : scene.explosion.interaction = .destroyWithDecay

end Scene

def chosenBlocks (options : Options) (files : Files) : Except Failure Registry :=
  match options.blocks with
  | some path => load files Registry.ofText path
  | none => .ok .builtin

def chosenConfig (options : Options) (files : Files) : Except Failure Config :=
  match options.config with
  | some path => load files Config.ofText path
  | none => .ok {}

theorem prepare_eq (options : Options) (files : Files) :
    prepare options files = (do
      let config ← chosenConfig options files
      let registry ← chosenBlocks options files
      let world ← buildArena registry { capacity := busCapacity }
      let explosion ← (plan options).build
      return { options, config, world, explosion }) := by
  unfold prepare chosenConfig chosenBlocks
  cases options.config <;> cases options.blocks <;> rfl

theorem usesBuiltin_of_chosenBlocks {options : Options} {files : Files} {registry : Registry}
    (h : chosenBlocks options files = .ok registry) : registry.UsesBuiltin := by
  unfold chosenBlocks load at h
  split at h
  · split at h
    · exact Registry.usesBuiltin_of_ofText h
    · cases h
  · obtain rfl := Except.ok.inj h
    decide

/-- **What is prepared**: an arena of blocks with reactions that are built in, and a blast that
removes them. -/
theorem isReady_of_prepare {options : Options} {files : Files} {scene : Scene}
    (h : prepare options files = .ok scene) : scene.IsReady := by
  rw [prepare_eq] at h
  obtain ⟨config, -, h⟩ := exists_of_bind_eq_ok h
  obtain ⟨registry, hregistry, h⟩ := exists_of_bind_eq_ok h
  obtain ⟨world, hworld, h⟩ := exists_of_bind_eq_ok h
  obtain ⟨explosion, hexplosion, h⟩ := exists_of_bind_eq_ok h
  obtain rfl := Except.ok.inj h
  obtain ⟨⟨grid, rfl⟩, hground⟩ := buildArena_spec hworld
  exact {
    builtin := usesBuiltin_of_chosenBlocks hregistry
    bus := rfl
    drops := rfl
    guarded := fun p => by simp [World.isGuarded, World.empty]
    population := rfl
    ground := hground
    interaction := (ExplosionPlan.eq_of_build hexplosion).2 }

/-! ## The run -/

theorem replays_impacts (d : Detonation) {w : World} (hpopulation : w.population = inhabitants) :
    (d.impacts w).Replays (· == ⟨2⟩) := by
  have htarget : ∀ e ∈ inhabitants.members, e.snapshot.isReplayTarget = (e.id == ⟨2⟩) := by decide
  refine ImpactRules.replays_resolve _ _ _ ?_
  intro s hs
  obtain ⟨e, he, rfl⟩ := List.mem_map.mp hs
  rw [hpopulation] at he
  exact htarget e (List.mem_of_mem_filter he)

namespace Scene

section
variable (d : Detonation) (world : World) (summary : CommitSummary)

theorem filter_blastNotices :
    (blastNotices d).filter Notice.isFigure = [.detonated d.affected.size] := by
  unfold blastNotices
  split <;> simp [List.filter_cons, List.filter_map, Function.comp_def, Notice.isFigure]

theorem filter_commitNotices :
    (commitNotices d world summary).filter Notice.isFigure =
      [.finalized summary, drainNotice world] := by
  unfold commitNotices drainNotice
  split <;> simp [List.filter_cons, List.filter_map, Function.comp_def, Notice.isFigure]

theorem any_isHitOn_blastNotices {id : EntityId} :
    (blastNotices d).any (Notice.isHitOn id) = true ↔
      id ∈ d.report.impacts.map EntityImpact.entity := by
  unfold blastNotices
  split <;> simp [List.any_map, Function.comp_def, Notice.isHitOn]

theorem any_isHitOn_commitNotices (id : EntityId) :
    (commitNotices d world summary).any (Notice.isHitOn id) = false := by
  unfold commitNotices drainNotice
  split <;> simp [List.any_map, Function.comp_def, Notice.isHitOn]

/-- What is reported about a demo that goes well. -/
def report (scene : Scene) (d : Detonation) (world : World) (summary : CommitSummary) :
    List Notice :=
  .ready fallbackFilter :: scene.opening :: blastNotices d ++ commitNotices d world summary

theorem filter_report (scene : Scene) :
    (scene.report d world summary).filter Notice.isFigure =
      [.detonated d.affected.size, .finalized summary, drainNotice world] := by
  rw [report, List.filter_append, filter_commitNotices]
  exact congrArg (· ++ _) (filter_blastNotices d)

theorem any_isHitOn_report (scene : Scene) {id : EntityId} :
    (scene.report d world summary).any (Notice.isHitOn id) = true ↔
      id ∈ d.report.impacts.map EntityImpact.entity := by
  rw [report, List.any_append, any_isHitOn_commitNotices, Bool.or_false]
  exact any_isHitOn_blastNotices d

theorem knockbackLost_notMem_report (scene : Scene) (id : EntityId) :
    .knockbackLost id ∉ scene.report d world summary := by
  unfold report opening blastNotices commitNotices drainNotice
  split <;> split <;> simp

end

section
variable {scene : Scene} {d : Detonation}

/-- A demo opened: create, detonate, replay, finalize. -/
theorem play_eq {d₁ : Detonation} {w₁ w₂ : World} {g₁ : Generator}
    {sent : List (EntityId × Bool)} {summary : CommitSummary}
    (hcreate : Detonation.create scene.explosion scene.config = .ok d)
    (hblast : d.detonate scene.world (.ofSeed scene.options.seed) = (⟨d₁, w₁, .ok ()⟩, g₁))
    (hreplay : d₁.replayKnockback w₁ = (sent, w₂))
    (hresult : (d₁.finalize true w₂ g₁).1.result = .ok summary) :
    scene.play = (scene.opening :: blastNotices d₁ ++ lostNotices sent ++
      commitNotices d₁ (d₁.finalize true w₂ g₁).1.world summary, none) := by
  rcases hend : d₁.finalize true w₂ g₁ with ⟨⟨d₂, w₃, result⟩, g₂⟩
  rw [hend] at hresult
  obtain rfl : result = .ok summary := hresult
  simp only [play, hcreate, StateT.run, hblast, hreplay, hend]

theorem exists_detonate_of_play (h : scene.play.2 = none) :
    ∃ d, Detonation.create scene.explosion scene.config = .ok d ∧
      (d.detonate scene.world (.ofSeed scene.options.seed)).1.result = .ok () := by
  unfold play at h
  split at h
  · cases h
  · next d hcreate =>
    refine ⟨d, hcreate, ?_⟩
    change ((d.detonate scene.world).run (.ofSeed scene.options.seed)).1.result = .ok ()
    generalize (d.detonate scene.world).run (.ofSeed scene.options.seed) = made at h ⊢
    obtain ⟨⟨d₁, w₁, result⟩, g₁⟩ := made
    cases result with
    | error failure => cases h
    | ok => rfl

theorem length_knockback (hready : scene.IsReady) (d : Detonation) :
    (d.impacts scene.world).playerKnockback.length =
      if ⟨2⟩ ∈ (d.impacts scene.world).impacts.map EntityImpact.entity then 1 else 0 :=
  ImpactReport.length_playerKnockback (replays_impacts d hready.population)
    (d.isSimple_impacts scene.world)

theorem length_knockback_le (hready : scene.IsReady) (d : Detonation) :
    (d.impacts scene.world).playerKnockback.length ≤ 1 := by
  rw [length_knockback hready]
  split <;> omega

/-- Between blast and commit, the bus takes the knockback, and the ground stays as it was. -/
theorem exists_replayed (hready : scene.IsReady) (d : Detonation) (affected : AffectedSet) :
    ∃ w, (d.struck affected scene.world).replayKnockback
        (Detonation.deliver d.explosion.damageSource (d.impacts scene.world) scene.world) =
          ((d.impacts scene.world).playerKnockback.map fun (entity, _) => (entity, true), w) ∧
      World.SameGround scene.world w ∧
      w.bus = some (({ capacity := busCapacity } : EventBus).sendAll
        (Detonation.knockbackEvents (d.impacts scene.world).playerKnockback)) := by
  have hstruck := Detonation.sameGround_deliver d.explosion.damageSource (d.impacts scene.world)
    scene.world
  obtain ⟨population, hdelivered⟩ := Detonation.deliver_eq d.explosion.damageSource
    (d.impacts scene.world) scene.world
  have hbus : (Detonation.deliver d.explosion.damageSource (d.impacts scene.world)
      scene.world).bus = some { capacity := busCapacity } := by
    rw [hdelivered]
    exact hready.bus
  have hroom : 0 + (d.impacts scene.world).playerKnockback.length ≤ busCapacity := by
    rw [Nat.zero_add]
    exact (length_knockback_le hready d).trans (by decide)
  refine ⟨_, (d.struck affected scene.world).replayKnockback_eq hbus rfl hroom, ?_, rfl⟩
  exact ⟨hstruck.registry, hstruck.grid, hstruck.guarded, hstruck.drops⟩

/-- **A demo goes well** from the moment its rays have ended, and its report is consistent. -/
theorem play_isConsistent (hready : scene.IsReady)
    (hcreate : Detonation.create scene.explosion scene.config = .ok d)
    (hblasted : (d.detonate scene.world (.ofSeed scene.options.seed)).1.result = .ok ()) :
    scene.play.2 = none ∧ ∃ f, IsConsistent (.ready fallbackFilter :: scene.play.1) f := by
  obtain ⟨affected, htrace, hrun⟩ := Detonation.exists_of_detonate_ok hblasted
  rcases hblast : d.detonate scene.world (.ofSeed scene.options.seed) with ⟨outcome, g₁⟩
  rw [hblast] at hrun
  obtain rfl : outcome = _ := hrun
  obtain ⟨w, hreplay, hground, hbus⟩ := exists_replayed hready d affected
  have hphase : (d.struck affected scene.world).phase = .detonated := rfl
  have hmode : d.explosion.interaction.isDestructive = true := by
    rw [Detonation.explosion_of_create hcreate, hready.interaction]
    rfl
  obtain ⟨summary, hresult, hsweep⟩ := Detonation.sweep_finalize hphase hground true g₁
    hready.builtin hmode fun p hp => RayFan.inside_and_not_empty_of_trace htrace hp
  obtain ⟨hchanged, hrejected, hfires⟩ := hsweep.counts_of_unguarded hready.guarded
  obtain ⟨hdrops, hitems⟩ :=
    Detonation.drops_finalize hphase (hground.registry ▸ hready.builtin) hresult
  rw [hground.drops, hready.drops] at hdrops
  -- at most one knockback, two effects, and a change and a fire for each voxel of the arena
  have hsize : affected.size ≤ 3782 := size_le_of_trace hready.ground htrace
  have hone := length_knockback_le hready d
  have hkept : (d.impacts scene.world).playerKnockback.length +
      (2 + (summary.changed + summary.fires)) < busCapacity := by
    have hsum : summary.changed + summary.fires ≤ 3782 + 3782 := by
      rw [hchanged]
      exact Nat.add_le_add hsize (hfires.trans hsize)
    unfold busCapacity
    omega
  have hdrained := drainNotice_finalize hphase hbus hresult hkept.le
  rw [play_eq hcreate hblast hreplay hresult, lostNotices_of_taken, List.append_nil]
  generalize ((d.struck affected scene.world).finalize true w g₁).1.world = after
    at hdrops hdrained ⊢
  let f : Figures := {
    voxels := affected.size
    summary
    events := (d.impacts scene.world).playerKnockback.length +
      (2 + (summary.changed + summary.fires))
    changes := summary.changed + summary.fires
    knockbacks := (d.impacts scene.world).playerKnockback.length
    drops := after.drops.size }
  have hconsistent :
      IsConsistent (scene.report (d.struck affected scene.world) after summary) f := {
    figures := by rw [filter_report, hdrained]; rfl
    changed := hchanged
    rejected := hrejected
    items := hitems
    drops := hdrops.trans (Nat.zero_add _)
    changes := rfl
    knockbacks := by
      refine (length_knockback hready d).trans (if_congr ?_ rfl rfl)
      rw [any_isHitOn_report]
      rfl
    events := by simp only [f]; omega
    kept := hkept
    taken := knockbackLost_notMem_report _ _ _ scene }
  exact ⟨rfl, f, hconsistent⟩

end

end Scene

section
variable {arguments : List String} {files : Files} {options : Options} {scene : Scene}

theorem run_eq (hread : Options.read arguments = .ok options)
    (hprepare : prepare options files = .ok scene) (hplay : scene.play.2 = none) :
    run arguments files = ⟨0, .ready fallbackFilter :: scene.play.1, []⟩ := by
  rcases hplayed : scene.play with ⟨notices, failure⟩
  rw [hplayed] at hplay
  obtain rfl : failure = none := hplay
  simp only [run, hread, hprepare, hplayed]

theorem exists_scene_of_run (h : (run arguments files).exitCode = 0) :
    ∃ options scene, Options.read arguments = .ok options ∧
      prepare options files = .ok scene ∧ scene.play.2 = none := by
  unfold run at h
  split at h
  · cases h
  · next options hread =>
    split at h
    · cases h
    · next scene hprepare =>
      refine ⟨options, scene, hread, hprepare, ?_⟩
      split at h
      · next hplay => rw [hplay]
      · cases h

/-- **Every report is consistent.** Whatever the arguments and the files are, a demo that ends well
reports numbers that agree with each other and with what it says of the player. -/
theorem exists_isConsistent (h : (run arguments files).exitCode = 0) :
    ∃ f, IsConsistent (run arguments files).notices f := by
  obtain ⟨options, scene, hread, hprepare, hplay⟩ := exists_scene_of_run h
  obtain ⟨d, hcreate, hblasted⟩ := Scene.exists_detonate_of_play hplay
  obtain ⟨-, f, hconsistent⟩ :=
    Scene.play_isConsistent (isReady_of_prepare hprepare) hcreate hblasted
  rw [run_eq hread hprepare hplay]
  exact ⟨f, hconsistent⟩

end

end Demo

/-! ## The demo without arguments -/

open Rounding Numeral in
/-- With the default settings and a radius of 4, a ray starts with less than steps can take. -/
theorem RayFan.startPower_default (word : UInt32) :
    isFinite ((ofConfig {}).startPower 4.0 (Draw.fractionOf word)) = true ∧
    real ((ofConfig {}).startPower 4.0 (Draw.fractionOf word)) <
      2 ^ 24 * real (Config.stepAttenuation {}) := by
  obtain ⟨hdrawn, hnonneg⟩ := Draw.fractionOf_spec word
  have hfraction : Rises (Draw.fractionOf word) 1.0 :=
    ⟨Numeral.isNaN_of_isFinite hdrawn, by rfl, hnonneg, Draw.real_fractionOf_le word⟩
  have hself : ∀ {x : Float32}, isFinite x = true → x ≥ 0.0 → Rises x x := fun hx h =>
    .refl (Numeral.isNaN_of_isFinite hx) (Single.real_nonneg_of_ge h)
  have hspan := hfraction.mul (by rfl) (hself (x := 0.6) (by rfl) (by decide)) (by rfl)
  have hshare := (hself (x := 0.7) (by rfl) (by decide)).add (by rfl) hspan (by rfl)
  have hpower := (hself (x := 4.0) (by rfl) (by decide)).mul (by rfl) hshare (by rfl)
  have hcap : (4.0 * (0.7 + 1.0 * 0.6) : Float32) < 8.0 := by decide
  have hloss : (0.125 : Float32) < Config.stepAttenuation {} := by decide
  have height : real (8.0 : Float32) = 8 := by
    rw [real_of_unpack (u := .finite .positive (2 ^ 23) (-20) (by decide)) rfl]
    norm_num [value, Float.Model.UnpackedFloat.Sign.apply]
  have heighth : real (0.125 : Float32) = 1 / 8 := by
    rw [real_of_unpack (u := .finite .positive (2 ^ 23) (-26) (by decide)) rfl]
    norm_num [value, Float.Model.UnpackedFloat.Sign.apply]
  refine ⟨hpower.isFinite_left (by rfl), ?_⟩
  calc real ((ofConfig {}).startPower 4.0 (Draw.fractionOf word))
      ≤ real (4.0 * (0.7 + 1.0 * 0.6) : Float32) := hpower.le
    _ < real (8.0 : Float32) := (Numeral.lt_iff.mp hcap).2
    _ < 2 ^ 24 * real (0.125 : Float32) := by rw [height, heighth]; norm_num
    _ < 2 ^ 24 * real (Config.stepAttenuation {}) := by
      have := (Numeral.lt_iff.mp hloss).2
      gcongr

open Rounding Numeral in
/-- A blast has a result if steps can take the power of all its rays, whatever is drawn for them. -/
theorem RayFan.isSome_trace_of_power {config : Config} (hvalid : config.validate = .ok ())
    (explosion : Explosion) (terrain : Terrain) (g : Generator)
    (hpower : ∀ word,
      isFinite ((ofConfig config).startPower explosion.radius (Draw.fractionOf word)) = true ∧
      real ((ofConfig config).startPower explosion.radius (Draw.fractionOf word)) <
        2 ^ 24 * real config.stepAttenuation) :
    ((ofConfig config).trace explosion terrain g).1.isSome = true := by
  have hvalid := Config.isValid_of_validate hvalid
  unfold trace
  split
  · rfl
  · refine (isSome_traceFrom_iff _ _ _).mpr ?_
    intro i direction hdirection
    have hfair : ((ofConfig config).march terrain (explosion.resistance.rules terrain)
        direction).IsFair := isFair_march hvalid explosion.resistance direction
    obtain ⟨hfinite, hlt⟩ := hpower (g.word (g.drawn + i))
    exact (March.isSome_steps?_iff hfair _).mpr (March.ends_of_power_lt hfair
      hvalid.stepAttenuation.1 (Single.real_pos_of_gt hvalid.stepAttenuation.2) hfinite hlt)

namespace Demo

/-- **Without arguments, the demo ends well**, whatever files there are. -/
theorem exitCode_run_nil (files : Files) : (run [] files).exitCode = 0 := by
  obtain ⟨world, hworld⟩ := @exists_buildArena _ { capacity := busCapacity } isSome_byName?_builtin
  obtain ⟨explosion, hexplosion⟩ : ∃ explosion, (plan {}).build = .ok explosion := ⟨_, rfl⟩
  have hprepare : prepare {} files = .ok ⟨{}, {}, world, explosion⟩ := by
    rw [prepare_eq]
    simp only [chosenConfig, chosenBlocks, bind, Except.bind, hworld, hexplosion]
    rfl
  have hvalid : Config.validate {} = .ok () := rfl
  have hcreate := Detonation.create_eq explosion hvalid
  have hpower := RayFan.startPower_default
  rw [← show explosion.radius = 4.0 from (ExplosionPlan.eq_of_build hexplosion).1] at hpower
  have hblasted := Detonation.detonate_of_isSome_trace
    (d := { explosion, config := {}, validate_config := hvalid }) rfl
    (RayFan.isSome_trace_of_power hvalid explosion world.terrain (.ofSeed 42) hpower)
  obtain ⟨hplay, -⟩ := Scene.play_isConsistent (isReady_of_prepare hprepare) hcreate hblasted
  rw [run_eq rfl hprepare hplay]

/-- The demo without arguments, with no files to read. -/
theorem exists_isConsistent_nil : (run [] fun _ => .error "no files").exitCode = 0 ∧
    ∃ f, IsConsistent (run [] fun _ => .error "no files").notices f :=
  ⟨exitCode_run_nil _, exists_isConsistent (exitCode_run_nil _)⟩

end Demo

end Crater
