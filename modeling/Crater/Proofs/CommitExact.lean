import Crater.Proofs.CommitRun

/-!
# Commits are exact

Whatever the handlers do, a commit does what they ask at each position of its
set and nothing else: in one order, at each position at most once, up to the
first handler that fails. The drops that fall are those of the positions that
were converted, but for the ones whose replacement the world refused.
-/

namespace Crater

open CommitRules (reaction)

/-- A handler is asked about what its position holds. -/
theorem CommitRules.reaction_congr (explosion : Explosion) {w w' : World} {p : Position}
    (hsetting : World.SameSetting w w') (hvoxel : w'.voxel p = w.voxel p) :
    reaction explosion w' p = reaction explosion w p := by
  unfold reaction
  rw [hvoxel, hsetting.registry]

/-- The course of a commit that converted the positions of `log`, did not come to
those of `rest`, let `emitted` fall and left its conversions in `converted`. -/
structure ExactCommit (explosion : Explosion) (affected : AffectedSet) (w : World)
    (g : Generator) (outcome : CommitOutcome) (log : List Conversion) (rest : List Position)
    (emitted : List (ItemStack × Vec3)) (converted : World) : Prop where
  /-- The positions of the set are taken in one order, each of them once. -/
  perm : (places log ++ rest).Perm affected.toList
  nodup : (places log ++ rest).Nodup
  /-- The log is what the handlers wanted, asked about the world before the commit, and what
  the world granted. -/
  asked : ∀ c ∈ log, (∃ g, (reaction explosion w c.position g).1 = .ok c.wanted) ∧
    c.granted = (c.wanted.replacement.isNone || w.isWritable c.position)
  /-- From the generator that shuffling leaves on, one conversion after the other leads to
  `converted`. Then either no position is left and the commit succeeds, or the handler of the
  next position fails and so does the commit. -/
  ended : ∃ g₂, Converts explosion w (Draw.shuffle affected.toList.toArray g).2 log converted g₂ ∧
    ((rest = [] ∧
      (∃ summary, outcome.result = .ok summary ∧ summary.dropped = emitted.length ∧
        summary.items = tally .all (emitted.map Prod.fst)) ∧
      ∀ q, outcome.world.voxel q = converted.voxel q ∨
        ∃ fire, explosion.fireIn? w.registry = some fire ∧ outcome.world.voxel q = .fire fire) ∨
    ∃ p later cause, rest = p :: later ∧ (reaction explosion converted p g₂).1 = .error cause ∧
      outcome.result = .error ⟨p, cause⟩ ∧
      (∀ q ∈ rest, outcome.world.voxel q = w.voxel q) ∧
      ∀ q, outcome.world.voxel q = converted.voxel q)
  /-- What falls is what was earned, kind by kind. -/
  fallen : outcome.world.drops.toList = w.drops.toList ++ emitted
  earned : ∀ item tag,
    tally (.kind item tag) (emitted.map Prod.fst) = tally (.kind item tag) (earnings log)
  /-- Nothing else changes. -/
  spared : ∀ q, affected.contains q = false ∨ w.isGuarded q = true →
    outcome.world.voxel q = w.voxel q
  population : outcome.world.population = w.population

namespace Converts

variable {explosion : Explosion} {w w' : World} {g g' : Generator} {log : List Conversion}

/-- Where no position occurs twice, every handler is asked about the world before
the run. -/
theorem asked (h : Converts explosion w g log w' g') (hnodup : (places log).Nodup) :
    ∀ c ∈ log, (∃ g, (reaction explosion w c.position g).1 = .ok c.wanted) ∧
      c.granted = (c.wanted.replacement.isNone || w.isWritable c.position) := by
  induction h with
  | nil w g => simp
  | @cons w w₁ w' g g₁ g' p wanted granted log handled fulfilled later ih =>
      simp only [places, List.map_cons, List.nodup_cons] at hnodup
      have hsetting := World.SameSetting.of_fulfil fulfilled
      intro c hc
      rcases List.mem_cons.mp hc with rfl | hc
      · exact ⟨⟨g, by rw [handled]⟩, World.granted_of_fulfil fulfilled⟩
      · obtain ⟨⟨g₀, hwanted⟩, hgranted⟩ := ih hnodup.2 c hc
        have hne : c.position ≠ p := by
          intro heq
          exact hnodup.1 (heq ▸ List.mem_map_of_mem hc)
        -- what was done at `p` is not seen at another position
        have hvoxel := World.voxel_of_fulfil_of_ne fulfilled hne
        rw [CommitRules.reaction_congr explosion hsetting hvoxel] at hwanted
        rw [hsetting.isWritable] at hgranted
        exact ⟨⟨g₀, hwanted⟩, hgranted⟩

end Converts

/-- **A commit is exact on success and on handler failure.** -/
theorem exists_exactCommit (rules : CommitRules) (explosion : Explosion)
    (affected : AffectedSet) (w : World) (g : Generator) (hmode : explosion.interaction ≠ .keep) :
    ∃ log rest emitted converted, ExactCommit explosion affected w g
      (rules.commit explosion affected w g).1 log rest emitted converted := by
  obtain ⟨order, log, w', g₂, hperm, hconv, hend⟩ := rules.commit_cases affected w g hmode
  obtain ⟨emitted, hearned, hdrops, hsummary⟩ := rules.settled_eq w log w'
  have hframe := rules.frame_commit explosion affected w g
  have hvoxel := rules.voxel_settled w log w'
  have hregistry := (hconv.sameSetting.trans (rules.sameSetting_settled w log w')).registry
  have hnodup : order.Nodup := hperm.nodup_iff.mpr affected.nodup_toList
  have hfallen : (rules.settled w log w').1.drops.toList = w.drops.toList ++ emitted := by
    rw [hdrops, hconv.drops_eq, Array.toList_appendList]
  rcases hend with ⟨rfl, final, g₃, hburn, hcommit⟩ | ⟨p, later, cause, g₃, rfl, hfail, hcommit⟩
  · refine ⟨log, [], emitted, w', ?_⟩
    have hburnt := rules.burnt_burn explosion (places log) (rules.settled w log w') g₂
    rw [hburn, hregistry] at hburnt
    rw [hcommit] at hframe ⊢
    exact {
      perm := by rwa [List.append_nil]
      nodup := by rwa [List.append_nil]
      asked := hconv.asked hnodup
      ended := by
        refine ⟨g₂, hconv, .inl ⟨rfl, ⟨final.2, rfl, ?_, ?_⟩, ?_⟩⟩
        · rw [hburnt.dropped, hsummary]
        · rw [hburnt.items, hsummary]
        · intro q
          rw [← hvoxel q]
          exact (hburnt.lit q).imp_right And.left
      fallen := by rw [hburnt.drops, hfallen]
      earned := fun item tag => hearned _
      spared := hframe.spared
      population := hframe.setting.population }
  · refine ⟨log, p :: later, emitted, w', ?_⟩
    have hlater : ∀ q ∈ p :: later, q ∉ places log := fun q hq hlog =>
      (List.nodup_append.mp hnodup).2.2 q hlog q hq rfl
    rw [hcommit] at hframe ⊢
    exact {
      perm := hperm
      nodup := hnodup
      asked := hconv.asked (List.nodup_append.mp hnodup).1
      ended := by
        refine ⟨g₂, hconv, .inr ⟨p, later, cause, rfl, by rw [hfail], rfl, ?_, hvoxel⟩⟩
        intro q hq
        exact (hvoxel q).trans (hconv.voxel_of_notMem (hlater q hq))
      fallen := hfallen
      earned := fun item tag => hearned _
      spared := hframe.spared
      population := hframe.setting.population }

/-- A row of three buttons, the middle one with metadata that buttons cannot have. -/
def World.buttonRow : World :=
  [0, 7, 1].zipIdx.foldl (fun w (metadata, x) => (w.place ⟨x, 0, 0⟩ ⟨⟨11⟩, metadata⟩).2)
    (.empty .builtin {})

/-- A blast at the origin that only sets off buttons. -/
def Explosion.pulse : Explosion where
  center := .zero
  radius := 4.0
  fire := true
  interaction := .triggerOnly
  source := none
  damageSource := .explosion .zero
  resistance := .registry
  knockback := .identity
  effects := {}
  validRadius_radius := by decide
  isFinite_center := by decide

/-- A blast next to a row with a broken button. -/
theorem exists_exactCommit_buttonRow : Explosion.pulse.interaction ≠ .keep ∧
    ∃ log rest emitted converted, ExactCommit .pulse
      (.ofList (Position.box ⟨0, 0, 0⟩ ⟨2, 0, 0⟩)) .buttonRow (.ofSeed 1)
      (CommitRules.commit ⟨16, 3⟩ .pulse (.ofList (Position.box ⟨0, 0, 0⟩ ⟨2, 0, 0⟩)) .buttonRow
        (.ofSeed 1)).1 log rest emitted converted :=
  ⟨by decide, exists_exactCommit _ _ _ _ _ (by decide)⟩

end Crater
