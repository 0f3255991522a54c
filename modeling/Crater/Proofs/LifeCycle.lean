import Crater.Proofs.Calls
import Crater.Proofs.Strikes

/-!
# Life cycle

An explosion goes from one phase to the next and never back. `Lawful` says what a
single call may do, whatever explosion, world and generator it meets: it is
refused out of turn, and then nothing changes; only the call that detonates hits
entities; only the call that finalizes touches voxels, drops and effects.

A life is a list of turns. Since phases only go on, each of the two decisive calls
goes through at most once in a life, and what holds of one such call holds of all
of the life.
-/

namespace Crater

inductive Phase.Next : Phase → Phase → Prop
  | detonate : Next .created .detonated
  | cancel : Next .created .cancelled
  | finalize : Next .detonated .finalized

def Phase.rank : Phase → Nat
  | created => 0
  | detonated => 1
  | cancelled | finalized => 2

theorem Phase.Next.rank_lt {a b : Phase} (h : Next a b) : a.rank < b.rank := by
  cases h <;> decide

/-- The hits that an entity of a world has taken; none if there is no such entity. -/
def World.damageLog (w : World) (id : EntityId) : List (DamageSource × Float32) :=
  ((w.entity? id).map Entity.damageLog).getD []

/-! ## One turn -/

/-- A call, and what it meets: a world, which may or may not be the one that the turn
before left, and a generator. -/
structure Turn where
  world : World
  call : Call
  generator : Generator

namespace Detonation

def take (d : Detonation) (t : Turn) : DetonationOutcome Answer × Generator :=
  d.perform t.world t.call t.generator

def detonatesIn (d : Detonation) (t : Turn) : Bool :=
  d.phase == .created && (d.take t).1.detonation.phase == .detonated

def finalizesIn (d : Detonation) (t : Turn) : Bool :=
  d.phase == .detonated && (d.take t).1.detonation.phase == .finalized

end Detonation

/-- What a turn of an explosion may do. -/
structure Lawful (d : Detonation) (t : Turn) : Prop where
  phase : (d.take t).1.detonation.phase = d.phase ∨
    Phase.Next d.phase (d.take t).1.detonation.phase
  explosion : (d.take t).1.detonation.explosion = d.explosion
  /-- A call out of turn is refused. -/
  early : d.phase ≠ t.call.turn →
    (d.take t).1.result = .error (.invalidState t.call.operation d.phase)
  /-- A refusal changes nothing. -/
  refused : ∀ operation phase, (d.take t).1.result = .error (.invalidState operation phase) →
    d.phase ≠ t.call.turn ∧ (d.take t).1.detonation = d ∧ (d.take t).1.world = t.world ∧
      (d.take t).2 = t.generator
  /-- A veto calls the explosion off and changes nothing else. -/
  vetoed : ∀ veto, t.call = .detonateUnless veto → veto d.explosion = true → d.phase = .created →
    d.take t = (⟨{ d with phase := .cancelled }, t.world, .ok (.detonated false)⟩, t.generator)
  unvetoed : ∀ veto, t.call = .detonateUnless veto → veto d.explosion = false →
    d.take t = d.take { t with call := .detonate }
  /-- Voxels, drops and effects change in the turn that finalizes only. -/
  ground : d.finalizesIn t = false → (d.take t).1.world.grid = t.world.grid ∧
    (d.take t).1.world.drops = t.world.drops ∧ (d.take t).1.world.effects = t.world.effects
  /-- To finalize in turn is to end as finalized, even if the commit fails. -/
  finalized : ∀ particles, t.call = .finalize particles → d.phase = .detonated →
    (d.take t).1.detonation.phase = .finalized
  /-- Entities change in the turn that detonates only. -/
  population : d.detonatesIn t = false → (d.take t).1.world.population = t.world.population
  /-- And there each of them takes at most one hit. -/
  hits : ∀ id, ∃ hits, hits.length ≤ 1 ∧
    (d.take t).1.world.damageLog id = t.world.damageLog id ++ hits
  ended : d.phase = .cancelled ∨ d.phase = .finalized →
    (d.take t).1.detonation = d ∧ (d.take t).1.world = t.world

namespace Detonation.Performed

variable {d : Detonation} {w : World} {g : Generator} {call : Call}
  {made : DetonationOutcome Answer × Generator}

theorem phase (h : Performed d w g call made) :
    made.1.detonation.phase = d.phase ∨ Phase.Next d.phase made.1.detonation.phase := by
  cases h with
  | refused | endless | spared => exact .inl rfl
  | struck turn started =>
      rw [turn, started.turn]
      exact .inr .detonate
  | vetoed turn veto asked =>
      rw [turn, asked]
      exact .inr .cancel
  | finalized turn particles asked =>
      rw [turn, asked]
      exact .inr .finalize

theorem explosion (h : Performed d w g call made) :
    made.1.detonation.explosion = d.explosion := by
  cases h <;> rfl

theorem early (h : Performed d w g call made) (hearly : d.phase ≠ call.turn) :
    made = (⟨d, w, .error (.invalidState call.operation d.phase)⟩, g) := by
  cases h with
  | refused => rfl
  | endless turn | struck turn | vetoed turn | spared turn | finalized turn =>
      exact absurd turn hearly

/-- Only a call out of turn is refused: what a commit complains of is a handler. -/
theorem ne_turn (h : Performed d w g call made) {operation : Operation} {phase : Phase}
    (hrefused : made.1.result = .error (.invalidState operation phase)) :
    d.phase ≠ call.turn := by
  cases h with
  | refused hearly => exact hearly
  | endless | struck | vetoed | spared => cases hrefused
  | finalized turn particles asked pitch rules outcome =>
      obtain ⟨world, fault | summary⟩ := outcome <;> cases hrefused

theorem vetoed_eq (h : Performed d w g call made) {veto : Explosion → Bool}
    (hcall : call = .detonateUnless veto) (hveto : veto d.explosion = true)
    (hphase : d.phase = .created) :
    made = (⟨{ d with phase := .cancelled }, w, .ok (.detonated false)⟩, g) := by
  subst hcall
  cases h with
  | refused hearly => exact absurd hphase hearly
  | endless turn started | struck turn started =>
      rw [Call.Starts, hveto] at started
      cases started
  | vetoed => rfl
  | spared turn asked | finalized turn particles asked => cases asked

theorem ground (h : Performed d w g call made)
    (hkeep : d.phase ≠ .detonated ∨ made.1.detonation.phase ≠ .finalized) :
    made.1.world.grid = w.grid ∧ made.1.world.drops = w.drops ∧
      made.1.world.effects = w.effects := by
  cases h with
  | refused | endless | vetoed | spared => exact ⟨rfl, rfl, rfl⟩
  | struck =>
      obtain ⟨population, hdeliver⟩ := deliver_eq d.explosion.damageSource (d.impacts w) w
      rw [hdeliver]
      exact ⟨rfl, rfl, rfl⟩
  | finalized turn particles asked =>
      rw [turn, asked] at hkeep
      rcases hkeep with hkeep | hkeep <;> exact absurd rfl hkeep

theorem finalized_phase (h : Performed d w g call made) {particles : Bool}
    (hcall : call = .finalize particles) (hphase : d.phase = .detonated) :
    made.1.detonation.phase = .finalized := by
  subst hcall
  cases h with
  | refused hearly => exact absurd hphase hearly
  | endless turn started | struck turn started => cases started
  | vetoed turn veto asked | spared turn asked => cases asked
  | finalized => rfl

theorem population (h : Performed d w g call made)
    (hkeep : d.phase ≠ .created ∨ made.1.detonation.phase ≠ .detonated) :
    made.1.world.population = w.population := by
  cases h with
  | refused | endless | vetoed | spared => rfl
  | struck turn started =>
      rw [turn, started.turn] at hkeep
      rcases hkeep with hkeep | hkeep <;> exact absurd rfl hkeep
  | finalized turn particles asked pitch rules outcome g₁ g' committed =>
      have hcommit := (rules.frame_commit d.explosion d.affected
        (d.present particles pitch w) g₁).setting.population
      obtain ⟨effects, bus, hpresent⟩ := d.present_eq particles pitch w
      rw [committed, hpresent] at hcommit
      exact hcommit

theorem hits (h : Performed d w g call made) (id : EntityId) :
    ∃ hits, hits.length ≤ 1 ∧ made.1.world.damageLog id = w.damageLog id ++ hits := by
  have hnone (hsame : made.1.world.population = w.population) :
      ∃ hits, hits.length ≤ 1 ∧ made.1.world.damageLog id = w.damageLog id ++ hits := by
    refine ⟨[], Nat.zero_le 1, ?_⟩
    rw [World.damageLog, World.entity?, hsame, List.append_nil]
    rfl
  by_cases hkeep : d.phase ≠ .created ∨ made.1.detonation.phase ≠ .detonated
  · exact hnone (h.population hkeep)
  · -- only a blast is left, and its report has at most one impact on each entity
    cases h with
    | refused | endless | vetoed | spared => exact hnone rfl
    | finalized => simp at hkeep
    | struck =>
        simp only [World.damageLog, entity?_deliver _ (d.isSimple_impacts w)]
        cases (d.impacts w).get? id with
        | none => exact ⟨[], Nat.zero_le 1, (List.append_nil _).symm⟩
        | some impact =>
            cases w.entity? id with
            | none => exact ⟨[], Nat.zero_le 1, rfl⟩
            | some e => exact ⟨[(d.explosion.damageSource, impact.damage)], Nat.le_refl 1, rfl⟩

theorem ended (h : Performed d w g call made)
    (hended : d.phase = .cancelled ∨ d.phase = .finalized) :
    made.1.detonation = d ∧ made.1.world = w := by
  have hearly : d.phase ≠ call.turn := by
    intro hturn
    rw [hturn] at hended
    cases call <;> rcases hended with hended | hended <;> cases hended
  rw [h.early hearly]
  exact ⟨rfl, rfl⟩

end Detonation.Performed

/-- **Every turn of every explosion is lawful.** -/
theorem Detonation.lawful_take (d : Detonation) (t : Turn) : Lawful d t := by
  have h : Performed d t.world t.generator t.call (d.take t) := d.performed _ _ _
  exact {
    phase := h.phase
    explosion := h.explosion
    early := fun hearly => by rw [h.early hearly]
    refused := by
      intro operation phase hrefused
      have hearly := h.ne_turn hrefused
      refine ⟨hearly, ?_⟩
      rw [h.early hearly]
      exact ⟨rfl, rfl, rfl⟩
    vetoed := fun veto hcall hveto hphase => h.vetoed_eq hcall hveto hphase
    unvetoed := by
      intro veto hcall hveto
      rw [take, take, hcall, d.perform_detonateUnless t.world hveto]
    ground := by
      intro hnot
      refine h.ground ?_
      by_contra hboth
      simp only [not_or, not_not] at hboth
      simp [finalizesIn, hboth] at hnot
    finalized := fun particles hcall hphase => h.finalized_phase hcall hphase
    population := by
      intro hnot
      refine h.population ?_
      by_contra hboth
      simp only [not_or, not_not] at hboth
      simp [detonatesIn, hboth] at hnot
    hits := h.hits
    ended := h.ended }

/-! ## Whole lives -/

namespace Detonation

def after (d : Detonation) (turns : List Turn) : Detonation :=
  turns.foldl (fun d t => (d.take t).1.detonation) d

/-- The turns of a life, each with the explosion as it then is. -/
def course : Detonation → List Turn → List (Detonation × Turn)
  | _, [] => []
  | d, t :: rest => (d, t) :: course (d.take t).1.detonation rest

def hitsIn (id : EntityId) (d : Detonation) (t : Turn) : Nat :=
  ((d.take t).1.world.damageLog id).length - (t.world.damageLog id).length

theorem rank_le_take (d : Detonation) (t : Turn) :
    d.phase.rank ≤ (d.take t).1.detonation.phase.rank := by
  rcases (d.lawful_take t).phase with hsame | hnext
  · rw [hsame]
  · exact hnext.rank_lt.le

/-- **What leaves a rank behind happens once**: a turn that only an explosion of rank `k`
can take, and that takes it beyond. -/
theorem countP_course_le (test : Detonation → Turn → Bool) (k : Nat)
    (hleaves : ∀ d t, test d t = true →
      d.phase.rank = k ∧ k < (d.take t).1.detonation.phase.rank) :
    ∀ (turns : List Turn) (d : Detonation),
      ((d.course turns).countP fun m => test m.1 m.2) ≤ if d.phase.rank ≤ k then 1 else 0
  | [], d => Nat.zero_le _
  | t :: rest, d => by
      have hlater := countP_course_le test k hleaves rest (d.take t).1.detonation
      have hrank := d.rank_le_take t
      rw [course, List.countP_cons]
      by_cases htest : test d t = true
      · -- rank `k` is left for good, so no later turn counts
        obtain ⟨hhere, hbeyond⟩ := hleaves d t htest
        rw [if_neg (by omega)] at hlater
        rw [if_pos htest, if_pos hhere.le]
        omega
      · rw [if_neg htest, Nat.add_zero]
        refine hlater.trans ?_
        split <;> split <;> omega

theorem countP_detonatesIn_le (d : Detonation) (turns : List Turn) :
    ((d.course turns).countP fun m => m.1.detonatesIn m.2) ≤ 1 := by
  refine (countP_course_le detonatesIn 0 ?_ turns d).trans (by split <;> decide)
  intro d t hdetonates
  simp only [detonatesIn, Bool.and_eq_true, beq_iff_eq] at hdetonates
  rw [hdetonates.1, hdetonates.2]
  decide

theorem countP_finalizesIn_le (d : Detonation) (turns : List Turn) :
    ((d.course turns).countP fun m => m.1.finalizesIn m.2) ≤ 1 := by
  refine (countP_course_le finalizesIn 1 ?_ turns d).trans (by split <;> decide)
  intro d t hfinalizes
  simp only [finalizesIn, Bool.and_eq_true, beq_iff_eq] at hfinalizes
  rw [hfinalizes.1, hfinalizes.2]
  decide

/-- An entity is hit once at most, and only when the explosion is detonated. -/
theorem hitsIn_le (id : EntityId) (d : Detonation) (t : Turn) :
    d.hitsIn id t ≤ if d.detonatesIn t then 1 else 0 := by
  have hlawful := d.lawful_take t
  unfold hitsIn
  cases hdetonates : d.detonatesIn t with
  | false =>
      rw [World.damageLog, World.entity?, hlawful.population hdetonates]
      exact (Nat.sub_self _).le
  | true =>
      obtain ⟨hits, hfew, happend⟩ := hlawful.hits id
      rw [happend, List.length_append, Nat.add_sub_cancel_left]
      exact hfew

theorem sum_hitsIn_le (id : EntityId) : ∀ ms : List (Detonation × Turn),
    (ms.map fun m => m.1.hitsIn id m.2).sum ≤ ms.countP fun m => m.1.detonatesIn m.2
  | [] => Nat.le_refl 0
  | m :: rest => by
      have hfirst := hitsIn_le id m.1 m.2
      have hrest := sum_hitsIn_le id rest
      rw [List.map_cons, List.sum_cons, List.countP_cons]
      omega

/-- Nothing happens to an explosion, or by it, when it is over. -/
theorem course_of_ended : ∀ (turns : List Turn) {d : Detonation},
    d.phase = .cancelled ∨ d.phase = .finalized →
      d.after turns = d ∧ ∀ m ∈ d.course turns, (m.1.take m.2).1.world = m.2.world
  | [], d, _ => ⟨rfl, by simp [course]⟩
  | t :: rest, d, hended => by
      obtain ⟨hsame, hworld⟩ := (d.lawful_take t).ended hended
      obtain ⟨hafter, hlater⟩ := course_of_ended rest hended
      constructor
      · rw [after, List.foldl_cons, hsame]
        exact hafter
      · intro m hm
        rw [course, hsame] at hm
        rcases List.mem_cons.mp hm with rfl | hm
        · exact hworld
        · exact hlater m hm

end Detonation

structure LifeCycle (d : Detonation) (turns : List Turn) : Prop where
  lawful : ∀ m ∈ d.course turns, Lawful m.1 m.2
  detonatedOnce : ((d.course turns).countP fun m => m.1.detonatesIn m.2) ≤ 1
  finalizedOnce : ((d.course turns).countP fun m => m.1.finalizesIn m.2) ≤ 1
  /-- In all turns together, each entity takes at most one hit. -/
  hitOnce : ∀ id, ((d.course turns).map fun m => m.1.hitsIn id m.2).sum ≤ 1
  /-- When it is over, it is over. -/
  ended : ∀ earlier later, turns = earlier ++ later →
    ((d.after earlier).phase = .cancelled ∨ (d.after earlier).phase = .finalized) →
      d.after turns = d.after earlier ∧
        ∀ m ∈ (d.after earlier).course later, (m.1.take m.2).1.world = m.2.world

/-- **The life of an explosion**, whatever is called in whichever order. -/
theorem Detonation.lifeCycle (d : Detonation) (turns : List Turn) : LifeCycle d turns where
  lawful := fun m _ => m.1.lawful_take m.2
  detonatedOnce := d.countP_detonatesIn_le turns
  finalizedOnce := d.countP_finalizesIn_le turns
  hitOnce := fun id => (sum_hitsIn_le id _).trans (d.countP_detonatesIn_le turns)
  ended := by
    rintro earlier later rfl hended
    have hafter : d.after (earlier ++ later) = (d.after earlier).after later := List.foldl_append
    rw [hafter]
    exact course_of_ended later hended

end Crater
