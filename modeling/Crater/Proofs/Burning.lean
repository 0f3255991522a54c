import Crater.Proofs.Conversion

/-!
# Burning

The fire pass runs over the positions of a commit and may light each of them.
`light_cases` says all that one position can do to the world and the summary;
`ignite_induction` carries any property of both through the whole pass. What
every pass keeps is collected in `Burnt`.
-/

namespace Crater

def Voxel.fire (fire : BlockId) : Voxel := .ofBlock ⟨fire, 0⟩

namespace CommitRules

/-- **All that one position of the fire pass can do**: nothing, where no fire can
burn; else a fire, or one more refusal. -/
theorem light_cases (fire : BlockId) (p : Position) (w : World) (s : CommitSummary) :
    (canBurn w p = false ∧ light fire p w s = (w, s)) ∨
    (canBurn w p = true ∧ w.isWritable p = false ∧
      light fire p w s =
        ((w.setVoxel p ⟨fire, 0⟩ .standard).2, { s with rejected := s.rejected + 1 })) ∨
    (canBurn w p = true ∧ w.isWritable p = true ∧
      light fire p w s =
        ((w.setVoxel p ⟨fire, 0⟩ .standard).2, { s with fires := s.fires + 1 })) := by
  unfold light
  have hset := w.setVoxel_fst p ⟨fire, 0⟩ .standard
  cases hburn : canBurn w p with
  | false => exact .inl ⟨rfl, by simp⟩
  | true =>
      cases hw : w.isWritable p with
      | false =>
          rw [hw] at hset
          exact .inr (.inl ⟨rfl, rfl, by simp [hset]⟩)
      | true =>
          rw [hw] at hset
          exact .inr (.inr ⟨rfl, rfl, by simp [hset]⟩)

/-- What every position keeps, the whole pass keeps. -/
theorem ignite_induction (rules : CommitRules) {fire : BlockId}
    {P : World × CommitSummary → Prop} : ∀ (ps : List Position) (state : World × CommitSummary)
    (g : Generator), P state → (∀ p ∈ ps, ∀ w s, P (w, s) → P (light fire p w s)) →
      P (ignite rules fire ps state g).1
  | [], _, _, hP, _ => hP
  | p :: rest, (w, s), g, hP, hstep => by
      have hrest := fun q hq => hstep q (List.mem_cons_of_mem p hq)
      rw [ignite, Draw.bind_apply]
      split
      · exact ignite_induction rules rest _ _ (hstep p List.mem_cons_self w s hP) hrest
      · exact ignite_induction rules rest _ _ hP hrest

/-- A fire burns only where nothing is. -/
theorem isEmptyVoxel_of_canBurn {w : World} {p : Position} (h : canBurn w p = true) :
    w.registry.isEmptyVoxel (w.voxel p) = true := by
  simp only [canBurn, Bool.and_eq_true] at h
  simpa [Registry.isEmptyVoxel, World.blockAt] using h.1

end CommitRules

/-- What a fire pass over `ps` leaves of a world and a summary; without a block for
fires there is no pass. -/
structure Burnt (fire? : Option BlockId) (ps : List Position)
    (before after : World × CommitSummary) : Prop where
  setting : World.SameSetting before.1 after.1
  drops : after.1.drops = before.1.drops
  /-- Only positions of the pass at which writes are accepted can change. -/
  spared : ∀ q, q ∉ ps ∨ before.1.isWritable q = false → after.1.voxel q = before.1.voxel q
  /-- And they change only from nothing to a fire. -/
  lit : ∀ q, after.1.voxel q = before.1.voxel q ∨
    (∃ fire, fire? = some fire ∧ after.1.voxel q = .fire fire) ∧
      before.1.registry.isEmptyVoxel (before.1.voxel q) = true
  changed : after.2.changed = before.2.changed
  dropped : after.2.dropped = before.2.dropped
  items : after.2.items = before.2.items

namespace Burnt

variable {fire : BlockId} {ps : List Position} {before : World × CommitSummary}

theorem refl (fire? : Option BlockId) (ps : List Position) (state : World × CommitSummary) :
    Burnt fire? ps state state :=
  ⟨.refl _, rfl, fun _ _ => rfl, fun _ => .inl rfl, rfl, rfl, rfl⟩

theorem light {p : Position} (hp : p ∈ ps) {w : World} {s : CommitSummary}
    (h : Burnt (some fire) ps before (w, s)) :
    Burnt (some fire) ps before (CommitRules.light fire p w s) := by
  obtain ⟨-, hl⟩ | ⟨-, hw, hl⟩ | ⟨hburn, hw, hl⟩ := CommitRules.light_cases fire p w s
  · rwa [hl]
  · rw [hl]
    have hvoxel := World.voxel_setVoxel_of_not_isWritable ⟨fire, 0⟩ .standard hw
    exact ⟨h.setting.trans (w.setVoxel_sameSetting _ _ _), (w.setVoxel_drops _ _ _).trans h.drops,
      fun q hq => (hvoxel q).trans (h.spared q hq), fun q => (hvoxel q).symm ▸ h.lit q, h.changed,
      h.dropped, h.items⟩
  · rw [hl]
    refine ⟨h.setting.trans (w.setVoxel_sameSetting _ _ _), (w.setVoxel_drops _ _ _).trans h.drops,
      ?_, ?_, h.changed, h.dropped, h.items⟩
    · intro q hq
      have hqp : q ≠ p := by
        rintro rfl
        rcases hq with hq | hq
        · exact hq hp
        · rw [← h.setting.isWritable q, show (w, s).1 = w from rfl, hw] at hq
          cases hq
      exact (World.voxel_setVoxel_of_ne _ _ hqp).trans (h.spared q hq)
    · intro q
      by_cases hqp : q = p
      · subst hqp
        refine .inr ⟨⟨fire, rfl, World.voxel_setVoxel_self _ _ hw⟩, ?_⟩
        -- the voxel is empty now; if this pass already lit it, it was empty before that
        rcases h.lit q with hq | ⟨-, hq⟩
        · have hempty := CommitRules.isEmptyVoxel_of_canBurn hburn
          rwa [h.setting.registry, show w.voxel q = before.1.voxel q from hq] at hempty
        · exact hq
      · rw [World.voxel_setVoxel_of_ne _ _ hqp]
        exact h.lit q

end Burnt

theorem CommitRules.burnt_ignite (rules : CommitRules) (fire : BlockId) (ps : List Position)
    (state : World × CommitSummary) (g : Generator) :
    Burnt (some fire) ps state (rules.ignite fire ps state g).1 :=
  rules.ignite_induction ps state g (.refl _ ps state) fun _ hp _ _ h => h.light hp

end Crater
