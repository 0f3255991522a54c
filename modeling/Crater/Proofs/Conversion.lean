import Crater.Commit
import Crater.Proofs.Draws
import Crater.Proofs.Storage
import Crater.Proofs.Tally

/-!
# Conversions

A commit converts one voxel after the other. What it did so far is a log of
conversions: at which position, what the handler wanted, and whether the world
granted it. `Converts` says that a log leads from one world to another, and
`convert_cases` that a run of the commit is such a log followed by nothing or by
a position whose handler fails.

What a run keeps is read off the log by induction: positions outside the log
and positions where no write is accepted hold what they held.
-/

namespace Crater

structure Conversion where
  position : Position
  /-- What the handler wanted done. -/
  wanted : HitResult
  /-- Whether the world accepted the replacement, if there was one. -/
  granted : Bool

/-- The drops that fall: those of a refused replacement are withheld. -/
def Conversion.earned (c : Conversion) : List ItemStack := if c.granted then c.wanted.drops else []

def earnings (log : List Conversion) : List ItemStack := log.flatMap Conversion.earned

def places (log : List Conversion) : List Position := log.map Conversion.position

/-- Puts a replacement in place, if there is one, and tells whether that was not
refused. -/
def World.fulfil (w : World) (p : Position) : Option BlockState → Bool × World
  | none => (true, w)
  | some state => w.setVoxel p state .standard

/-- A summary with one more conversion. Only replacements count. -/
def CommitSummary.count (s : CommitSummary) (c : Conversion) : CommitSummary :=
  if c.wanted.replacement.isNone then s
  else if c.granted then { s with changed := s.changed + 1 }
  else { s with rejected := s.rejected + 1 }

namespace CommitProgress

def note (progress : CommitProgress) (c : Conversion) (world : World) : CommitProgress where
  world
  pile := progress.pile.addAll c.earned c.position
  summary := progress.summary.count c

def noteAll (progress : CommitProgress) (log : List Conversion) (world : World) :
    CommitProgress where
  world
  pile := log.foldl (fun pile c => pile.addAll c.earned c.position) progress.pile
  summary := log.foldl CommitSummary.count progress.summary

theorem noteAll_cons (progress : CommitProgress) (c : Conversion) (log : List Conversion)
    (w₁ world : World) :
    (progress.note c w₁).noteAll log world = progress.noteAll (c :: log) world := rfl

theorem apply_eq (progress : CommitProgress) (p : Position) (wanted : HitResult) :
    progress.apply p wanted =
      progress.note ⟨p, wanted, (progress.world.fulfil p wanted.replacement).1⟩
        (progress.world.fulfil p wanted.replacement).2 := by
  obtain ⟨drops, replacement⟩ := wanted
  cases replacement with
  | none => rfl
  | some state =>
      simp only [apply, World.fulfil, note, Conversion.earned, CommitSummary.count]
      split <;> simp_all [DropPile.addAll]

end CommitProgress

/-! ## Fulfilling what a handler wants -/

section
variable {w w₁ : World} {p : Position} {replacement : Option BlockState} {granted : Bool}

theorem World.SameSetting.of_fulfil (h : w.fulfil p replacement = (granted, w₁)) :
    SameSetting w w₁ := by
  cases replacement with
  | none =>
      cases h
      exact .refl w
  | some state =>
      have hstep := w.setVoxel_sameSetting p state .standard
      rwa [show w.setVoxel p state .standard = (granted, w₁) from h] at hstep

namespace World

theorem drops_of_fulfil (h : w.fulfil p replacement = (granted, w₁)) : w₁.drops = w.drops := by
  cases replacement with
  | none =>
      cases h
      rfl
  | some state =>
      have hstep := w.setVoxel_drops p state .standard
      rwa [show w.setVoxel p state .standard = (granted, w₁) from h] at hstep

theorem granted_of_fulfil (h : w.fulfil p replacement = (granted, w₁)) :
    granted = (replacement.isNone || w.isWritable p) := by
  cases replacement with
  | none =>
      cases h
      rfl
  | some state =>
      have hstep := w.setVoxel_fst p state .standard
      rw [show w.setVoxel p state .standard = (granted, w₁) from h] at hstep
      simpa using hstep

/-- Only the voxel of the position is touched. -/
theorem voxel_of_fulfil_of_ne (h : w.fulfil p replacement = (granted, w₁)) {q : Position}
    (hq : q ≠ p) : w₁.voxel q = w.voxel q := by
  cases replacement with
  | none =>
      cases h
      rfl
  | some state =>
      have hstep := voxel_setVoxel_of_ne (w := w) state .standard hq
      rwa [show w.setVoxel p state .standard = (granted, w₁) from h] at hstep

theorem voxel_of_fulfil_some {state : BlockState} (h : w.fulfil p (some state) = (granted, w₁))
    (hw : w.isWritable p = true) : w₁.voxel p = .ofBlock state := by
  have hstep := voxel_setVoxel_self state .standard hw
  rwa [show w.setVoxel p state .standard = (granted, w₁) from h] at hstep

theorem voxel_of_fulfil_of_not_isWritable (h : w.fulfil p replacement = (granted, w₁))
    (hw : w.isWritable p = false) (q : Position) : w₁.voxel q = w.voxel q := by
  cases replacement with
  | none =>
      cases h
      rfl
  | some state =>
      have hstep := voxel_setVoxel_of_not_isWritable state .standard hw q
      rwa [show w.setVoxel p state .standard = (granted, w₁) from h] at hstep

end World

end

/-! ## Logs -/

/-- The conversions of a log, one after the other and each as its handler wants
it, lead from one world and generator to another. -/
inductive Converts (explosion : Explosion) :
    World → Generator → List Conversion → World → Generator → Prop
  | nil (w : World) (g : Generator) : Converts explosion w g [] w g
  | cons {w w₁ w' : World} {g g₁ g' : Generator} {p : Position} {wanted : HitResult}
      {granted : Bool} {log : List Conversion}
      (handled : CommitRules.reaction explosion w p g = (.ok wanted, g₁))
      (fulfilled : w.fulfil p wanted.replacement = (granted, w₁))
      (later : Converts explosion w₁ g₁ log w' g') :
      Converts explosion w g (⟨p, wanted, granted⟩ :: log) w' g'

namespace Converts

variable {explosion : Explosion} {w w' : World} {g g' : Generator} {log : List Conversion}

theorem sameSetting (h : Converts explosion w g log w' g') : World.SameSetting w w' := by
  induction h with
  | nil w g => exact .refl w
  | cons handled fulfilled later ih => exact (World.SameSetting.of_fulfil fulfilled).trans ih

theorem drops_eq (h : Converts explosion w g log w' g') : w'.drops = w.drops := by
  induction h with
  | nil w g => rfl
  | cons handled fulfilled later ih => exact ih.trans (World.drops_of_fulfil fulfilled)

/-- Positions outside the log hold what they held. -/
theorem voxel_of_notMem (h : Converts explosion w g log w' g') {q : Position}
    (hq : q ∉ places log) : w'.voxel q = w.voxel q := by
  induction h with
  | nil w g => rfl
  | cons handled fulfilled later ih =>
      simp only [places, List.map_cons, List.mem_cons, not_or] at hq
      exact (ih hq.2).trans (World.voxel_of_fulfil_of_ne fulfilled hq.1)

/-- Positions where no write is accepted hold what they held. -/
theorem voxel_of_not_isWritable (h : Converts explosion w g log w' g') {q : Position}
    (hq : w.isWritable q = false) : w'.voxel q = w.voxel q := by
  induction h with
  | nil w g => rfl
  | @cons w w₁ w' g g₁ g' p wanted granted log handled fulfilled later ih =>
      have hsetting := World.SameSetting.of_fulfil fulfilled
      rw [ih ((hsetting.isWritable q).trans hq)]
      -- a refused write leaves even its own position alone
      by_cases hqp : q = p
      · rw [World.voxel_of_fulfil_of_not_isWritable fulfilled (hqp ▸ hq)]
      · exact World.voxel_of_fulfil_of_ne fulfilled hqp

end Converts

namespace CommitRules

/-- **A run of conversions.** It is a log, after which either no position is left
or the handler of the next one fails; that position and all later ones are not
converted. -/
theorem convert_cases (explosion : Explosion) :
    ∀ (ps : List Position) (progress : CommitProgress) (g : Generator),
      ∃ log w' g', Converts explosion progress.world g log w' g' ∧
        ((ps = places log ∧
          convert explosion ps progress g = ((progress.noteAll log w', none), g')) ∨
        ∃ p later cause g'', ps = places log ++ p :: later ∧
          reaction explosion w' p g' = (.error cause, g'') ∧
          convert explosion ps progress g =
            ((progress.noteAll log w', some ⟨p, cause⟩), g''))
  | [], progress, g => ⟨[], progress.world, g, .nil _ _, .inl ⟨rfl, rfl⟩⟩
  | p :: rest, progress, g => by
      rcases hreact : reaction explosion progress.world p g with ⟨cause | wanted, g₁⟩
      · -- the first handler fails, and nothing is converted
        refine ⟨[], progress.world, g, .nil _ _, .inr ⟨p, rest, cause, g₁, rfl, hreact, ?_⟩⟩
        rw [convert, Draw.bind_apply, hreact]
        rfl
      · rcases hful : progress.world.fulfil p wanted.replacement with ⟨granted, w₁⟩
        have hstep : convert explosion (p :: rest) progress g =
            convert explosion rest (progress.note ⟨p, wanted, granted⟩ w₁) g₁ := by
          rw [convert, Draw.bind_apply, hreact]
          simp only [progress.apply_eq, hful]
        obtain ⟨log, w', g', hconv, hend⟩ :=
          convert_cases explosion rest (progress.note ⟨p, wanted, granted⟩ w₁) g₁
        -- the rest of the run has a log of its own, and this conversion goes before it
        refine ⟨⟨p, wanted, granted⟩ :: log, w', g', .cons hreact hful hconv, ?_⟩
        rw [hstep]
        simp only [CommitProgress.noteAll_cons] at hend
        rcases hend with ⟨rfl, hrun⟩ | ⟨q, later, cause, g'', rfl, hfail, hrun⟩
        · exact .inl ⟨rfl, hrun⟩
        · exact .inr ⟨q, later, cause, g'', rfl, hfail, hrun⟩

/-- A log is the run of conversions over its positions. -/
theorem convert_of_converts {explosion : Explosion} {w w' : World} {g g' : Generator}
    {log : List Conversion} (h : Converts explosion w g log w' g') :
    ∀ progress : CommitProgress, progress.world = w →
      convert explosion (places log) progress g = ((progress.noteAll log w', none), g') := by
  induction h with
  | nil w g =>
      rintro progress rfl
      rfl
  | cons handled fulfilled later ih =>
      rintro progress rfl
      rw [places, List.map_cons, convert, Draw.bind_apply, handled]
      simp only [progress.apply_eq, fulfilled]
      exact ih _ rfl

end CommitRules

end Crater
