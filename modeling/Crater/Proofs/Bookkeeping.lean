import Crater.Proofs.CallLists
import Crater.Proofs.Builtin

/-!
# Bookkeeping

The summary of a commit and the traces that the commit leaves in its world are
one account. Each replacement and each fire that the summary counts is one
notice to observers, and they get no other. Each stack that it counts lies on
the ground. And no replaced voxel yields more than one item.
-/

namespace Crater

def Event.isChange : Event → Bool
  | voxelChanged .. => true
  | effect _ | playerKnockback .. => false

namespace World

/-- Whether some calls have `n` changed voxels to tell about, and nothing else. -/
def Tells (w : World) (calls : List WorldCall) (n : ℕ) : Prop :=
  (w.noticesAll calls).length = n ∧ ∀ event ∈ w.noticesAll calls, event.isChange = true

variable {w : World} {p : Position}

theorem tells_nil (w : World) : w.Tells [] 0 := ⟨rfl, fun _ h => nomatch h⟩

theorem Tells.append {earlier later : List WorldCall} {m n : ℕ} (hm : w.Tells earlier m)
    (hn : (w.obeyAll earlier).Tells later n) : w.Tells (earlier ++ later) (m + n) := by
  unfold Tells
  rw [noticesAll_append, List.length_append, hm.1, hn.1]
  refine ⟨rfl, ?_⟩
  intro event hevent
  rcases List.mem_append.mp hevent with h | h
  · exact hm.2 event h
  · exact hn.2 event h

theorem tells_setVoxel (w : World) (p : Position) (state : BlockState) :
    w.Tells [.store (.setVoxel p state .standard)] (if w.isWritable p then 1 else 0) := by
  have hsync : WriteFlags.standard.has .sync = true := by decide
  simp only [Tells, noticesAll, notices, setVoxel_fst, hsync, Bool.and_true, List.append_nil]
  cases w.isWritable p with
  | true => exact ⟨rfl, by simp [Event.isChange]⟩
  | false => exact tells_nil w

/-- Letting items fall is no news. -/
theorem tells_drops (w : World) (fallen : List (ItemStack × Vec3)) :
    w.Tells (fallen.map fun (stack, position) => .drop stack position) 0 := by
  induction fallen generalizing w with
  | nil => exact tells_nil w
  | cons first rest ih => exact ih _

end World

namespace CommitRules

/-! ## Notices -/

/-- A conversion tells of the replacement that it counts. -/
theorem tells_fulfilCalls {w w₁ : World} {p : Position} {wanted : HitResult} {granted : Bool}
    (h : w.fulfil p wanted.replacement = (granted, w₁)) (s : CommitSummary) :
    ∃ n, w.Tells (fulfilCalls p wanted.replacement) n ∧
      (s.count ⟨p, wanted, granted⟩).changed = s.changed + n ∧
      (s.count ⟨p, wanted, granted⟩).fires = s.fires := by
  have hgranted := World.granted_of_fulfil h
  cases hreplacement : wanted.replacement with
  | none =>
      refine ⟨0, w.tells_nil, ?_⟩
      simp [CommitSummary.count, hreplacement]
  | some state =>
      refine ⟨_, w.tells_setVoxel p state, ?_⟩
      rw [hreplacement, Option.isNone_some, Bool.false_or] at hgranted
      subst hgranted
      cases hw : w.isWritable p <;> simp [CommitSummary.count, hreplacement]

/-- Conversions tell of the replacements that they count. -/
theorem tells_convertCalls (explosion : Explosion) (ps : List Position)
    (progress : CommitProgress) (g : Generator) :
    ∃ n, progress.world.Tells (convertCalls explosion ps progress.world g) n ∧
      (convert explosion ps progress g).1.1.summary.changed = progress.summary.changed + n ∧
      (convert explosion ps progress g).1.1.summary.fires = progress.summary.fires := by
  induction ps generalizing progress g with
  | nil => exact ⟨0, progress.world.tells_nil, rfl, rfl⟩
  | cons p rest ih =>
    rw [convert, convertCalls, Draw.bind_apply]
    rcases hreact : reaction explosion progress.world p g with ⟨cause | wanted, g₁⟩
    · exact ⟨0, progress.world.tells_nil, rfl, rfl⟩
    · rcases hful : progress.world.fulfil p wanted.replacement with ⟨granted, w₁⟩
      have happly : progress.apply p wanted = progress.note ⟨p, wanted, granted⟩ w₁ := by
        rw [progress.apply_eq, hful]
      have hworld : progress.world.obeyAll (fulfilCalls p wanted.replacement) = w₁ := by
        rw [World.obeyAll_fulfilCalls, hful]
      -- the later notices are those of the world that this conversion leaves
      obtain ⟨m, htells, hchanged, hfires⟩ := tells_fulfilCalls hful progress.summary
      obtain ⟨n, hlater, hchanged', hfires'⟩ := ih (progress.note ⟨p, wanted, granted⟩ w₁) g₁
      simp only [happly, hworld]
      refine ⟨m + n, htells.append (hworld.symm ▸ hlater), ?_, ?_⟩
      · rw [hchanged', ← Nat.add_assoc, ← hchanged]
        rfl
      · rw [hfires', ← hfires]
        rfl

theorem tells_lightCalls (fire : BlockId) (p : Position) (w : World) (s : CommitSummary) :
    ∃ n, w.Tells (lightCalls fire p w) n ∧ (light fire p w s).2.fires = s.fires + n := by
  unfold lightCalls
  rcases light_cases fire p w s with ⟨hburn, hl⟩ | ⟨hburn, hw, hl⟩ | ⟨hburn, hw, hl⟩
  · rw [hl, hburn]
    exact ⟨0, w.tells_nil, rfl⟩
  · have htells := w.tells_setVoxel p ⟨fire, 0⟩
    rw [hw] at htells
    rw [hl, hburn]
    exact ⟨0, htells, rfl⟩
  · have htells := w.tells_setVoxel p ⟨fire, 0⟩
    rw [hw] at htells
    rw [hl, hburn]
    exact ⟨1, htells, rfl⟩

/-- A fire pass tells of the fires that it counts. -/
theorem tells_igniteCalls (rules : CommitRules) (fire : BlockId) (ps : List Position) (w : World)
    (s : CommitSummary) (g : Generator) :
    ∃ n, w.Tells (rules.igniteCalls fire ps w g) n ∧
      (rules.ignite fire ps (w, s) g).1.2.fires = s.fires + n := by
  induction ps generalizing w s g with
  | nil => exact ⟨0, w.tells_nil, rfl⟩
  | cons p rest ih =>
    rw [ignite, igniteCalls, Draw.bind_apply]
    rcases Draw.below rules.ignitionChance g with ⟨drawn, g₁⟩
    by_cases hdrawn : drawn = 0
    · obtain ⟨m, htells, hfires⟩ := tells_lightCalls fire p w s
      have hlight : light fire p w s = (w.obeyAll (lightCalls fire p w), (light fire p w s).2) :=
        light_twin (.refl w) fire p s
      obtain ⟨n, hlater, hfires'⟩ := ih (w.obeyAll (lightCalls fire p w)) (light fire p w s).2 g₁
      rw [← hlight] at hfires'
      simp only [hdrawn, if_true]
      refine ⟨m + n, htells.append hlater, ?_⟩
      rw [hfires', hfires, Nat.add_assoc]
    · simp only [hdrawn, if_false, List.nil_append]
      exact ih w s g₁

theorem tells_burnCalls (rules : CommitRules) (explosion : Explosion) (order : List Position)
    (w : World) (s : CommitSummary) (g : Generator) :
    ∃ n, w.Tells (rules.burnCalls explosion order w g) n ∧
      (rules.burn explosion order (w, s) g).1.2.fires = s.fires + n := by
  simp only [burn, burnCalls]
  cases explosion.fireIn? w.registry with
  | none => exact ⟨0, w.tells_nil, rfl⟩
  | some fire => exact rules.tells_igniteCalls fire order w s g

/-- **A commit tells of the replacements and the fires that its summary counts**, and of nothing
else. -/
theorem tells_commitCalls (rules : CommitRules) {explosion : Explosion} (affected : AffectedSet)
    (w : World) (g : Generator) {summary : CommitSummary}
    (hresult : (rules.commit explosion affected w g).1.result = .ok summary) :
    w.Tells (rules.commitCalls explosion affected w g) (summary.changed + summary.fires) := by
  by_cases hmode : explosion.interaction = .keep
  · rw [commit, if_pos hmode] at hresult
    rw [commitCalls, if_pos hmode]
    obtain rfl := Except.ok.inj hresult
    exact w.tells_nil
  · rcases hshuffle : Draw.shuffle affected.toList.toArray g with ⟨xs, g₁⟩
    rcases hrun : convert explosion xs.toList { world := w, pile := { cap := rules.mergeCap } } g₁
      with ⟨⟨progress, fault⟩, g₂⟩
    rw [rules.commit_eq affected w hmode hshuffle hrun] at hresult
    rw [rules.commitCalls_eq affected w hmode hshuffle hrun]
    obtain ⟨m, hconverted, hchanged, hfires⟩ := tells_convertCalls explosion xs.toList
      { world := w, pile := { cap := rules.mergeCap } } g₁
    have hworld : progress.world = w.obeyAll (convertCalls explosion xs.toList w g₁) := by
      have hwithin := @convert_within explosion xs.toList
        { world := w, pile := { cap := rules.mergeCap } } w g₁ (.refl w)
      change convert explosion xs.toList { world := w, pile := { cap := rules.mergeCap } } g₁ = _
        at hwithin
      rw [hrun] at hwithin
      exact congrArg (·.1.1.world) hwithin
    have hsettled : progress.settle.1 =
        w.obeyAll (convertCalls explosion xs.toList w g₁ ++ progress.pile.calls) := by
      rw [World.obeyAll_append, ← hworld]
      exact congrArg Prod.fst (progress.settle_within progress.world)
    have hcounts : progress.settle.2.changed = m ∧ progress.settle.2.fires = 0 := by
      rw [hrun] at hchanged hfires
      rw [progress.settle_eq]
      exact ⟨hchanged.trans (Nat.zero_add m), hfires⟩
    have hfallen := World.tells_drops (w.obeyAll (convertCalls explosion xs.toList w g₁))
      progress.pile.fallen
    cases fault with
    | some fault => cases hresult
    | none =>
      obtain ⟨n, hburnt, hlit⟩ := rules.tells_burnCalls explosion xs.toList
        progress.settle.1 progress.settle.2 g₂
      have hsame := (rules.burnt_burn explosion xs.toList progress.settle g₂).changed
      have hsummary : (rules.burn explosion xs.toList progress.settle g₂).1.2 = summary :=
        Except.ok.inj hresult
      rw [← hsummary, hsame, hlit, hcounts.1, hcounts.2, Nat.zero_add]
      rw [hsettled] at hburnt
      exact (hconverted.append hfallen).append hburnt

end CommitRules

/-! ## Items -/

theorem BlockType.tally_leavings_le (block : BlockType) (select : Selection) :
    tally select block.leavings ≤ 1 := by
  unfold leavings
  cases block.yield with
  | none => exact Nat.zero_le 1
  | some item =>
    simp only [tally, Option.map_some, Option.toList_some, List.map_cons, List.map_nil,
      List.sum_cons, List.sum_nil]
    split <;> omega

/-- A conversion earns at most one item, and none without a replacement that is granted. -/
theorem CommitRules.tally_earned_le {explosion : Explosion} {w : World} {p : Position}
    {g : Generator} {wanted : HitResult} (hbuiltin : w.registry.UsesBuiltin)
    (hwanted : (reaction explosion w p g).1 = .ok wanted) (granted : Bool) :
    tally .all (Conversion.earned ⟨p, wanted, granted⟩) ≤
      if wanted.replacement.isSome && granted then 1 else 0 := by
  have hnone : wanted.drops = [] → tally .all (Conversion.earned ⟨p, wanted, granted⟩) = 0 := by
    intro hdrops
    cases granted <;> simp [Conversion.earned, hdrops]
  rcases reaction_usual hbuiltin explosion p g with ⟨-, huntouched⟩ | ⟨-, husual⟩
  · rw [huntouched] at hwanted
    obtain rfl := Except.ok.inj hwanted
    rw [hnone rfl]
    exact Nat.zero_le _
  · rw [hwanted] at husual
    cases husual with
    | removed destructive own =>
      rcases own with rfl | ⟨-, rfl⟩
      · cases granted with
        | true => exact BlockType.tally_leavings_le _ _
        | false => exact Nat.zero_le _
      · rw [hnone rfl]
        exact Nat.zero_le _
    | untouched | turned =>
      rw [hnone rfl]
      exact Nat.zero_le _

theorem Converts.tally_earnings_le {explosion : Explosion} {w w' : World} {g g' : Generator}
    {log : List Conversion} (h : Converts explosion w g log w' g')
    (hbuiltin : w.registry.UsesBuiltin) :
    tally .all (earnings log) ≤ (log.foldl CommitSummary.count {}).changed := by
  rw [CommitSummary.foldl_count]
  induction h with
  | nil w g => exact Nat.zero_le _
  | @cons w w₁ w' g g₁ g' p wanted granted log handled fulfilled later ih =>
    have hrest := ih ((World.SameSetting.of_fulfil fulfilled).registry ▸ hbuiltin)
    have hfirst := CommitRules.tally_earned_le hbuiltin (congrArg Prod.fst handled) granted
    rw [earnings, List.flatMap_cons, tally_append, List.countP_cons]
    simp only [Nat.zero_add] at hrest ⊢
    rw [Nat.add_comm]
    exact Nat.add_le_add hrest hfirst

/-- **The stacks that a summary counts lie on the ground**, and each replacement yields at most one
item. -/
theorem CommitRules.drops_commit (rules : CommitRules) {explosion : Explosion}
    (affected : AffectedSet) {w : World} (g : Generator) {summary : CommitSummary}
    (hbuiltin : w.registry.UsesBuiltin)
    (hresult : (rules.commit explosion affected w g).1.result = .ok summary) :
    (rules.commit explosion affected w g).1.world.drops.size = w.drops.size + summary.dropped ∧
      summary.items ≤ summary.changed := by
  by_cases hmode : explosion.interaction = .keep
  · rw [commit, if_pos hmode] at hresult ⊢
    obtain rfl := Except.ok.inj hresult
    exact ⟨rfl, le_rfl⟩
  · obtain ⟨order, log, w', g₂, -, hconv, hend⟩ := rules.commit_cases affected w g hmode
    obtain ⟨emitted, hearned, hdrops, hsummary⟩ := rules.settled_eq w log w'
    rcases hend with ⟨-, final, g₃, hburn, hcommit⟩ | ⟨p, later, cause, g₃, -, -, hcommit⟩
    · have hburnt := rules.burnt_burn explosion order (rules.settled w log w') g₂
      rw [hburn] at hburnt
      rw [hcommit] at hresult ⊢
      obtain rfl := Except.ok.inj hresult
      rw [hburnt.drops, hburnt.dropped, hburnt.items, hburnt.changed, hdrops, hsummary,
        hconv.drops_eq]
      constructor
      · rw [← Array.length_toList, Array.toList_appendList, List.length_append, Array.length_toList]
      · rw [hearned]
        exact hconv.tally_earnings_le hbuiltin
    · rw [hcommit] at hresult
      cases hresult

end Crater
