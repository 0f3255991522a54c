import Crater.Proofs.Bookkeeping
import Crater.Proofs.Clearing
import Crater.Proofs.Observers
import Crater.Proofs.Strikes

/-!
# Replay

What a bus has to pass on after a blast. Before the commit it is sent the
knockback of every player that is hit, for their clients to replay; while the
explosion is finalized it is told of the sound, the particle, and each voxel that
changes. A bus with enough room passes all of it on, and how many events there are
of each kind can be read off the report and the summary.
-/

namespace Crater

/-! ## Knockback -/

/-- Knockback is replayed for those of the entities that are hit. -/
def ImpactReport.Replays (replayed : EntityId → Bool) (report : ImpactReport) : Prop :=
  (report.playerKnockback.map Prod.fst).Perm
    ((report.impacts.map EntityImpact.entity).filter replayed)

namespace ImpactRules

variable (rules : ImpactRules) (explosion : Explosion) (blocked : SightBlock)
  {replayed : EntityId → Bool}

theorem replays_record {report : ImpactReport} (h : report.Replays replayed) {s : Snapshot}
    (hs : s.isReplayTarget = replayed s.id) :
    (rules.record explosion blocked report s).Replays replayed := by
  unfold record
  split
  · have himpacts := ((perm_insertByKey (·.entity.index)
      (rules.impactOn explosion blocked s) report.impacts).map EntityImpact.entity).filter replayed
    refine .trans ?_ himpacts.symm
    show (List.map Prod.fst (if s.isReplayTarget then _ else _)).Perm
      (List.filter replayed (s.id :: report.impacts.map EntityImpact.entity))
    -- a target joins both lists, and anybody else neither
    rw [hs, List.filter_cons]
    cases replayed s.id with
    | true => exact ((perm_insertByKey _ _ _).map Prod.fst).trans (h.cons s.id)
    | false => exact h
  · exact h

theorem replays_resolve {candidates : List Snapshot}
    (h : ∀ s ∈ candidates, s.isReplayTarget = replayed s.id) :
    (rules.resolve explosion blocked candidates).Replays replayed := by
  have hempty : ImpactReport.Replays replayed {} := List.Perm.refl _
  unfold resolve
  split
  · exact hempty
  · exact List.foldlRecOn candidates _ hempty fun report hreport s hs =>
      rules.replays_record explosion blocked hreport (h s hs)

end ImpactRules

/-- Knockback that is replayed for one entity is replayed if the entity is hit. -/
theorem ImpactReport.length_playerKnockback {report : ImpactReport} {id : EntityId}
    (hreplays : report.Replays (· == id)) (hsimple : report.IsSimple) :
    report.playerKnockback.length =
      if id ∈ report.impacts.map EntityImpact.entity then 1 else 0 := by
  calc report.playerKnockback.length
      = ((report.impacts.map EntityImpact.entity).filter (· == id)).length := by
        rw [← hreplays.length_eq, List.length_map]
    _ = (report.impacts.map EntityImpact.entity).count id := List.count_eq_length_filter.symm
    _ = _ := List.Nodup.count hsimple

theorem EventBus.send_of_accepts {bus : EventBus} (h : bus.accepts = true) (event : Event) :
    bus.send event = (true, { bus with queue := bus.queue.push event }) := by
  rw [send, if_pos h]

namespace Detonation

def knockbackEvents (knockback : List (EntityId × Vec3)) : List Event :=
  knockback.map fun (entity, impulse) => .playerKnockback entity impulse

/-- On a bus with room, all that is sent is taken. -/
theorem foldl_knockback (knockback : List (EntityId × Vec3)) (sent : List (EntityId × Bool))
    (w : World) {bus : EventBus} (hreceiver : bus.hasReceiver = true)
    (hroom : bus.queue.size + knockback.length ≤ bus.capacity) :
    knockback.foldl (fun (sent, world) (entity, knockback) =>
      let (taken, world) := World.send world (.playerKnockback entity knockback)
      (sent ++ [(entity, taken)], world)) (sent, w.attach (some bus)) =
    (sent ++ knockback.map fun (entity, _) => (entity, true),
      w.attach (some (bus.sendAll (knockbackEvents knockback)))) := by
  induction knockback generalizing sent bus with
  | nil => simp [knockbackEvents, EventBus.sendAll]
  | cons first rest ih =>
    rw [List.length_cons] at hroom
    have haccepts : bus.accepts = true := by
      rw [EventBus.accepts, hreceiver, Bool.true_and, decide_eq_true_eq]
      omega
    have hsend := EventBus.send_of_accepts haccepts (.playerKnockback first.1 first.2)
    have hsent : (w.attach (some bus)).send (.playerKnockback first.1 first.2) =
        (true, w.attach (some
          { bus with queue := bus.queue.push (.playerKnockback first.1 first.2) })) := by
      simp only [World.send, World.attach, hsend]
    rw [List.foldl_cons]
    simp only [hsent]
    rw [ih]
    · simp only [knockbackEvents, List.map_cons, EventBus.sendAll, List.foldl_cons, hsend,
        List.append_assoc, List.singleton_append]
    · exact hreceiver
    · show (bus.queue.push _).size + rest.length ≤ bus.capacity
      rw [Array.size_push]
      omega

/-- **Knockback is replayed in full** on a bus that has room for it. -/
theorem replayKnockback_eq (d : Detonation) {w : World} {bus : EventBus} (hbus : w.bus = some bus)
    (hreceiver : bus.hasReceiver = true)
    (hroom : bus.queue.size + d.report.playerKnockback.length ≤ bus.capacity) :
    d.replayKnockback w = (d.report.playerKnockback.map fun (entity, _) => (entity, true),
      w.attach (some (bus.sendAll (knockbackEvents d.report.playerKnockback)))) := by
  have hw : w.attach (some bus) = w := by rw [← hbus]; rfl
  have h := foldl_knockback d.report.playerKnockback [] w hreceiver hroom
  rwa [hw] at h

end Detonation

/-- Where nothing is guarded, all is changed. -/
theorem Sweep.counts_of_unguarded {explosion : Explosion} {affected : AffectedSet}
    {before after : World} {summary : CommitSummary}
    (h : Sweep explosion affected before after summary)
    (hguarded : ∀ p, before.isGuarded p = false) :
    summary.changed = affected.size ∧ summary.rejected = 0 ∧ summary.fires ≤ affected.size := by
  have hsize : affected.toList.length = affected.size := Std.TreeSet.length_toList
  refine ⟨?_, ?_, ?_⟩
  · rw [h.changed, ← hsize, List.countP_eq_length]
    intro p _
    rw [hguarded p]
    rfl
  · rw [h.rejected, List.countP_eq_zero]
    intro p _
    rw [hguarded p]
    exact Bool.false_ne_true
  · rw [h.fires, ← hsize]
    split
    · exact Nat.zero_le _
    · exact List.countP_le_length

/-! ## Events -/

theorem World.bus_obeyAll (w : World) (calls : List WorldCall) :
    (w.obeyAll calls).bus = w.bus.map (·.sendAll (w.noticesAll calls)) :=
  congrArg World.bus (w.obeyAll_attach w.bus calls)

namespace EventBus

theorem sendAll_append (bus : EventBus) (earlier later : List Event) :
    bus.sendAll (earlier ++ later) = (bus.sendAll earlier).sendAll later :=
  List.foldl_append

/-- A new bus keeps all events if they are not too many. -/
theorem drain_sendAll {capacity : ℕ} {events : List Event} (h : events.length ≤ capacity) :
    (({ capacity } : EventBus).sendAll events).drain.1 = events := by
  rw [sendAll_eq_heard]
  simp [heard, drain, List.take_of_length_le h]

end EventBus

def Event.isKnockback : Event → Bool
  | playerKnockback .. => true
  | effect _ | voxelChanged .. => false

/-- How many events there are, how many of them tell of voxels, and how many of knockback. -/
structure Counts (events : List Event) (total changes knockbacks : ℕ) : Prop where
  total : events.length = total
  changes : events.countP Event.isChange = changes
  knockbacks : events.countP Event.isKnockback = knockbacks

theorem Counts.append {earlier later : List Event} {t t' c c' k k' : ℕ}
    (h : Counts earlier t c k) (h' : Counts later t' c' k') :
    Counts (earlier ++ later) (t + t') (c + c') (k + k') := by
  constructor
  · rw [List.length_append, h.total, h'.total]
  · rw [List.countP_append, h.changes, h'.changes]
  · rw [List.countP_append, h.knockbacks, h'.knockbacks]

theorem World.Tells.counts {w : World} {calls : List WorldCall} {n : ℕ} (h : w.Tells calls n) :
    Counts (w.noticesAll calls) n n 0 := by
  obtain ⟨hlength, hchange⟩ := h
  refine ⟨hlength, ?_, ?_⟩
  · rw [List.countP_eq_length.mpr hchange, hlength]
  · rw [List.countP_eq_zero]
    intro event hevent
    have h := hchange event hevent
    cases event with
    | voxelChanged => exact Bool.false_ne_true
    | effect | playerKnockback => cases h

namespace Detonation

theorem counts_knockbackEvents (knockback : List (EntityId × Vec3)) :
    Counts (knockbackEvents knockback) knockback.length 0 knockback.length := by
  refine ⟨List.length_map _, ?_, ?_⟩
  · rw [knockbackEvents, List.countP_map, List.countP_eq_zero]
    exact fun _ _ => Bool.false_ne_true
  · rw [knockbackEvents, List.countP_map, List.countP_eq_length]
    exact fun _ _ => rfl

section
variable {d : Detonation} (hphase : d.phase = .detonated) {particles : Bool} {w : World}
  {g : Generator} {summary : CommitSummary}
include hphase

theorem commit_of_finalize (hresult : (d.finalize particles w g).1.result = .ok summary) :
    ((CommitRules.ofConfig d.config).commit d.explosion d.affected
      (d.present particles (drawPitch g).1 w) (drawPitch g).2).1.result = .ok summary := by
  rw [d.finalize_eq_closed g hphase] at hresult
  generalize (CommitRules.ofConfig d.config).commit d.explosion d.affected
    (d.present particles (drawPitch g).1 w) (drawPitch g).2 = committed at hresult ⊢
  obtain ⟨⟨world, result⟩, g'⟩ := committed
  cases result with
  | error fault => cases hresult
  | ok _ => exact congrArg Except.ok (Except.ok.inj hresult)

theorem bus_finalize (particles : Bool) (w : World) (g : Generator) :
    (d.finalize particles w g).1.world.bus =
      w.bus.map (·.sendAll (w.noticesAll (d.finalizeCalls particles w g))) := by
  rw [← World.bus_obeyAll]
  exact congrArg (·.1.world.bus) (d.finalize_twin g hphase particles (.refl w))

/-- **What finalizing tells**: the sound, the particle if there is one, and a change for each
replacement and each fire. -/
theorem counts_finalizeCalls (hresult : (d.finalize particles w g).1.result = .ok summary) :
    Counts (w.noticesAll (d.finalizeCalls particles w g))
      ((if particles then 2 else 1) + (summary.changed + summary.fires))
      (summary.changed + summary.fires) 0 := by
  have hshown : Counts (w.noticesAll (d.presentCalls particles (drawPitch g).1))
      (if particles then 2 else 1) 0 0 := by
    cases particles <;> exact ⟨rfl, rfl, rfl⟩
  have hcommit := (CommitRules.ofConfig d.config).tells_commitCalls d.affected _ _
    (commit_of_finalize hphase hresult)
  rw [finalizeCalls, World.noticesAll_append, obeyAll_presentCalls]
  simpa using hshown.append hcommit.counts

theorem drops_finalize (hbuiltin : w.registry.UsesBuiltin)
    (hresult : (d.finalize particles w g).1.result = .ok summary) :
    (d.finalize particles w g).1.world.drops.size = w.drops.size + summary.dropped ∧
      summary.items ≤ summary.changed := by
  have hground := sameGround_present d particles (drawPitch g).1 w
  have hdrops := (CommitRules.ofConfig d.config).drops_commit d.affected (drawPitch g).2
    (hground.registry ▸ hbuiltin) (commit_of_finalize hphase hresult)
  rw [hground.drops] at hdrops
  rw [d.finalize_eq_closed g hphase]
  exact hdrops

end

end Detonation

end Crater
