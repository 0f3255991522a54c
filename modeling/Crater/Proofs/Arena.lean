import Crater.Demo.Arena
import Crater.Proofs.FanUnion
import Crater.Proofs.PaletteLoading
import Crater.Proofs.PlainMap

/-!
# The arena

Whatever palette its blocks come from, the arena of the demo holds nothing outside
the boxes that it is built from, and these have fewer than four thousand
positions. So no blast in it destroys more.
-/

namespace Crater

theorem exists_mapM_eq_ok {ε α β : Type} {f : α → Except ε β} {xs : List α}
    (h : ∀ x ∈ xs, ∃ y, f x = .ok y) : ∃ ys, xs.mapM f = .ok ys := by
  induction xs with
  | nil => exact ⟨[], rfl⟩
  | cons x rest ih =>
    obtain ⟨y, hy⟩ := h x List.mem_cons_self
    obtain ⟨ys, hys⟩ := ih fun z hz => h z (List.mem_cons_of_mem x hz)
    refine ⟨y :: ys, ?_⟩
    rw [List.mapM_cons, hy, hys]
    rfl

namespace Demo

def ground : List Position := arenaParts.flatMap fun part => Position.box part.low part.high

theorem length_ground : ground.length = 3782 := by decide +kernel

theorem mem_ground_of_mem_pocket {p : Position} (h : p ∈ pocket) : p ∈ ground := by
  have hgrass : ⟨"grass", ⟨-12, -1, -12⟩, ⟨12, -1, 12⟩⟩ ∈ arenaParts := by simp [arenaParts]
  have hbox : ∀ p ∈ pocket, p.InBox ⟨-12, -1, -12⟩ ⟨12, -1, 12⟩ := by decide
  exact List.mem_flatMap.mpr ⟨_, hgrass, Position.mem_box.mpr (hbox p h)⟩

def inhabitants : Population := (populate (.empty .empty {})).population

/-- A world as the arena is being built, with voxels nowhere but on its ground. -/
def IsSite (registry : Registry) (bus : EventBus) (world : World) : Prop :=
  (∃ grid, world = { World.empty registry {} with bus := some bus, grid }) ∧
    ∀ p, world.voxel p ≠ .air → p ∈ ground

section
variable {registry : Registry} {bus : EventBus} {world : World}

theorem IsSite.fill (h : IsSite registry bus world) {part : ArenaPart} (hpart : part ∈ arenaParts)
    (state : BlockState) : IsSite registry bus (world.fill part.low part.high state) := by
  obtain ⟨⟨grid, rfl⟩, hground⟩ := h
  refine ⟨⟨_, rfl⟩, ?_⟩
  intro p hp
  have hget := Grid.get_fill grid part.low part.high p (.ofBlock state)
  change (grid.fill part.low part.high (.ofBlock state)).get p ≠ .air at hp
  rw [hget] at hp
  split at hp
  · next hin => exact List.mem_flatMap.mpr ⟨part, hpart, Position.mem_box.mpr hin.1⟩
  · exact hground p hp

theorem IsSite.placeVoxel (h : IsSite registry bus world) {q : Position} (hq : q ∈ ground)
    (v : Voxel) : IsSite registry bus (world.placeVoxel q v).2 := by
  obtain ⟨⟨grid, rfl⟩, hground⟩ := h
  refine ⟨⟨_, rfl⟩, ?_⟩
  intro p hp
  change (grid.set q v).2.get p ≠ .air at hp
  rw [Grid.get_set] at hp
  split at hp
  · next hin => exact hin.1 ▸ hq
  · exact hground p hp

theorem IsSite.pourWater (h : IsSite registry bus world) :
    IsSite registry bus (pourWater world) := by
  unfold Demo.pourWater
  split
  · exact h
  · next water _ =>
    refine List.foldlRecOn pocket _ h ?_
    intro w hw p hp
    exact hw.placeVoxel (mem_ground_of_mem_pocket hp) _

theorem isSite_empty (registry : Registry) (bus : EventBus) :
    IsSite registry bus { World.empty registry {} with bus := some bus } := by
  refine ⟨⟨_, rfl⟩, ?_⟩
  intro p hp
  refine absurd ?_ hp
  show ({ range := {} } : Grid).get p = .air
  simp [Grid.get]

theorem map_fst_of_mapM {ε α β : Type} {f : α → Except ε β} {xs : List α} {ys : List (α × β)}
    (h : (xs.mapM fun a => return (a, ← f a)) = .ok ys) : ys.map Prod.fst = xs := by
  induction xs generalizing ys with
  | nil =>
    obtain rfl := Except.ok.inj h
    rfl
  | cons a rest ih =>
    rw [List.mapM_cons] at h
    obtain ⟨pair, hpair, h⟩ := exists_of_bind_eq_ok h
    obtain ⟨b, -, hb⟩ := exists_of_bind_eq_ok hpair
    obtain ⟨later, hlater, h⟩ := exists_of_bind_eq_ok h
    obtain rfl := Except.ok.inj h
    obtain rfl := Except.ok.inj hb
    rw [List.map_cons, ih hlater]

/-- **What the arena is**, whatever its blocks are like. -/
theorem buildArena_spec (h : buildArena registry bus = .ok world) :
    (∃ grid, world =
      { World.empty registry {} with bus := some bus, grid, population := inhabitants }) ∧
    ∀ p, world.voxel p ≠ .air → p ∈ ground := by
  obtain ⟨parts, hparts, h⟩ := exists_of_bind_eq_ok h
  obtain rfl := Except.ok.inj h
  have hfst := map_fst_of_mapM hparts
  generalize hpoured : pourWater _ = site
  have hsite : IsSite registry bus site := by
    rw [← hpoured]
    refine IsSite.pourWater (List.foldlRecOn parts _ (isSite_empty registry bus) ?_)
    intro w hw part hpart
    exact hw.fill (hfst ▸ List.mem_map_of_mem hpart) _
  obtain ⟨⟨grid, rfl⟩, hground⟩ := hsite
  exact ⟨⟨grid, rfl⟩, hground⟩

/-- The arena can be built of any blocks that have the names of its parts. -/
theorem exists_buildArena (h : ∀ part ∈ arenaParts, (registry.byName? part.block).isSome = true) :
    ∃ world, buildArena registry bus = .ok world := by
  obtain ⟨parts, hparts⟩ : ∃ parts, arenaParts.mapM (fun part => do
      return (part, ← registry.require part.block)) = Except.ok parts := by
    refine exists_mapM_eq_ok ?_
    intro part hpart
    obtain ⟨id, hid⟩ := Option.isSome_iff_exists.mp (h part hpart)
    refine ⟨(part, id), ?_⟩
    rw [Registry.require, hid]
    rfl
  rw [buildArena, hparts]
  exact ⟨_, rfl⟩

theorem isSome_byName?_builtin :
    ∀ part ∈ arenaParts, (Registry.builtin.byName? part.block).isSome = true := by
  have hfluid : ∀ (r : Registry) fluid name,
      ((r.addFluid fluid).byName? name).isSome = (r.byName? name).isSome := fun _ _ _ => rfl
  simp only [Registry.builtin, List.foldl_cons, List.foldl_nil, hfluid,
    Registry.isSome_byName?_add]
  decide

end

/-- **A blast in the arena destroys no more than the arena is made of.** -/
theorem size_le_of_trace {fan : RayFan} {explosion : Explosion} {w : World} {g : Generator}
    {affected : AffectedSet} (hground : ∀ p, w.voxel p ≠ .air → p ∈ ground)
    (htrace : (fan.trace explosion w.terrain g).1 = some affected) : affected.size ≤ 3782 := by
  have hsub : affected.toList ⊆ ground := by
    intro p hp
    obtain ⟨-, hfull⟩ :=
      RayFan.inside_and_not_empty_of_trace htrace (AffectedSet.mem_toList.mp hp)
    refine hground p ?_
    intro hair
    change w.registry.isEmptyVoxel (w.voxel p) = false at hfull
    rw [hair, Registry.isEmptyVoxel_air] at hfull
    cases hfull
  calc affected.size = affected.toList.length := Std.TreeSet.length_toList.symm
    _ ≤ ground.length := (List.subperm_of_subset affected.nodup_toList hsub).length_le
    _ = 3782 := length_ground

end Demo

end Crater
