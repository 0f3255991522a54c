import Crater.Proofs.Clearing
import Crater.Proofs.Stock

/-!
# Sites

Several explosions may go off in one world, their calls mixed in any order. Two of
them may set out to remove the same voxel, and between the tracing of one and its
end others may change what it traced. Still every call is a step that keeps the
accounts of every item, and so is every run of calls.
-/

namespace Crater

structure Site where
  world : World
  blasts : List Detonation

/-- A call to one of the explosions of a site, and the generator it draws from. -/
structure Order where
  blast : Nat
  call : Call
  generator : Generator

namespace Site

/-- Makes a call. Nothing happens if there is no such explosion. -/
def obey (site : Site) (order : Order) : Site :=
  match site.blasts[order.blast]? with
  | none => site
  | some d =>
    let made := (d.perform site.world order.call order.generator).1
    ⟨made.world, site.blasts.set order.blast made.detonation⟩

def run (site : Site) (orders : List Order) : Site := orders.foldl obey site

/-- Whether drops decay in some explosion of a site. -/
def Decays (site : Site) : Prop :=
  ∃ d ∈ site.blasts, d.explosion.interaction = .destroyWithDecay

/-- What a site has to be like for its stocks to be accounted for: handlers are built
in, and no item stands for a fire. -/
structure Accounted (site : Site) : Prop where
  builtin : site.world.registry.UsesBuiltin
  fire : ∀ fire, site.world.registry.fireBlock? = some fire →
    (site.world.registry.block fire).yield = none

theorem run_append (site : Site) (earlier later : List Order) :
    site.run (earlier ++ later) = (site.run earlier).run later :=
  List.foldl_append

/-- What one call does to the accounts of a site. -/
structure Step (before after : Site) : Prop where
  registry : after.world.registry = before.world.registry
  explosions : after.blasts.map Detonation.explosion = before.blasts.map Detonation.explosion
  stock : ∀ item, Dwindles before.Decays (before.world.stock item) (after.world.stock item)

namespace Step

variable {a b c : Site}

theorem refl (site : Site) : Step site site := ⟨rfl, rfl, fun _ => .of_eq rfl⟩

theorem decays (h : Step a b) (hdecays : b.Decays) : a.Decays := by
  obtain ⟨d, hd, hmode⟩ := hdecays
  have hmem := List.mem_map_of_mem (f := Detonation.explosion) hd
  rw [h.explosions] at hmem
  obtain ⟨d', hd', hsame⟩ := List.mem_map.mp hmem
  exact ⟨d', hd', hsame ▸ hmode⟩

theorem trans (hab : Step a b) (hbc : Step b c) : Step a c :=
  ⟨hbc.registry.trans hab.registry, hbc.explosions.trans hab.explosions,
    fun item => (hab.stock item).trans ((hbc.stock item).mono hab.decays)⟩

theorem accounted (h : Step a b) (ha : a.Accounted) : b.Accounted :=
  ⟨h.registry ▸ ha.builtin, h.registry ▸ ha.fire⟩

end Step

/-- A detonation may go on, but its explosion stays the same. -/
theorem explosions_set {blasts : List Detonation} {i : Nat} {d d' : Detonation}
    (hd : blasts[i]? = some d) (hsame : d'.explosion = d.explosion) :
    (blasts.set i d').map Detonation.explosion = blasts.map Detonation.explosion := by
  have hat : (blasts.map Detonation.explosion)[i]? = some d.explosion := by
    rw [List.getElem?_map, hd]
    rfl
  obtain ⟨hlt, hget⟩ := List.getElem?_eq_some_iff.mp hat
  rw [List.map_set, hsame, ← hget, List.set_getElem_self]

theorem step_obey {site : Site} (hsite : site.Accounted) (order : Order) :
    Step site (site.obey order) := by
  unfold obey
  cases hd : site.blasts[order.blast]? with
  | none => exact .refl site
  | some d =>
      have hmem : d ∈ site.blasts := List.mem_of_getElem? hd
      have hsame := explosions_set hd
        (d.perform_explosion site.world order.generator order.call)
      rcases d.perform_ground site.world order.generator order.call with
        hground | ⟨rules, w₁, g₁, hground, hcommit⟩
      · exact ⟨hground.registry, hsame, fun item => .of_eq (congrFun hground.stock item)⟩
      · have hsetting := (rules.frame_commit d.explosion d.affected w₁ g₁).setting
        rw [← hcommit] at hsetting
        refine ⟨hsetting.registry.trans hground.registry, hsame, ?_⟩
        intro item
        have hstock := rules.stock_commit d.explosion d.affected w₁ g₁
          (hground.registry ▸ hsite.builtin) (hground.registry ▸ hsite.fire) item
        rw [← hcommit, hground.stock] at hstock
        exact hstock.mono fun hmode => ⟨d, hmem, hmode⟩

theorem step_run {site : Site} (hsite : site.Accounted) (orders : List Order) :
    Step site (site.run orders) := by
  induction orders generalizing site with
  | nil => exact .refl site
  | cons order rest ih =>
      have hfirst := step_obey hsite order
      exact hfirst.trans (ih (hfirst.accounted hsite))

/-- **Items are conserved** in every run of calls to the explosions of a site: the
stock of an item never grows, and it stays the same if drops decay in none of them. -/
theorem stock_run (site : Site) (hbuiltin : site.world.registry.UsesBuiltin)
    (hfire : ∀ fire, site.world.registry.fireBlock? = some fire →
      (site.world.registry.block fire).yield = none)
    (earlier later : List Order) (item : ItemId) :
    (site.run (earlier ++ later)).world.stock item ≤ (site.run earlier).world.stock item ∧
    ((∀ d ∈ site.blasts, d.explosion.interaction ≠ .destroyWithDecay) →
      (site.run (earlier ++ later)).world.stock item = site.world.stock item) := by
  have hsite : site.Accounted := ⟨hbuiltin, hfire⟩
  have hearlier := step_run hsite earlier
  have hlater := step_run (hearlier.accounted hsite) later
  rw [run_append]
  constructor
  · exact (hlater.stock item).le
  · intro hnone
    apply ((hearlier.trans hlater).stock item).eq
    rintro ⟨d, hd, hmode⟩
    exact hnone d hd hmode

/-- Two small blasts at one block of dirt. -/
def pair : Site := ⟨.clod, [.brief, .brief]⟩

/-- Both blasts trace the block before either of them removes it, and there is still
as much dirt as before. -/
theorem stock_run_pair :
    pair.world.registry.UsesBuiltin ∧
    (∀ fire, pair.world.registry.fireBlock? = some fire →
      (pair.world.registry.block fire).yield = none) ∧
    (pair.run ([⟨0, .detonate, .ofSeed 1⟩, ⟨1, .detonate, .ofSeed 2⟩] ++
      [⟨1, .finalize true, .ofSeed 2⟩, ⟨0, .finalize false, .ofSeed 1⟩])).world.stock ⟨2⟩ =
        pair.world.stock ⟨2⟩ := by
  have hbuiltin : Registry.builtin.UsesBuiltin := by decide
  have hfire := Registry.builtin.yield_fireBlock (by decide)
  exact ⟨hbuiltin, hfire, (stock_run pair hbuiltin hfire _ _ _).2 (by decide)⟩

end Site

end Crater
