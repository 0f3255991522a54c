import Crater.Proofs.FanUnion
import Crater.Proofs.Reach
import Crater.Proofs.Strikes

/-!
# Resolution

A report is two maps in step with each other, and both list their entries in the order of
the entities. So a report is known when its entries are known, and these are found
candidate by candidate: of the candidates with one number the first that the blast hits is
entered, whatever was passed over before it.

Which entries there are does not depend on how hard the entities are hit. That is why the
knockback modifier changes impulses and nothing else.
-/

namespace Crater

/-! ## Ascending lists -/

/-- Whether the keys of a list ascend and no key occurs twice. -/
def Ascends {α : Type} (key : α → Nat) (xs : List α) : Prop :=
  xs.Pairwise fun a b => key a < key b

section
variable {α β : Type} {key : α → Nat} {a b : α} {xs ys : List α}

theorem mem_insertByKey : b ∈ insertByKey key a xs ↔ b = a ∨ b ∈ xs := by
  rw [(perm_insertByKey key a xs).mem_iff, List.mem_cons]

theorem ascends_insertByKey (hxs : Ascends key xs) (hnew : ∀ b ∈ xs, key b ≠ key a) :
    Ascends key (insertByKey key a xs) := by
  induction xs with
  | nil => exact List.pairwise_singleton _ _
  | cons b rest ih =>
      obtain ⟨hb, hrest⟩ := List.pairwise_cons.mp hxs
      rw [insertByKey]
      split
      · next hlt =>
        refine List.pairwise_cons.mpr ⟨?_, hxs⟩
        intro c hc
        rcases List.mem_cons.mp hc with rfl | hc
        · exact hlt
        · exact hlt.trans (hb c hc)
      · next hge =>
        have hlt : key b < key a := by
          have hne := hnew b List.mem_cons_self
          omega
        refine List.pairwise_cons.mpr ⟨?_, ih hrest fun c hc => hnew c (List.mem_cons_of_mem b hc)⟩
        intro c hc
        rcases mem_insertByKey.mp hc with rfl | hc
        · exact hlt
        · exact hb c hc

namespace Ascends

theorem nodup_map (h : Ascends key xs) : (xs.map key).Nodup :=
  List.pairwise_map.mpr (h.imp Nat.ne_of_lt)

theorem map (h : Ascends key xs) (f : α → β) (key' : β → Nat)
    (hkey : ∀ a, key' (f a) = key a) : Ascends key' (xs.map f) := by
  refine List.pairwise_map.mpr (h.imp ?_)
  intro a b hlt
  rwa [hkey, hkey]

theorem eq_of_key_eq (h : Ascends key xs) (ha : a ∈ xs) (hb : b ∈ xs) (hkey : key a = key b) :
    a = b :=
  List.inj_on_of_nodup_map h.nodup_map ha hb hkey

/-- **Ascending lists with the same entries** are equal. -/
theorem eq_of_mem_iff (hxs : Ascends key xs) (hys : Ascends key ys)
    (h : ∀ a, a ∈ xs ↔ a ∈ ys) : xs = ys := by
  have hperm : xs.Perm ys :=
    (List.perm_ext_iff_of_nodup hxs.nodup_map.of_map hys.nodup_map.of_map).mpr h
  refine hperm.eq_of_pairwise ?_ hxs hys
  intro a b _ _ hab hba
  exact absurd (hab.trans hba) (Nat.lt_irrefl _)

end Ascends

end

/-- Looking an entity up in a list that ascends by number finds whatever is listed for it. -/
theorem find?_eq_some_iff_of_ascends {α : Type} {owner : α → EntityId} {xs : List α}
    (h : Ascends (fun a => (owner a).index) xs) {id : EntityId} {a : α} :
    xs.find? (owner · == id) = some a ↔ a ∈ xs ∧ owner a = id := by
  constructor
  · intro hfound
    exact ⟨List.mem_of_find?_eq_some hfound, by simpa using List.find?_some hfound⟩
  · rintro ⟨hmem, rfl⟩
    have hsome : (xs.find? (owner · == owner a)).isSome = true :=
      List.find?_isSome.mpr ⟨a, hmem, beq_self_eq_true _⟩
    obtain ⟨b, hb⟩ := Option.isSome_iff_exists.mp hsome
    have hsame : owner b = owner a := by simpa using List.find?_some hb
    rw [hb, h.eq_of_key_eq (List.mem_of_find?_eq_some hb) hmem (by rw [hsame])]

/-! ## Hits -/

/-- Whether a blast hits a candidate. -/
structure Explosion.Hits (explosion : Explosion) (s : Snapshot) : Prop where
  radius : explosion.radius > 0.0
  mortal : s.immune = false
  heedful : s.ignores = false
  foreign : explosion.source ≠ some s.id
  /-- The distance must be a number, and less than twice the radius. -/
  near : s.position.distance explosion.center / (Single.widen explosion.radius * 2.0) < 1.0

namespace Explosion

variable {explosion : Explosion} {candidates : List Snapshot} {s : Snapshot} {id : EntityId}

theorem diameter_le_zero_iff (explosion : Explosion) :
    ImpactRules.diameter explosion ≤ 0.0 ↔ ¬ explosion.radius > 0.0 := by
  have hradius := Numeral.isNaN_of_isFinite explosion.isFinite_radius
  have hdiameter := Numeral.isNaN_of_isFinite explosion.isFinite_diameter
  have hzero : Numeral.isNaN (0.0 : Float) = false := rfl
  have hzero' : Numeral.isNaN (0.0 : Float32) = false := rfl
  rw [radius_pos_iff explosion.validRadius_radius, not_not, Numeral.le_iff,
    @Numeral.le_iff Float32, and_iff_right ⟨hdiameter, hzero⟩, and_iff_right ⟨hradius, hzero'⟩,
    explosion.real_diameter, Double.real_zero, Single.real_zero]
  constructor
  · intro h
    linarith
  · intro h
    linarith

theorem hits_iff :
    explosion.Hits s ↔ explosion.radius > 0.0 ∧ ImpactRules.reaches explosion s = true := by
  rw [ImpactRules.reaches, Bool.and_eq_true, decide_eq_true_eq, ImpactRules.distanceShare,
    ImpactRules.diameter]
  simp only [ImpactRules.isSubject, Bool.and_eq_true, Bool.not_eq_true', Bool.or_eq_false_iff,
    bne_iff_ne]
  constructor
  · rintro ⟨hradius, himmune, hignores, hsource, hnear⟩
    exact ⟨hradius, ⟨⟨himmune, hignores⟩, hsource⟩, hnear⟩
  · rintro ⟨hradius, ⟨⟨himmune, hignores⟩, hsource⟩, hnear⟩
    exact ⟨hradius, himmune, hignores, hsource, hnear⟩

instance : Decidable (explosion.Hits s) := decidable_of_iff _ hits_iff.symm

def firstHit? (explosion : Explosion) (candidates : List Snapshot) (id : EntityId) :
    Option Snapshot :=
  candidates.find? fun s => explosion.Hits s ∧ s.id = id

theorem mem_of_firstHit? (h : explosion.firstHit? candidates id = some s) :
    s ∈ candidates ∧ explosion.Hits s ∧ s.id = id :=
  ⟨List.mem_of_find?_eq_some h, by simpa using List.find?_some h⟩

theorem isSome_firstHit?_iff : (explosion.firstHit? candidates id).isSome = true ↔
    ∃ s ∈ candidates, s.id = id ∧ explosion.Hits s := by
  simp [firstHit?, List.find?_isSome, and_comm]

theorem firstHit?_append_singleton : explosion.firstHit? (candidates ++ [s]) id =
    (explosion.firstHit? candidates id).or
      (if explosion.Hits s ∧ s.id = id then some s else none) := by
  simp [firstHit?, List.find?_append, List.find?_singleton]

/-- A candidate that is hit is the first of its number if there was none. -/
theorem firstHit?_append_of_hits (hhits : explosion.Hits s)
    (hfree : explosion.firstHit? candidates s.id = none) (t : Snapshot) :
    explosion.firstHit? (candidates ++ [s]) t.id = some t ↔
      t = s ∨ explosion.firstHit? candidates t.id = some t := by
  rw [firstHit?_append_singleton]
  by_cases hid : s.id = t.id
  · rw [if_pos ⟨hhits, hid⟩, ← hid, hfree]
    simp [eq_comm]
  · have hne : t ≠ s := by
      rintro rfl
      exact hid rfl
    simp [hid, hne]

/-- Otherwise it makes no difference. -/
theorem firstHit?_append_of_passed
    (hpassed : explosion.Hits s → explosion.firstHit? candidates s.id ≠ none) (id : EntityId) :
    explosion.firstHit? (candidates ++ [s]) id = explosion.firstHit? candidates id := by
  rw [firstHit?_append_singleton]
  by_cases hhits : explosion.Hits s ∧ s.id = id
  · obtain ⟨hhits, rfl⟩ := hhits
    obtain ⟨t, ht⟩ := Option.ne_none_iff_exists'.mp (hpassed hhits)
    rw [ht]
    rfl
  · rw [if_neg hhits, Option.or_none]

/-- With distinct numbers there is no first among several. -/
theorem firstHit?_eq_some_iff (hdistinct : (candidates.map Snapshot.id).Nodup) :
    explosion.firstHit? candidates id = some s ↔
      s ∈ candidates ∧ explosion.Hits s ∧ s.id = id := by
  refine ⟨mem_of_firstHit?, ?_⟩
  rintro ⟨hmem, hhits, rfl⟩
  obtain ⟨t, ht⟩ := Option.isSome_iff_exists.mp (isSome_firstHit?_iff.mpr ⟨s, hmem, rfl, hhits⟩)
  obtain ⟨hmem', -, hid⟩ := mem_of_firstHit? ht
  rw [ht, List.inj_on_of_nodup_map hdistinct hmem' hmem hid]

theorem firstHit?_perm (hdistinct : (candidates.map Snapshot.id).Nodup)
    {candidates' : List Snapshot} (hperm : candidates.Perm candidates') (id : EntityId) :
    explosion.firstHit? candidates' id = explosion.firstHit? candidates id := by
  have hdistinct' := (hperm.map Snapshot.id).nodup_iff.mp hdistinct
  ext s
  rw [firstHit?_eq_some_iff hdistinct, firstHit?_eq_some_iff hdistinct', hperm.mem_iff]

def withKnockback (explosion : Explosion) (knockback : Knockback) : Explosion :=
  { explosion with knockback }

theorem firstHit?_withKnockback (knockback : Knockback) :
    (explosion.withKnockback knockback).firstHit? candidates id =
      explosion.firstHit? candidates id := by
  have hsame : ∀ s, (explosion.withKnockback knockback).Hits s ↔ explosion.Hits s := by
    intro s
    rw [hits_iff, hits_iff]
    rfl
  simp only [firstHit?, hsame]

end Explosion

/-! ## Records -/

namespace ImpactRules

/-- Whether the entries of a report are those of the first hits among some candidates. -/
structure Records (rules : ImpactRules) (explosion : Explosion) (blocked : SightBlock)
    (candidates : List Snapshot) (report : ImpactReport) : Prop where
  ascends : Ascends (fun impact => impact.entity.index) report.impacts
  ascends_knockback : Ascends (fun entry => entry.1.index) report.playerKnockback
  mem_impacts : ∀ impact, impact ∈ report.impacts ↔
    ∃ s, explosion.firstHit? candidates s.id = some s ∧
      rules.impactOn explosion blocked s = impact
  mem_knockback : ∀ entry, entry ∈ report.playerKnockback ↔
    ∃ s, explosion.firstHit? candidates s.id = some s ∧ s.isReplayTarget = true ∧
      (s.id, (rules.impactOn explosion blocked s).impulse) = entry

variable {rules : ImpactRules} {explosion : Explosion} {blocked : SightBlock}
  {candidates candidates' : List Snapshot} {report report' : ImpactReport}

namespace Records

theorem get?_eq (h : Records rules explosion blocked candidates report) (id : EntityId) :
    report.get? id =
      (explosion.firstHit? candidates id).map (rules.impactOn explosion blocked) := by
  ext impact
  rw [ImpactReport.get?, find?_eq_some_iff_of_ascends h.ascends, h.mem_impacts,
    Option.map_eq_some_iff]
  constructor
  · rintro ⟨⟨s, hfirst, rfl⟩, rfl⟩
    exact ⟨s, hfirst, rfl⟩
  · rintro ⟨s, hfirst, rfl⟩
    obtain rfl := (Explosion.mem_of_firstHit? hfirst).2.2
    exact ⟨⟨s, hfirst, rfl⟩, rfl⟩

/-- What is recorded is all that a report is. -/
theorem eq (h : Records rules explosion blocked candidates report)
    (h' : Records rules explosion blocked candidates' report')
    (hfirst : ∀ id, explosion.firstHit? candidates' id = explosion.firstHit? candidates id) :
    report' = report := by
  have himpacts : report'.impacts = report.impacts := by
    apply h'.ascends.eq_of_mem_iff h.ascends
    intro impact
    simp only [h'.mem_impacts, h.mem_impacts, hfirst]
  have hknockback : report'.playerKnockback = report.playerKnockback := by
    apply h'.ascends_knockback.eq_of_mem_iff h.ascends_knockback
    intro entry
    simp only [h'.mem_knockback, h.mem_knockback, hfirst]
  cases report
  cases report'
  cases himpacts
  cases hknockback
  rfl

/-- A candidate that is the first of its number to be hit is entered. -/
theorem insert (h : Records rules explosion blocked candidates report) {s : Snapshot}
    (hhits : explosion.Hits s) (hfree : explosion.firstHit? candidates s.id = none) :
    Records rules explosion blocked (candidates ++ [s])
      (report.insert (rules.impactOn explosion blocked s) s.isReplayTarget) := by
  have hfirst := Explosion.firstHit?_append_of_hits hhits hfree
  have hfresh : ∀ t, explosion.firstHit? candidates t.id = some t → t.id.index ≠ s.id.index := by
    intro t ht hindex
    have hid : t.id = s.id := congrArg EntityId.mk hindex
    rw [hid, hfree] at ht
    cases ht
  unfold ImpactReport.insert
  constructor
  · apply ascends_insertByKey h.ascends
    intro impact himpact
    obtain ⟨t, ht, rfl⟩ := (h.mem_impacts impact).mp himpact
    exact hfresh t ht
  · dsimp only
    split
    · apply ascends_insertByKey h.ascends_knockback
      intro entry hentry
      obtain ⟨t, ht, -, rfl⟩ := (h.mem_knockback entry).mp hentry
      exact hfresh t ht
    · exact h.ascends_knockback
  · intro impact
    rw [mem_insertByKey, h.mem_impacts]
    simp only [hfirst, or_and_right, exists_or, exists_eq_left]
    exact or_congr_left eq_comm
  · intro entry
    simp only [hfirst, or_and_right, exists_or, exists_eq_left]
    rw [← h.mem_knockback]
    split
    · next hreplayed =>
      rw [mem_insertByKey]
      simp [hreplayed, eq_comm, impactOn]
    · next hunseen => simp [hunseen]

/-- A candidate that is not hit, or not the first of its number, is passed over. -/
theorem pass (h : Records rules explosion blocked candidates report) {s : Snapshot}
    (hpassed : explosion.Hits s → explosion.firstHit? candidates s.id ≠ none) :
    Records rules explosion blocked (candidates ++ [s]) report := by
  have hfirst := Explosion.firstHit?_append_of_passed hpassed
  refine ⟨h.ascends, h.ascends_knockback, ?_, ?_⟩
  · simpa only [hfirst] using h.mem_impacts
  · simpa only [hfirst] using h.mem_knockback

/-- **One more candidate** is entered if the blast hits it and hit no earlier one of its
number. -/
theorem record (hradius : explosion.radius > 0.0)
    (h : Records rules explosion blocked candidates report) (s : Snapshot) :
    Records rules explosion blocked (candidates ++ [s])
      (rules.record explosion blocked report s) := by
  have hnew : (reaches explosion s && (report.get? s.id).isNone) = true ↔
      explosion.Hits s ∧ explosion.firstHit? candidates s.id = none := by
    rw [h.get?_eq, Option.isNone_map, Bool.and_eq_true, Option.isNone_iff_eq_none,
      Explosion.hits_iff, and_iff_right hradius]
  rw [ImpactRules.record]
  split
  · next hentered =>
    obtain ⟨hhits, hfree⟩ := hnew.mp hentered
    exact h.insert hhits hfree
  · next hleft =>
    apply h.pass
    intro hhits hfree
    exact hleft (hnew.mpr ⟨hhits, hfree⟩)

end Records

theorem records_resolve (rules : ImpactRules) (explosion : Explosion) (blocked : SightBlock)
    (candidates : List Snapshot) :
    Records rules explosion blocked candidates (rules.resolve explosion blocked candidates) := by
  rw [resolve]
  by_cases hradius : explosion.radius > 0.0
  · rw [if_neg fun hle => (explosion.diameter_le_zero_iff.mp hle) hradius]
    induction candidates using List.reverseRecOn with
    | nil => exact ⟨.nil, .nil, by simp [Explosion.firstHit?], by simp [Explosion.firstHit?]⟩
    | append_singleton candidates s ih =>
        rw [List.foldl_append]
        exact ih.record hradius s
  · rw [if_pos (explosion.diameter_le_zero_iff.mpr hradius)]
    have hnobody : ∀ s id, explosion.firstHit? candidates id ≠ some s := fun s id hfirst =>
      hradius (Explosion.mem_of_firstHit? hfirst).2.1.radius
    exact ⟨.nil, .nil, by simp [hnobody], by simp [hnobody]⟩

end ImpactRules

/-! ## Reports -/

/-- An impact less the push. -/
def EntityImpact.still (impact : EntityImpact) : EntityImpact := { impact with impulse := .zero }

/-- What the report on some candidates says. -/
structure Resolution (rules : ImpactRules) (explosion : Explosion) (blocked : SightBlock)
    (candidates : List Snapshot) (report : ImpactReport) : Prop where
  /-- There is an impact on those whom the blast hits. -/
  recorded : ∀ id, (∃ impact ∈ report.impacts, impact.entity = id) ↔
    ∃ s ∈ candidates, s.id = id ∧ explosion.Hits s
  /-- No one is hit twice. -/
  once : (report.impacts.map EntityImpact.entity).Nodup
  /-- The impact is that on the first candidate of the number that is hit. -/
  first : ∀ id, report.get? id =
    (explosion.firstHit? candidates id).map (rules.impactOn explosion blocked)
  /-- The same push is replayed for players that knockback moves. -/
  replayed : ∀ id impulse, (id, impulse) ∈ report.playerKnockback ↔
    ∃ s impact, explosion.firstHit? candidates id = some s ∧ s.isReplayTarget = true ∧
      report.get? id = some impact ∧ impact.impulse = impulse
  replayed_once : (report.playerKnockback.map Prod.fst).Nodup
  /-- The order of distinct candidates does not matter. -/
  order : (candidates.map Snapshot.id).Nodup → ∀ candidates', candidates.Perm candidates' →
    rules.resolve explosion blocked candidates' = report
  /-- The knockback modifier changes nothing but impulses. -/
  modifier : ∀ knockback,
    (rules.resolve (explosion.withKnockback knockback) blocked candidates).impacts.map
        EntityImpact.still = report.impacts.map EntityImpact.still ∧
    (rules.resolve (explosion.withKnockback knockback) blocked candidates).playerKnockback.map
        Prod.fst = report.playerKnockback.map Prod.fst

namespace ImpactRules

variable (rules : ImpactRules) (explosion : Explosion) (blocked : SightBlock)
  (candidates : List Snapshot)

/-- The impulse is all of an impact that the knockback modifier enters into. -/
theorem still_impactOn_withKnockback (knockback : Knockback) (s : Snapshot) :
    (rules.impactOn (explosion.withKnockback knockback) blocked s).still =
      (rules.impactOn explosion blocked s).still := by
  simp only [EntityImpact.still, impactOn]
  rfl

theorem map_still_withKnockback (knockback : Knockback) :
    (rules.resolve (explosion.withKnockback knockback) blocked candidates).impacts.map
        EntityImpact.still =
      (rules.resolve explosion blocked candidates).impacts.map EntityImpact.still := by
  have h := rules.records_resolve explosion blocked candidates
  have h' := rules.records_resolve (explosion.withKnockback knockback) blocked candidates
  have hsame := rules.still_impactOn_withKnockback explosion blocked knockback
  refine (h'.ascends.map EntityImpact.still _ fun _ => rfl).eq_of_mem_iff
    (h.ascends.map EntityImpact.still (·.entity.index) fun _ => rfl) ?_
  intro impact
  simp only [List.mem_map, h'.mem_impacts, h.mem_impacts, Explosion.firstHit?_withKnockback]
  constructor
  · rintro ⟨_, ⟨s, hfirst, rfl⟩, rfl⟩
    exact ⟨_, ⟨s, hfirst, rfl⟩, (hsame s).symm⟩
  · rintro ⟨_, ⟨s, hfirst, rfl⟩, rfl⟩
    exact ⟨_, ⟨s, hfirst, rfl⟩, hsame s⟩

theorem map_fst_withKnockback (knockback : Knockback) :
    (rules.resolve (explosion.withKnockback knockback) blocked candidates).playerKnockback.map
        Prod.fst =
      (rules.resolve explosion blocked candidates).playerKnockback.map Prod.fst := by
  have h := rules.records_resolve explosion blocked candidates
  have h' := rules.records_resolve (explosion.withKnockback knockback) blocked candidates
  refine (h'.ascends_knockback.map Prod.fst _ fun _ => rfl).eq_of_mem_iff
    (h.ascends_knockback.map Prod.fst EntityId.index fun _ => rfl) ?_
  intro id
  simp only [List.mem_map, h'.mem_knockback, h.mem_knockback, Explosion.firstHit?_withKnockback]
  constructor
  · rintro ⟨_, ⟨s, hfirst, hreplayed, rfl⟩, rfl⟩
    exact ⟨_, ⟨s, hfirst, hreplayed, rfl⟩, rfl⟩
  · rintro ⟨_, ⟨s, hfirst, hreplayed, rfl⟩, rfl⟩
    exact ⟨_, ⟨s, hfirst, hreplayed, rfl⟩, rfl⟩

/-- **Resolution selects whom the blast reaches**, once each. -/
theorem resolution_resolve : Resolution rules explosion blocked candidates
    (rules.resolve explosion blocked candidates) := by
  have h := rules.records_resolve explosion blocked candidates
  exact {
    recorded := by
      intro id
      rw [← Explosion.isSome_firstHit?_iff, ← Option.isSome_map, ← h.get?_eq,
        Option.isSome_iff_exists]
      simp only [ImpactReport.get?, find?_eq_some_iff_of_ascends h.ascends]
    once := rules.isSimple_resolve explosion blocked candidates
    first := h.get?_eq
    replayed := by
      intro id impulse
      rw [h.mem_knockback]
      constructor
      · rintro ⟨s, hfirst, hreplayed, hentry⟩
        obtain ⟨rfl, rfl⟩ := Prod.mk.inj hentry
        exact ⟨s, _, hfirst, hreplayed, by rw [h.get?_eq, hfirst]; rfl, rfl⟩
      · rintro ⟨s, impact, hfirst, hreplayed, himpact, rfl⟩
        obtain rfl := (Explosion.mem_of_firstHit? hfirst).2.2
        rw [h.get?_eq, hfirst] at himpact
        exact ⟨s, hfirst, hreplayed, by rw [← Option.some.inj himpact]⟩
    replayed_once := by
      have hindices := h.ascends_knockback.nodup_map
      rw [← Function.comp_def, ← List.map_map] at hindices
      exact hindices.of_map
    order := by
      intro hdistinct candidates' hperm
      exact h.eq (rules.records_resolve explosion blocked candidates')
        (Explosion.firstHit?_perm hdistinct hperm)
    modifier := by
      intro knockback
      exact ⟨rules.map_still_withKnockback explosion blocked candidates knockback,
        rules.map_fst_withKnockback explosion blocked candidates knockback⟩ }

end ImpactRules

end Crater
