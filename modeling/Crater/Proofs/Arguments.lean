import Mathlib
import Crater.Main
import Crater.Proofs.NumberTexts

/-!
# Groups of arguments

Arguments are read in groups, an option with its value or the option that takes none. A
word is an option or a value by its place alone: `--fire` behind `--config` is a path. So
arguments are accepted if they are the words of some groups that fit, put one behind the
other, and else the first group that does not fit is reported.

One more group behind the others overrides what they gave to its option and changes
nothing else, which is why the last value of an option counts.
-/

namespace Crater.Demo

/-! ## Groups -/

namespace Options

def Key.argument : Key → String
  | config => "--config"
  | blocks => "--blocks"
  | seed => "--seed"
  | radius => "--radius"

theorem Key.ofArgument?_eq_some_iff {argument : String} {key : Key} :
    ofArgument? argument = some key ↔ argument = key.argument := by
  constructor
  · intro h
    unfold ofArgument? at h
    split at h <;> cases h <;> rfl
  · rintro rfl
    cases key <;> rfl

theorem Key.ofArgument?_argument (key : Key) : ofArgument? key.argument = some key :=
  ofArgument?_eq_some_iff.mpr rfl

end Options

open Options (Key)

/-- Arguments that belong together. -/
inductive Group where
  /-- An option and its value. -/
  | valued (key : Key) (value : String)
  /-- The option that takes no value. -/
  | fire

namespace Group

def arguments : Group → List String
  | valued key value => [key.argument, value]
  | fire => ["--fire"]

/-- Whether the value of a group is one for its option: a path can be any text, a seed is a natural
number of 64 bits, and a radius is a number. -/
def Fits : Group → Prop
  | valued .config _ | valued .blocks _ | fire => True
  | valued .seed value => ∃ n < UInt64.size, Decimal.IsNatural value n
  | valued .radius value => ∃ literal, Decimal.IsNumber value.toList literal

def value? (key : Key) : Group → Option String
  | valued other value => if other = key then some value else none
  | fire => none

end Group

/-- Words that start with no group that fits, and what is wrong with them. -/
inductive Misfit : List String → OptionFault → Prop
  | unknown {argument : String} (rest : List String) (noKey : ∀ key : Key, argument ≠ key.argument)
      (noFire : argument ≠ "--fire") : Misfit (argument :: rest) (.unknown argument)
  | missingValue (key : Key) : Misfit [key.argument] (.missingValue key.argument)
  | badSeed {value : String} {fault : Decimal.NaturalFault} (rest : List String)
      (unread : Decimal.readNatural UInt64.size value = .error fault) :
      Misfit (Key.seed.argument :: value :: rest) (.badSeed fault)
  | badRadius {value : String} {fault : Decimal.NumberFault} (rest : List String)
      (unread : Decimal.readNumber value = .error fault) :
      Misfit (Key.radius.argument :: value :: rest) (.badRadius fault)

theorem exists_misfit_of_not_fits {key : Key} {value : String}
    (h : ¬ (Group.valued key value).Fits) (rest : List String) :
    ∃ fault, Misfit (key.argument :: value :: rest) fault := by
  cases key with
  | config => exact absurd trivial h
  | blocks => exact absurd trivial h
  | seed =>
      cases hread : Decimal.readNatural UInt64.size value with
      | error fault => exact ⟨_, .badSeed rest hread⟩
      | ok n =>
          obtain ⟨hnatural, hlt⟩ := Decimal.readNatural_eq_ok_iff.mp hread
          exact absurd ⟨n, hlt, hnatural⟩ h
  | radius =>
      cases hread : Decimal.readNumber value with
      | error fault => exact ⟨_, .badRadius rest hread⟩
      | ok literal => exact absurd ⟨literal, Decimal.readNumber_eq_ok_iff.mp hread⟩ h

/-- Words that can be taken apart: those of groups that fit, and then either nothing or words that
start with no such group. -/
def TakenApart (words : List String) : Prop :=
  ∃ (groups : List Group) (rest : List String), (∀ g ∈ groups, g.Fits) ∧
    groups.flatMap Group.arguments ++ rest = words ∧ (rest = [] ∨ ∃ fault, Misfit rest fault)

namespace TakenApart

theorem nil : TakenApart [] := ⟨[], [], by simp, rfl, .inl rfl⟩

theorem of_misfit {words : List String} {fault : OptionFault} (h : Misfit words fault) :
    TakenApart words :=
  ⟨[], words, by simp, rfl, .inr ⟨fault, h⟩⟩

theorem cons {words : List String} {g : Group} (hg : g.Fits) (h : TakenApart words) :
    TakenApart (g.arguments ++ words) := by
  obtain ⟨groups, rest, hfits, rfl, hend⟩ := h
  refine ⟨g :: groups, rest, List.forall_mem_cons.mpr ⟨hg, hfits⟩, ?_, hend⟩
  rw [List.flatMap_cons, List.append_assoc]

end TakenApart

/-- **Any arguments can be taken apart.** -/
theorem takenApart (arguments : List String) : TakenApart arguments := by
  match arguments with
  | [] => exact .nil
  | argument :: rest =>
      by_cases hkey : ∃ key : Key, argument = key.argument
      · obtain ⟨key, rfl⟩ := hkey
        match rest with
        | [] => exact .of_misfit (.missingValue key)
        | value :: rest =>
            by_cases hfits : (Group.valued key value).Fits
            · exact .cons hfits (takenApart rest)
            · obtain ⟨fault, hmisfit⟩ := exists_misfit_of_not_fits hfits rest
              exact .of_misfit hmisfit
      · by_cases hfire : argument = "--fire"
        · subst hfire
          exact .cons (g := .fire) trivial (takenApart rest)
        · exact .of_misfit (.unknown rest (not_exists.mp hkey) hfire)

/-! ## Options that were chosen -/

def lastValue? (key : Key) (groups : List Group) : Option String :=
  (groups.filterMap (Group.value? key)).getLast?

theorem lastValue?_append_singleton (key : Key) (groups : List Group) (g : Group) :
    lastValue? key (groups ++ [g]) = (g.value? key).or (lastValue? key groups) := by
  rw [lastValue?, List.filterMap_append, List.getLast?_append]
  congr 1
  cases h : g.value? key <;> simp [h]

/-- The seed for the text that was given for it, or for none. -/
def IsSeed : Option String → UInt64 → Prop
  | none, seed => seed = 42
  | some text, seed => Decimal.IsNatural text seed.toNat

def IsRadius : Option String → Option Float32 → Prop
  | none, radius => radius = none
  | some text, radius =>
    ∃ literal, Decimal.IsNumber text.toList literal ∧ radius = some literal.toSingle

theorem IsSeed.unique {text : Option String} {seed seed' : UInt64} (h : IsSeed text seed)
    (h' : IsSeed text seed') : seed = seed' := by
  cases text with
  | none => exact Eq.trans h (Eq.symm h')
  | some text =>
      have hread := Decimal.readNatural_eq_ok_iff.mpr ⟨h, seed.toNat_lt⟩
      have hread' := Decimal.readNatural_eq_ok_iff.mpr ⟨h', seed'.toNat_lt⟩
      exact UInt64.toNat_inj.mp (Except.ok.inj (hread.symm.trans hread'))

theorem IsRadius.unique {text : Option String} {radius radius' : Option Float32}
    (h : IsRadius text radius) (h' : IsRadius text radius') : radius = radius' := by
  cases text with
  | none => exact Eq.trans h (Eq.symm h')
  | some text =>
      obtain ⟨literal, hliteral, rfl⟩ := h
      obtain ⟨literal', hliteral', rfl⟩ := h'
      have hread := Decimal.readNumber_eq_ok_iff.mpr hliteral
      have hread' := Decimal.readNumber_eq_ok_iff.mpr hliteral'
      rw [Except.ok.inj (hread.symm.trans hread')]

structure Chosen (groups : List Group) (options : Options) : Prop where
  config : options.config = lastValue? .config groups
  blocks : options.blocks = lastValue? .blocks groups
  seed : IsSeed (lastValue? .seed groups) options.seed
  radius : IsRadius (lastValue? .radius groups) options.radius
  fire : options.fire = true ↔ Group.fire ∈ groups

namespace Chosen

variable {groups : List Group} {options options' : Options}

theorem unique (h : Chosen groups options) (h' : Chosen groups options') : options = options' := by
  have hconfig := h.config.trans h'.config.symm
  have hblocks := h.blocks.trans h'.blocks.symm
  have hseed := h.seed.unique h'.seed
  have hradius := h.radius.unique h'.radius
  have hfire := Bool.eq_iff_iff.mpr (h.fire.trans h'.fire.symm)
  cases options
  cases options'
  simp_all

theorem nil : Chosen [] {} := ⟨rfl, rfl, rfl, rfl, by simp⟩

theorem append_fire (h : Chosen groups options) :
    Chosen (groups ++ [.fire]) { options with fire := true } := by
  refine ⟨?_, ?_, ?_, ?_, by simp⟩
  all_goals rw [lastValue?_append_singleton]
  · exact h.config
  · exact h.blocks
  · exact h.seed
  · exact h.radius

/-- A value for an option is the last one of that option. -/
theorem append_valued (h : Chosen groups options) {key : Key} {value : String}
    (hfits : (Group.valued key value).Fits) :
    ∃ chosen, options.assign key value = .ok chosen ∧
      Chosen (groups ++ [.valued key value]) chosen := by
  have hfire : Group.fire ∈ groups ++ [Group.valued key value] ↔ Group.fire ∈ groups := by
    simp
  cases key with
  | config =>
      refine ⟨{ options with config := some value }, rfl, ?_, ?_, ?_, ?_, h.fire.trans hfire.symm⟩
      all_goals rw [lastValue?_append_singleton]
      · rfl
      · exact h.blocks
      · exact h.seed
      · exact h.radius
  | blocks =>
      refine ⟨{ options with blocks := some value }, rfl, ?_, ?_, ?_, ?_, h.fire.trans hfire.symm⟩
      all_goals rw [lastValue?_append_singleton]
      · exact h.config
      · rfl
      · exact h.seed
      · exact h.radius
  | seed =>
      obtain ⟨n, hlt, hnatural⟩ := hfits
      have hread := Decimal.readNatural_eq_ok_iff.mpr ⟨hnatural, hlt⟩
      refine ⟨{ options with seed := n.toUInt64 }, by simp only [Options.assign, hread],
        ?_, ?_, ?_, ?_, h.fire.trans hfire.symm⟩
      all_goals rw [lastValue?_append_singleton]
      · exact h.config
      · exact h.blocks
      · show Decimal.IsNatural value n.toUInt64.toNat
        rwa [UInt64.toNat_ofNat_of_lt' hlt]
      · exact h.radius
  | radius =>
      obtain ⟨literal, hnumber⟩ := hfits
      have hread := Decimal.readNumber_eq_ok_iff.mpr hnumber
      refine ⟨{ options with radius := some literal.toSingle }, by simp only [Options.assign, hread],
        ?_, ?_, ?_, ?_, h.fire.trans hfire.symm⟩
      all_goals rw [lastValue?_append_singleton]
      · exact h.config
      · exact h.blocks
      · exact h.seed
      · exact ⟨literal, hnumber, rfl⟩

end Chosen

/-! ## Reading -/

namespace Options

theorem readFrom_valued (options : Options) (key : Key) (value : String) (rest : List String) :
    options.readFrom (key.argument :: value :: rest) =
      match options.assign key value with
      | .ok chosen => chosen.readFrom rest
      | .error fault => .error fault := by
  cases hassign : options.assign key value <;>
    simp only [readFrom, Key.ofArgument?_argument, hassign]

theorem readFrom_fire (options : Options) (rest : List String) :
    options.readFrom ("--fire" :: rest) = readFrom { options with fire := true } rest := rfl

/-- Groups that fit are read to what they choose, whatever comes behind them. -/
theorem exists_chosen (groups : List Group) (hfits : ∀ g ∈ groups, g.Fits) :
    ∃ options, Chosen groups options ∧ ∀ rest,
      readFrom {} (groups.flatMap Group.arguments ++ rest) = options.readFrom rest := by
  induction groups using List.reverseRecOn with
  | nil => exact ⟨{}, .nil, fun _ => rfl⟩
  | append_singleton groups g ih =>
      obtain ⟨options, hchosen, hread⟩ := ih fun g hg => hfits g (List.mem_append_left _ hg)
      have hlast : g.Fits := hfits g (by simp)
      simp only [List.flatMap_append, List.flatMap_singleton, List.append_assoc, hread]
      cases g with
      | fire => exact ⟨_, hchosen.append_fire, options.readFrom_fire⟩
      | valued key value =>
          obtain ⟨chosen, hassign, hchosen⟩ := hchosen.append_valued hlast
          refine ⟨chosen, hchosen, ?_⟩
          intro rest
          show options.readFrom (key.argument :: value :: rest) = _
          rw [readFrom_valued, hassign]

theorem readFrom_of_misfit {rest : List String} {fault : OptionFault} (h : Misfit rest fault)
    (options : Options) : options.readFrom rest = .error fault := by
  cases h with
  | @unknown argument rest noKey noFire =>
      have hnone : Key.ofArgument? argument = none := by
        rw [Option.eq_none_iff_forall_ne_some]
        intro key hkey
        exact noKey key (Key.ofArgument?_eq_some_iff.mp hkey)
      rw [readFrom, hnone]
      simp [noFire]
  | missingValue key => rw [readFrom, Key.ofArgument?_argument]
  | badSeed rest unread =>
      rw [readFrom_valued]
      simp only [assign, unread]
  | badRadius rest unread =>
      rw [readFrom_valued]
      simp only [assign, unread]

/-- How arguments are read: groups of words from the left to the right, as long as they fit. -/
structure ReadsInGroups (arguments : List String) : Prop where
  ok_iff : ∀ options, read arguments = .ok options ↔
    ∃ groups : List Group, (∀ g ∈ groups, g.Fits) ∧
      groups.flatMap Group.arguments = arguments ∧ Chosen groups options
  error_iff : ∀ fault, read arguments = .error fault ↔
    ∃ (groups : List Group) (rest : List String), (∀ g ∈ groups, g.Fits) ∧
      groups.flatMap Group.arguments ++ rest = arguments ∧ Misfit rest fault
  /-- Whatever the files are, arguments that are refused lead to a report of the fault and to the
  usage, and to nothing else. -/
  refused : ∀ fault, read arguments = .error fault → ∀ files, run arguments files =
    ⟨2, [.ready fallbackFilter, .failed fault.message], [usage]⟩
  /-- No file is read for arguments that are refused. -/
  unread : ∀ fault, read arguments = .error fault → namedPaths arguments = []
  exitCode_iff : ∀ files, (run arguments files).exitCode = 2 ↔
    ∃ fault, read arguments = .error fault

/-- **The command line** is read exactly. -/
theorem readsInGroups (arguments : List String) : ReadsInGroups arguments where
  ok_iff := by
    intro options
    constructor
    · intro h
      obtain ⟨groups, rest, hfits, rfl, hend⟩ := takenApart arguments
      obtain ⟨chosen, hchosen, hread⟩ := exists_chosen groups hfits
      rw [read, hread] at h
      rcases hend with rfl | ⟨fault, hmisfit⟩
      · cases h
        exact ⟨groups, hfits, (List.append_nil _).symm, hchosen⟩
      · rw [readFrom_of_misfit hmisfit] at h
        cases h
    · rintro ⟨groups, hfits, rfl, hchosen⟩
      obtain ⟨chosen, hchosen', hread⟩ := exists_chosen groups hfits
      have hall := hread []
      rw [List.append_nil] at hall
      rw [read, hall, hchosen.unique hchosen']
      rfl
  error_iff := by
    intro fault
    constructor
    · intro h
      obtain ⟨groups, rest, hfits, rfl, hend⟩ := takenApart arguments
      obtain ⟨chosen, hchosen, hread⟩ := exists_chosen groups hfits
      rw [read, hread] at h
      rcases hend with rfl | ⟨fault', hmisfit⟩
      · cases h
      · rw [readFrom_of_misfit hmisfit] at h
        cases h
        exact ⟨groups, rest, hfits, rfl, hmisfit⟩
    · rintro ⟨groups, rest, hfits, rfl, hmisfit⟩
      obtain ⟨chosen, -, hread⟩ := exists_chosen groups hfits
      rw [read, hread, readFrom_of_misfit hmisfit]
  refused := by
    intro fault h files
    rw [run, h]
  unread := by
    intro fault h
    rw [namedPaths, h]
  exitCode_iff := by
    intro files
    constructor
    · intro h
      cases hread : read arguments with
      | error fault => exact ⟨fault, rfl⟩
      | ok options =>
          rw [run, hread] at h
          dsimp only at h
          split at h
          · cases h
          · split at h <;> cases h
    · rintro ⟨fault, h⟩
      rw [run, h]

/-- A word behind an option is its value, whatever it looks like. -/
example : read ["--config", "--fire", "--fire"] =
    .ok { config := some "--fire", fire := true } := rfl

end Options

end Crater.Demo
