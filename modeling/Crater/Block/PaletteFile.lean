import Crater.Block.Palette
import Crater.Toml.Document
/-!
# Palette files

A palette file lists blocks under `block` and fluids under `fluid`. Only names and resistances have to
be given.
-/

namespace Crater

open Toml

/-- The keys of a block's table, in the order of an array that stands for one. -/
def BlockSpec.keys : List String :=
  ["name", "resistance", "solid", "collision", "drops", "max_stack", "handler"]

def BlockSpec.ofValue? (value : Value) : Option BlockSpec := do
  let entries ← value.fields? keys
  return {
    name := ← entries.require "name" Value.string?
    resistance := ← entries.require "resistance" Value.single?
    solid := ← entries.optional "solid" true Value.boolean?
    collision := ← entries.optional "collision" true Value.boolean?
    drops := ← entries.optional "drops" false Value.boolean?
    maxStack := ← entries.optional "max_stack" ItemStack.defaultMaxStack Value.natural?
    handler := ← entries.optional "handler" .dropSelf fun v => v.word?.bind HandlerKind.ofName?
  }

def FluidSpec.ofValue? (value : Value) : Option FluidSpec := do
  let entries ← value.fields? ["name", "resistance"]
  return {
    name := ← entries.require "name" Value.string?
    resistance := ← entries.require "resistance" Value.single?
  }

def Palette.ofText? (text : String) : Option Palette := do
  let entries ← (Value.table .header (← Toml.parse text)).fields? ["block", "fluid"]
  let blocks ← entries.optional "block" [] Value.items?
  let fluids ← entries.optional "fluid" [] Value.items?
  return ⟨← blocks.mapM BlockSpec.ofValue?, ← fluids.mapM FluidSpec.ofValue?⟩

end Crater
