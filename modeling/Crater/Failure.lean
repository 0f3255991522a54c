import Crater.Block.PaletteFile
import Crater.Config
/-!
# Failures

Every way in which an explosion can fail to be built or run, from its parameters and files to the
blocks it reaches, and the words for each.
-/

namespace Crater

/-- The stages of an explosion's life. -/
inductive Phase where
  /-- Built, not yet detonated. -/
  | created
  /-- Called off before it was detonated. -/
  | cancelled
  /-- Its effects are known and entities are hit; the voxels are still there. -/
  | detonated
  /-- Its voxels are gone. -/
  | finalized
  deriving DecidableEq

def Phase.name : Phase → String
  | created => "Created"
  | cancelled => "Cancelled"
  | detonated => "Detonated"
  | finalized => "Finalized"

inductive Operation where
  | detonate
  | clear
  | finalize
  deriving DecidableEq

/-- An operation in words, as they stand before "an explosion". -/
def Operation.words : Operation → String
  | detonate => "detonate"
  | clear => "clear affected voxels of"
  | finalize => "finalize"

/-- Why an explosion could not be built or run. -/
inductive Failure where
  | invalidRadius (radius : Float32)
  | invalidOrigin (origin : Vec3)
  /-- The operation is not allowed in this phase. -/
  | invalidState (operation : Operation) (phase : Phase)
  | invalidConfig (fault : ConfigFault)
  | invalidPalette (fault : PaletteFault)
  | unknownBlock (name : String)
  /-- The handler of the block at this position failed. -/
  | blockHandler (position : Position) (cause : HandlerError)
  /-- A file could not be read, for the given reason. -/
  | unreadable (reason : String)
  /-- A file is not a well-formed document of its kind. -/
  | malformed
  /-- A ray neither weakens nor moves, so its walk has no end. -/
  | endlessRay

def Failure.message : Failure → String
  | invalidRadius radius => "invalid explosion radius: " ++ Decimal.plainSingle radius
  | invalidOrigin origin => "invalid explosion origin: " ++ origin.text
  | invalidState operation phase =>
    "cannot " ++ operation.words ++ " an explosion in state " ++ phase.name
  | invalidConfig fault => "invalid configuration: " ++ fault.message
  | invalidPalette fault => "invalid configuration: " ++ fault.message
  | unknownBlock name => "unknown block: " ++ name
  | blockHandler position _ => "block handler failed at " ++ position.text
  | unreadable reason => "i/o error: " ++ reason
  | malformed => "toml error"
  | endlessRay => "explosion ray has no end"

/-- The block that a name stands for; it has to be registered. -/
def Registry.require (r : Registry) (name : String) : Except Failure BlockId :=
  match r.byName? name with
  | some id => .ok id
  | none => .error (.unknownBlock name)

def Registry.ofText (text : String) : Except Failure Registry :=
  match Palette.ofText? text with
  | none => .error .malformed
  | some palette => (Registry.ofPalette palette).mapError .invalidPalette

def Config.ofText (text : String) : Except Failure Config :=
  match Config.ofText? text with
  | none => .error .malformed
  | some config => (config.validate.map fun _ => config).mapError .invalidConfig

end Crater
