import TaleLoom.Consumption.Record
import TaleLoom.Registry.Basic
/-!
A scene: the shared desk with one registry, one library of spark tables and one record of what has
been consumed. Expanding text is a step on a scene; a step on the desk alone is one too.
-/

namespace TaleLoom

/-- Everything that expanding a text can use and change. -/
structure Scene where
  desk : Desk
  registry : Registry
  sparks : SparkLibrary
  store : ConsumptionStore := {}

namespace Scene

/-- A step on the desk as a step on the scene. -/
def atDesk {α : Type} (act : Act Desk α) : Act Scene α :=
  Act.within (·.desk) (fun desk scene => { scene with desk }) act

instance : MonadLift (Act Desk) (Act Scene) := ⟨atDesk⟩

end Scene

end TaleLoom
