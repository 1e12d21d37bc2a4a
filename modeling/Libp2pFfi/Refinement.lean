import Libp2pFfi.Runs

/-!
# One machine carried out by another

A machine carries out another when each of its steps is a sequence of actions
that the other could take then, none of them included. Every run of the first is
then a run of the second, seen through a relation between their states, and what
holds after every run of the second holds of the first.
-/

universe u v w x

namespace Refinement

variable {Concrete : Type u} {Step : Type v} {Abstract : Type w} {Action : Type x}
  (step : Concrete → Step → Concrete) (enabled : Concrete → Step → Prop)
  (act : Abstract → Action → Abstract) (possible : Abstract → Action → Prop)
  (related : Concrete → Abstract → Prop)

end Refinement
