import Mathlib.Data.List.AList
import Mathlib.Logic.Function.Basic
import Pr0xteus.Lib.GoTime
import Pr0xteus.Lib.Layering

/-!
# Services and the order they start in

`internal/pkg/service-manager`: what the manager asks of a service, and `resolveOrder`, which sorts
the services into groups. An interface that a service may or may not implement is a field with a
value for "not implemented". The ranges over a map go through its keys in any order, so the functions
take the orders they happen to use.
-/

namespace Pr0xteus.ServiceManager

open GoTime

inductive Sentinel where
  | noEnabledServices
  | cyclicDependency
  | servicePanic
  deriving DecidableEq, Repr

inductive Err where
  | sentinel (s : Sentinel)
  | other (text : String)
  | wrap (cause : Err) (message : String)
  deriving DecidableEq, Repr

/-- `ctxerrors.Wrap`: nil stays nil. -/
def wrap (err : Option Err) (message : String) : Option Err := err.map (.wrap · message)

structure Retry where
  maxRetries : Int64
  retryDelay : Duration
  deriving DecidableEq

structure Service where
  name : String
  /-- `Retryable` -/
  retryable : Option Retry := none
  /-- `AllowedFailure`, and what its method says -/
  allowedFailure : Bool := false
  /-- `Dependent` -/
  dependencies : List String := []
  /-- `ReadyNotifier` -/
  readyNotifier : Bool := false
  deriving DecidableEq

/-- The map of services; `Add` keys each of them by its name. -/
structure Services where
  map : AList fun _ : String => Service
  named : ∀ name svc, map.lookup name = some svc → svc.name = name

namespace Services

variable (services : Services)

def names : List String := services.map.keys

def dependencies (name : String) : List String :=
  ((services.map.lookup name).map Service.dependencies).getD []

end Services

abbrev Group := List Service

structure DepGraph where
  inDegree : String → Int
  dependents : String → List String

/-- One pass of the inner loop of `buildDepGraphContext`, for a dependency of `name`. -/
def DepGraph.depend (services : Services) (name : String) (g : DepGraph) (depName : String) :
    DepGraph :=
  if depName ∈ services.map then
    { inDegree := Function.update g.inDegree name (g.inDegree name + 1)
      dependents := Function.update g.dependents depName (g.dependents depName ++ [name]) }
  else g

/-- `buildDepGraphContext`, with the order in which it ranges over the services. -/
def buildDepGraph (services : Services) (ranged : List String) : DepGraph :=
  ranged.foldl (fun g name => (services.dependencies name).foldl (DepGraph.depend services name) g)
    ⟨fun _ => 0, fun _ => []⟩

/-- The loop of `topoSort`: the groups so far and how many services they hold. A round takes one unit
of fuel. -/
def topoLoop (services : Services) (dependents : String → List String) :
    (fuel : Nat) → (inDegree : String → Int) → (queue : List String) → (groups : List Group) →
      (processed : Nat) → Option (List Group × Nat)
  | 0, _, _, _, _ => none
  | fuel + 1, inDegree, queue, groups, processed =>
      if queue = [] then some (groups, processed)
      else
        let next := queue.foldl
          (fun counters name => (dependents name).foldl Layering.tick counters) (inDegree, [])
        topoLoop services dependents fuel next.1 next.2
          (groups ++ [queue.filterMap services.map.lookup]) (processed + queue.length)

/-- `topoSort`, with the order in which it ranges over the counters. -/
def topoSort (services : Services) (g : DepGraph) (ranged : List String) :
    Option (Except Err (List Group)) :=
  let queue := ranged.filter fun name => g.inDegree name = 0
  (topoLoop services g.dependents (services.names.length + 1) g.inDegree queue [] 0).map
    fun (groups, processed) =>
      if processed ≠ services.names.length then .error (.sentinel .cyclicDependency) else .ok groups

/-- `resolveOrderContext`. -/
def resolveOrder (services : Services) (ranged ranged' : List String) :
    Option (Except Err (List Group)) :=
  topoSort services (buildDepGraph services ranged) ranged'

end Pr0xteus.ServiceManager
