import LiveWorld.Spec.Recovery

/-!
# Snapshots over process lifetimes

A lifetime starts with a new engine and the directory that the earlier ones left.
-/

namespace LiveWorld.Spec
open HashTable

structure Process (codec : Codec) where
  engine : WorldEngine
  files : Directory codec

inductive ProcessStep : Type 1
  | restart (cfg : WorldConfig)
  | call (call : EngineCall)
  | persist (faults : Faults) (dirOrder actorOrder : Order) (now : UInt64)

def Process.next {codec : Codec} (store : SnapshotStore) (p : Process codec) : ProcessStep → Process codec
  | .restart cfg => { p with engine := WorldEngine.new cfg }
  | .call call => { p with engine := call.apply p.engine }
  | .persist faults dirOrder actorOrder now =>
      { p with files := (store.write faults dirOrder p.files (p.engine.worldSnapshotForPersist actorOrder now)).2 }

/-- The states of any number of lifetimes, the first of which finds an empty directory. -/
abbrev ProcessReachable {codec : Codec} (store : SnapshotStore) : Process codec → Prop :=
  Transition.Reachable (fun p => ∃ cfg, p = ⟨WorldEngine.new cfg, ∅⟩) (fun _ _ => True)
    fun p step => some (p.next store step)

def newerTicks {codec : Codec} (files : Directory codec) (tick : UInt64) : Set UInt64 :=
  { t | tick < t ∧ snapshotName t ∈ files }

end LiveWorld.Spec
