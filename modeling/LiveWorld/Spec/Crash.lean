import LiveWorld.Lib.Largest
import LiveWorld.Persistence

/-!
# Snapshots of one lifetime

One process writes one snapshot after the other, and may be stopped between any two file operations.
-/

namespace LiveWorld.Spec
open HashTable

/-- A call of `write`: the order in which the directory is listed, and the snapshot. -/
abbrev SnapshotWrite := Order × WorldSnapshot

def completed : Faults := fun _ => false

/-- The process is stopped before the file operation `cut`. -/
def stoppedAt (cut : Nat) : Faults := fun k => decide (cut ≤ k)

def writeAll {codec : Codec} (store : SnapshotStore) (writes : List SnapshotWrite) : Directory codec :=
  writes.foldl (fun files write => (store.write completed write.1 files write.2).2) ∅

def ticks (writes : List SnapshotWrite) : List UInt64 := writes.map fun write => write.2.tick

structure LargestTicks (m : Nat) (all kept : Finset UInt64) : Prop where
  subset : kept ⊆ all
  card : kept.card = min all.card m
  above : ∀ tick ∈ all, tick ∉ kept → ∀ other ∈ kept, tick < other

structure CrashConsistent (codec : Codec) (store : SnapshotStore) (writes : List SnapshotWrite) : Prop where
  retained : ∃ kept, LargestTicks store.maxSnapshots (ticks writes).toFinset kept ∧
    ∀ name, (name ∈ (writeAll store writes : Directory codec) ∧ isSnapshotName name = true) ↔
      ∃ tick ∈ kept, name = snapshotName tick
  readable : ∀ ord last cut, (∀ tick ∈ ticks writes, tick ≤ last.tick) → writes ≠ [] ∨ 2 ≤ cut →
    ∃ s, SnapshotStore.readLatest
        (store.write (stoppedAt cut) ord (writeAll store writes : Directory codec) last).2 = .ok (some s) ∧
      (s = last ∨ writes.getLast?.map Prod.snd = some s)

end LiveWorld.Spec
