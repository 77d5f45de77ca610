import LiveWorld.Lib.Sorting
import LiveWorld.WorldEngine

/-!
# Snapshots on disk

The snapshot directory is a map from file names to contents. `Codec` stands for the text encoding and
for bincode, of which only the round trip is used. Every file operation of `write` may fail.
-/

namespace LiveWorld
open HashTable Sorting

/-! ## What is stored -/

structure PersistedSpec where
  id : ActorId
  name : String
  personality : String
  backstory : String
  modelKey : String
  deriving DecidableEq, Repr

structure ActorSnapshot where
  spec : PersistedSpec
  state : ActorState
  deriving DecidableEq, Repr

structure WorldSnapshot where
  tick : UInt64
  timestampMs : UInt64
  actors : List ActorSnapshot
  deriving DecidableEq, Repr

namespace PersistedSpec

def fromSpec (spec : ActorSpec) : PersistedSpec where
  id := spec.id
  name := spec.name
  personality := spec.personality
  backstory := spec.backstory
  modelKey := spec.model.toString

def model (key : String) : LlmModel :=
  if key = "gpt-4o" then .Gpt4o
  else if key = "claude-sonnet-4-6" then .ClaudeSonnet
  else if key = "claude-opus-4-7" then .ClaudeOpus
  else if key = "mock" then .Mock
  else if "ollama/".toList.isPrefixOf key.toList then .Ollama (String.ofList (key.toList.drop 7))
  else .Mock

def intoSpec (self : PersistedSpec) (position : Position) : ActorSpec where
  id := self.id
  name := self.name
  personality := self.personality
  backstory := self.backstory
  model := model self.modelKey
  position := position
  role := ActorRole.default
  faction := Faction.default

end PersistedSpec

def buildSnapshot (tick : UInt64) (actorStates : List ActorState) (actorSpecs : HashMap ActorId ActorSpec)
    (now : UInt64) : WorldSnapshot where
  tick := tick
  timestampMs := now
  actors := actorStates.filterMap fun state =>
    (actorSpecs.lookup state.id).map fun spec => ⟨PersistedSpec.fromSpec spec, state⟩

def WorldEngine.worldSnapshotForPersist (self : WorldEngine) (ord : Order) (now : UInt64) : WorldSnapshot :=
  let states := self.runtime.snapshotAll ord
  let specs := self.runtime.specsSnapshot ord
  buildSnapshot self.tickCount states (HashMap.collect ActorSpec.id specs) now

def restoreActors (snapshot : WorldSnapshot) : List ActorSpec :=
  snapshot.actors.map fun a => a.spec.intoSpec a.state.position

/-! ## The store -/

structure Codec where
  Bytes : Type
  ofText : String → Bytes
  toText : Bytes → Option String
  serialize : WorldSnapshot → Bytes
  deserialize : Bytes → Option WorldSnapshot
  toText_ofText : ∀ text, toText (ofText text) = some text
  deserialize_serialize : ∀ snapshot, deserialize (serialize snapshot) = some snapshot

abbrev Directory (codec : Codec) := HashMap String codec.Bytes

/-- Which of the file operations of one call fail, by the order they come in. -/
abbrev Faults := Nat → Bool

inductive SnapshotError
  | writeSnapshot (path : String)
  | updateLatest
  | readDir
  | removeFile (path : String)
  | readLatest
  | readSnapshot
  | deserialize
  deriving DecidableEq, Repr

-- `format!("snapshot_{:020}.bin", snapshot.tick)`
def snapshotName (tick : UInt64) : String :=
  String.ofList ("snapshot_".toList ++ zeroPadded 20 tick.toNat ++ ".bin".toList)

def latestName : String := "latest.txt"

def isSnapshotName (name : String) : Bool :=
  "snapshot_".toList.isPrefixOf name.toList && ".bin".toList.isSuffixOf name.toList

def isWhiteSpace (c : Char) : Bool :=
  let code := c.toNat
  (9 ≤ code && code ≤ 13) || code == 0x20 || code == 0x85 || code == 0xA0 || code == 0x1680 ||
    (0x2000 ≤ code && code ≤ 0x200A) || code == 0x2028 || code == 0x2029 || code == 0x202F || code == 0x205F ||
    code == 0x3000

def trim (text : String) : String :=
  String.ofList (((text.toList.dropWhile isWhiteSpace).reverse.dropWhile isWhiteSpace).reverse)

structure SnapshotStore where
  dir : String
  maxSnapshots : Nat
  deriving DecidableEq, Repr

namespace SnapshotStore
variable {codec : Codec}

def path (self : SnapshotStore) (name : String) : String := self.dir ++ "/" ++ name

def removeFiles (self : SnapshotStore) (faults : Faults) (k : Nat) :
    List String → Directory codec → Except SnapshotError Unit × Directory codec
  | [], files => (.ok (), files)
  | name :: rest, files =>
      if faults k then (.error (.removeFile (self.path name)), files)
      else self.removeFiles faults (k + 1) rest (files.erase name)

def entries (files : Directory codec) (ord : Order) : List String :=
  ((ord.visit files.keys).filter isSnapshotName).mergeSort fun a b => !decide (b.toList < a.toList)

def pruneOldSnapshots (self : SnapshotStore) (faults : Faults) (ord : Order) (files : Directory codec) :
    Except SnapshotError Unit × Directory codec :=
  if faults 2 then (.error .readDir, files)
  else
    let entries := entries files ord
    if entries.length > self.maxSnapshots then
      self.removeFiles faults 3 (entries.take (entries.length - self.maxSnapshots)) files
    else (.ok (), files)

def write (self : SnapshotStore) (faults : Faults) (ord : Order) (files : Directory codec)
    (snapshot : WorldSnapshot) : Except SnapshotError String × Directory codec :=
  let filename := snapshotName snapshot.tick
  let path := self.path filename
  if faults 0 then (.error (.writeSnapshot path), files)
  else
    let files := files.insert filename (codec.serialize snapshot)
    if faults 1 then (.error .updateLatest, files)
    else
      let files := files.insert latestName (codec.ofText filename)
      let (pruned, files) := self.pruneOldSnapshots faults ord files
      (pruned.map fun _ => path, files)

def readLatest (files : Directory codec) : Except SnapshotError (Option WorldSnapshot) :=
  match files.lookup latestName with
  | none => .ok none
  | some pointer =>
      match codec.toText pointer with
      | none => .error .readLatest
      | some filename =>
          match files.lookup (trim filename) with
          -- the empty name is that of the directory itself, which exists
          | none => if trim filename = "" then .error .readSnapshot else .ok none
          | some bytes =>
              match codec.deserialize bytes with
              | none => .error .deserialize
              | some snapshot => .ok (some snapshot)

end SnapshotStore

end LiveWorld
