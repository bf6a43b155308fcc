import RadarAim.Radar.Arrays

/-! The two metadata caches by themselves: an array and the number of its entries in use. A reset only sets the number
    to 0, the entries stay as they are. -/

namespace RadarAim
namespace MetaCache

structure Entry (ν : Type) where
  actor : UInt64
  values : ν
  /-- The 32 bytes of the field. -/
  name : Str
  valid : Bool

section Functions
variable {ν : Type}

/-- The loop of the lookups: the first entry in use that is valid and has the actor. -/
def findMeta (cache : Counted (Entry ν)) (actor : UInt64) : Option (Entry ν) :=
  (cache.index fun e => e.valid && e.actor = actor).map cache.slot

/-- The loop of the stores does not ask whether an entry is valid. -/
def storeMeta (size : Nat) (actor : UInt64) (values : ν) (name : Str) (cache : Counted (Entry ν)) : Counted (Entry ν) :=
  match cache.index fun e => e.actor = actor with
  | some i => cache.put i { cache.slot i with values, name := strncpy Arrays.nameSize name, valid := true }
  | none =>
    if cache.count < size then cache.push { actor, values, name := strncpy Arrays.nameSize name, valid := true }
    else cache

inductive Op (ν : Type) where
  | reset
  | store (actor : UInt64) (values : ν) (name : Str)
  | find (actor : UInt64)

/-- The cache after an operation, for the `store` of one of the caches. A lookup leaves it as it is. -/
def step (store : UInt64 → ν → Str → Counted (Entry ν) → Counted (Entry ν)) (cache : Counted (Entry ν)) :
    Op ν → Counted (Entry ν)
  | .reset => cache.clear
  | .store actor values name => store actor values name cache
  | .find _ => cache

/-- The cache after these operations, from the start of the daemon on. -/
def run (store : UInt64 → ν → Str → Counted (Entry ν) → Counted (Entry ν)) (zero : ν) (ops : List (Op ν)) :
    Counted (Entry ν) :=
  ops.foldl (step store) (.zeroed ⟨0, zero, Arrays.zeroName, false⟩)

end Functions

structure PlayerValues where
  teamId : UInt32
  isBot : UInt8

structure ItemValues where
  itemId : Int
  category : UInt8

def findPlayerMeta (cache : Counted (Entry PlayerValues)) (actor : UInt64) : Option (Entry PlayerValues) :=
  findMeta cache actor

def storePlayerMeta (actor : UInt64) (values : PlayerValues) (name : Str) (cache : Counted (Entry PlayerValues)) :
    Counted (Entry PlayerValues) :=
  storeMeta playerMetaCacheSize actor values name cache

def findItemMeta (cache : Counted (Entry ItemValues)) (actor : UInt64) : Option (Entry ItemValues) :=
  findMeta cache actor

def storeItemMeta (actor : UInt64) (values : ItemValues) (name : Str) (cache : Counted (Entry ItemValues)) :
    Counted (Entry ItemValues) :=
  storeMeta itemMetaCacheSize actor values name cache

def playerRun (ops : List (Op PlayerValues)) : Counted (Entry PlayerValues) := run storePlayerMeta ⟨0, 0⟩ ops
def itemRun (ops : List (Op ItemValues)) : Counted (Entry ItemValues) := run storeItemMeta ⟨0, 0⟩ ops

end MetaCache
end RadarAim
