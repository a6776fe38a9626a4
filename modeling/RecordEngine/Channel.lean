import RecordEngine.Document
/-!
The channel on which writes are announced.

Any number of receivers listen, each from the moment it subscribed. The channel holds a bounded
number of notices; a receiver that falls behind by more learns how many it lost and goes on with the
oldest one held.
-/

set_option autoImplicit false

namespace RecordEngine

/-- The announcement that a record was written. -/
structure Notice where
  entity : String
  id : String
  version : Option Int
  deriving DecidableEq, Repr

def Notice.document (notice : Notice) : Document :=
  .object
    [("entity_type", .text notice.entity), ("id", .text notice.id),
     ("version", (notice.version.map .integer).getD .null)]

/-- A broadcast channel. -/
structure Channel where
  capacity : Nat
  /-- The number of notices ever announced. -/
  sent : Nat
  /-- The latest of them, oldest first. -/
  held : List Notice
  deriving DecidableEq, Repr

/-- A receiver, as the number of the notice it takes next. -/
structure Receiver where
  next : Nat
  deriving DecidableEq, Repr

/-- What a receiver gets. -/
inductive Reception where
  | notice (notice : Notice)
  /-- Nothing new. -/
  | empty
  /-- This many notices were lost. -/
  | lagged (count : Nat)
  deriving DecidableEq, Repr

namespace Channel

/-- The least power of two that is at least `n`. -/
def roundUp (n : Nat) : Nat := if n ≤ 1 then 1 else Nat.pow 2 ((n - 1).log2 + 1)

/-- A channel that holds at least `capacity` notices, and one in any case. -/
def create (capacity : Nat) : Channel := ⟨roundUp capacity, 0, []⟩

/-- The capacity of a channel where none is asked for. -/
def defaultCapacity : Nat := 256

/-- A receiver of the notices to come. -/
def subscribe (channel : Channel) : Receiver := ⟨channel.sent⟩

/-- Adds a notice and lets the oldest go when there is no room. -/
def announce (channel : Channel) (notice : Notice) : Channel :=
  let held := channel.held ++ [notice]
  { channel with sent := channel.sent + 1, held := held.drop (held.length - channel.capacity) }

/-- The number of the oldest notice held. -/
def oldest (channel : Channel) : Nat := channel.sent - channel.held.length

/-- Takes the next notice. -/
def receive (channel : Channel) (receiver : Receiver) : Reception × Receiver :=
  if receiver.next < channel.oldest then
    (.lagged (channel.oldest - receiver.next), ⟨channel.oldest⟩)
  else
    match channel.held[receiver.next - channel.oldest]? with
    | some notice => (.notice notice, ⟨receiver.next + 1⟩)
    | none => (.empty, receiver)

/-- Takes notices until nothing is new; `fuel` bounds their number. -/
def drain (channel : Channel) (receiver : Receiver) : Nat → List Reception × Receiver
  | 0 => ([], receiver)
  | fuel + 1 =>
    match channel.receive receiver with
    | (.empty, receiver) => ([], receiver)
    | (reception, receiver) =>
      let (rest, receiver) := channel.drain receiver fuel
      (reception :: rest, receiver)

/-- Takes everything that is new. One report of lost notices and every notice held is the most
there can be. -/
def receiveAll (channel : Channel) (receiver : Receiver) : List Reception × Receiver :=
  channel.drain receiver (channel.held.length + 1)

end Channel

end RecordEngine
