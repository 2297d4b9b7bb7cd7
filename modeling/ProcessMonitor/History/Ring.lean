-- The newest samples of one metric. Each sample is written to two cells, one
-- capacity apart, so the kept samples always stand in one run of cells, oldest
-- first.
import ProcessMonitor.Number.Double

namespace ProcessMonitor

/-- A ring of samples: `cells` holds every slot twice, `head` is the slot of the
next sample. -/
structure Ring where
  cells : Array Double
  head : Nat
  size : Nat
  capacity : Nat
deriving DecidableEq

namespace Ring

/-- A ring without samples that keeps at most `capacity` of them, one at
least. -/
def empty (capacity : Nat) : Ring :=
  let capacity := max capacity 1
  ⟨Array.replicate (2 * capacity) (Double.zero false), 0, 0, capacity⟩

/-- Adds a sample; the oldest one goes when the ring is full. -/
def push (ring : Ring) (value : Double) : Ring :=
  { ring with
    cells := (ring.cells.setIfInBounds ring.head value).setIfInBounds
      (ring.head + ring.capacity) value
    head := (ring.head + 1) % ring.capacity
    size := min (ring.size + 1) ring.capacity }

/-- The cell of the oldest sample. -/
def start (ring : Ring) : Nat := (ring.head + ring.capacity - ring.size) % ring.capacity

/-- All samples, oldest first. -/
def toList (ring : Ring) : List Double :=
  (ring.cells.extract ring.start (ring.start + ring.size)).toList

/-- The newest `n` samples, or all of them when there are fewer, oldest first. -/
def last (ring : Ring) (n : Nat) : List Double :=
  let all := ring.toList
  all.drop (all.length - n)

end Ring

end ProcessMonitor
