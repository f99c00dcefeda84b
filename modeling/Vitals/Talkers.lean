import Vitals.Metrics

/-!
# Top talkers

The talkers of a host, ranked in each direction. This file fixes

* `Talker.before`, the order of a ranking: more bytes first, and among equals the smaller name,
  names compared by their bytes;
* `TopTalkers.rank`, the first five of each order. The sort is stable, so talkers that the order
  does not tell apart stay in the order they came in.
-/

namespace Vitals

/-- The bytes of a talker's name in UTF-8, by which names are compared. -/
def Talker.nameBytes (t : Talker) : List UInt8 :=
  t.name.toByteArray.data.toList

/-- Whether `a` may stand in front of `b` in the ranking by `bytes`. -/
def Talker.before (bytes : Talker → UInt64) (a b : Talker) : Bool :=
  decide (bytes b < bytes a) || (bytes a == bytes b && decide (a.nameBytes ≤ b.nameBytes))

/-- The number of talkers kept in each direction. -/
def TopTalkers.limit : Nat := 5

/-- The heaviest talkers by `bytes`. -/
def TopTalkers.heaviest (bytes : Talker → UInt64) (ts : List Talker) : List Talker :=
  (ts.mergeSort (Talker.before bytes)).take limit

/-- Ranks the talkers in both directions. -/
def TopTalkers.rank (ts : List Talker) : TopTalkers :=
  ⟨heaviest (·.bytesIn) ts, heaviest (·.bytesOut) ts⟩

theorem TopTalkers.length_heaviest (bytes : Talker → UInt64) (ts : List Talker) :
    (heaviest bytes ts).length = min limit ts.length := by
  simp [heaviest]

end Vitals
