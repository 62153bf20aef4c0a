import SearchRanking.Proofs.Order
import SearchRanking.Proofs.Text.Bytes

namespace SearchRanking.Entry

/-- The bytes in which the lower-case form of the title is stored. -/
def titleBytes (entry : Entry) : List UInt8 := Text.bytes (Text.lowercase entry.record.title)

/-- The order of a ranking, with titles compared by their bytes. -/
def compareByBytes (a b : Entry) : Ordering :=
  (compareScores a b).then
    ((Ord.compare a.titleBytes b.titleBytes).then (Ord.compare a.position b.position))

theorem compare_titleBytes (a b : Entry) :
    Ord.compare a.titleBytes b.titleBytes = Ord.compare a.titleKey b.titleKey := by
  rw [titleBytes, titleBytes, Text.compare_bytes, Text.compare_codePoints, titleKey, titleKey]

/-- **The order of titles is that of code points.** The lower-case forms of any two texts are in the
same order by their bytes and by their code points, and so an entry comes before another one whether
titles are compared by bytes or by characters. -/
theorem compare_titles_by_codePoint :
    (∀ left right : String,
      Ord.compare (Text.bytes (Text.lowercase left)) (Text.bytes (Text.lowercase right)) =
        Ord.compare (Text.codePoints (Text.lowercase left))
          (Text.codePoints (Text.lowercase right))) ∧
    ∀ a b : Entry, compareByBytes a b = compare a b := by
  constructor
  · intro left right
    exact Text.compare_bytes _ _
  · intro a b
    rw [compareByBytes, compare_titleBytes, compare]

end SearchRanking.Entry
