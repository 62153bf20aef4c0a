import SearchRanking.Proofs.Display.Width
import SearchRanking.Proofs.Pattern
import SearchRanking.Proofs.Text.Bytes

/-!
# Texts cut to a width

A text that is too long for a width keeps as many of its characters as an ellipsis leaves room for,
from the front or from the end. How many a path loses in front is a sum from which the width is
taken away. In words of 64 bits either step could fail. Neither does: a text that is cut is longer
than the width, and a text in memory has fewer than `2 ^ 63` bytes, so not more characters.
-/

namespace SearchRanking.Display

/-- A number, if it is a word of 64 bits. -/
def word? (n : Nat) : Option Nat := if n < 0x10000000000000000 then some n else none

/-- The end of a path that is too long, with every sum and difference made in words. -/
def truncatePath? (text : String) (width : Nat) : Option String :=
  if text.toList.length ≤ width then some text
  else do
    let sum ← word? (text.toList.length + 3)
    let skipped ← Pattern.difference? sum width
    some ("..." ++ String.ofList (text.toList.drop skipped))

theorem difference?_of_long {text : String} {width : Nat} (hlong : width < text.toList.length) :
    Pattern.difference? (text.toList.length + 3) width =
      some (text.toList.length + 3 - width) :=
  if_pos (by omega)

theorem truncatePath?_eq_some {text : String}
    (hbytes : (Text.bytes text).length < 0x8000000000000000) (width : Nat) :
    truncatePath? text width = some (truncatePath text width) := by
  have hcharacters := Text.length_le_length_bytes text
  rw [truncatePath?, truncatePath]
  by_cases hfits : text.toList.length ≤ width
  · rw [if_pos hfits, if_pos hfits]
  · have hsum : word? (text.toList.length + 3) = some (text.toList.length + 3) :=
      if_pos (by omega)
    rw [if_neg hfits, if_neg hfits, hsum, Option.bind_eq_bind, Option.bind_some,
      difference?_of_long (Nat.lt_of_not_ge hfits), Option.bind_some]

/-- **Texts cut to a width.** A text that fits is left alone. Of any other the front or the end is
kept, three characters less than the width, with an ellipsis behind or before it. So a width with
room for the ellipsis is reached exactly by all that does not fit, a smaller one leaves the ellipsis
alone, and cutting again changes nothing. The difference that tells how much of a path is dropped is
never negative, and the steps in words never fail for a text in memory. -/
theorem truncation_characterization (text : String) (width : Nat) :
    (text.toList.length ≤ width → truncateText text width = text ∧ truncatePath text width = text) ∧
    (width < text.toList.length →
      (∃ kept rest, text = kept ++ rest ∧ kept.toList.length = width - 3 ∧
        truncateText text width = kept ++ "...") ∧
      ∃ rest kept, text = rest ++ kept ∧ kept.toList.length = width - 3 ∧
        truncatePath text width = "..." ++ kept) ∧
    (3 ≤ width →
      (truncateText text width).toList.length = min text.toList.length width ∧
        (truncatePath text width).toList.length = min text.toList.length width) ∧
    (width < 3 → width < text.toList.length →
      truncateText text width = "..." ∧ truncatePath text width = "...") ∧
    truncateText (truncateText text width) width = truncateText text width ∧
    truncatePath (truncatePath text width) width = truncatePath text width ∧
    (width < text.toList.length →
      ∃ skipped, Pattern.difference? (text.toList.length + 3) width = some skipped ∧
        truncatePath text width = "..." ++ String.ofList (text.toList.drop skipped)) ∧
    ((Text.bytes text).length < 0x8000000000000000 →
      truncatePath? text width = some (truncatePath text width)) := by
  have hfront := truncates_truncateText
  have hend := truncates_truncatePath
  refine ⟨?_, ?_, ?_, ?_, hfront.idempotent text width, hend.idempotent text width, ?_, ?_⟩
  · intro hfits
    exact ⟨hfront.of_fits hfits, hend.of_fits hfits⟩
  · intro hlong
    exact ⟨exists_truncateText_eq hlong, exists_truncatePath_eq hlong⟩
  · intro hroom
    exact ⟨hfront.length_eq hroom text, hend.length_eq hroom text⟩
  · intro hnarrow hlong
    exact ⟨hfront.eq_ellipsis hnarrow hlong, hend.eq_ellipsis hnarrow hlong⟩
  · intro hlong
    exact ⟨_, difference?_of_long hlong, if_neg (Nat.not_le.mpr hlong)⟩
  · intro hbytes
    exact truncatePath?_eq_some hbytes width

/-- A path of 19 characters, which take one to four bytes each. -/
def widePath : String := "référence/模块/😀.html"

/-- The path with one column less than it needs, with fewer columns than the ellipsis needs and with
the greatest number of columns that is a word. -/
theorem truncation_widePath :
    (18 < widePath.toList.length ∧ widePath.toList.length ≤ 0xffffffffffffffff ∧
      (Text.bytes widePath).length < 0x8000000000000000) ∧
    (∃ rest kept, widePath = rest ++ kept ∧ kept.toList.length = 15 ∧
      truncatePath widePath 18 = "..." ++ kept) ∧
    (truncateText widePath 18).toList.length = min widePath.toList.length 18 ∧
    truncatePath widePath 2 = "..." ∧
    (∃ skipped, Pattern.difference? (widePath.toList.length + 3) 2 = some skipped ∧
      truncatePath widePath 2 = "..." ++ String.ofList (widePath.toList.drop skipped)) ∧
    truncatePath? widePath 2 = some (truncatePath widePath 2) ∧
    truncatePath widePath 0xffffffffffffffff = widePath := by
  have hlong : 18 < widePath.toList.length := by decide +kernel
  have hfits : widePath.toList.length ≤ 0xffffffffffffffff := by decide +kernel
  have hbytes : (Text.bytes widePath).length < 0x8000000000000000 := by decide +kernel
  obtain ⟨-, hcut, hlengths, -⟩ := truncation_characterization widePath 18
  obtain ⟨-, -, -, hellipsis, -, -, hdrop, hwords⟩ := truncation_characterization widePath 2
  obtain ⟨hwhole, -⟩ := truncation_characterization widePath 0xffffffffffffffff
  exact ⟨⟨hlong, hfits, hbytes⟩, (hcut hlong).2, (hlengths (by decide)).1,
    (hellipsis (by decide) (by omega)).2, hdrop (by omega), hwords hbytes, (hwhole hfits).2⟩

end SearchRanking.Display
