import SearchRanking.Proofs.Json.ScoreText
import SearchRanking.Proofs.Record.RoundTrip

/-!
# What becomes of a score that is written and read

The digits of a written score are enough to tell it from every other score, but the reader of
numbers does not round correctly. A score may come back as one of its neighbours, even a whole
number below `2 ^ 53` or a score that is two steps away. It never strays farther, and it keeps its
sign. Where the written digits and their power of ten are scores themselves the reader rounds only
once, so that the score comes back as it was.
-/

namespace SearchRanking.Record

open Json

theorem decodeList_singleton {record : Record} {reread : Score}
    (hfinite : record.score.isFinite = true)
    (hread : (readNumber (Number.real record.score).text.toList : Except (Fault Mismatch) _) =
      .ok (.real reread, [])) :
    ∀ text ∈ [compactText (listValue [record]), prettyText (listValue [record])],
      decodeList text = .ok [{ record with score := reread }] := by
  obtain ⟨value, hdecode, hvalue⟩ := @exists_values_written [record] (fun _ => reread) (by
    intro other hother _
    rw [List.mem_singleton.mp hother]
    exact ⟨_, hread, rfl⟩)
  intro text htext
  rw [hdecode text htext]
  refine @ofValuesFrom_map_ok Record [record] value (fun other => { other with score := reread })
    ?_ 0
  intro other hother
  rw [hvalue other hother, if_pos]
  rwa [List.mem_singleton.mp hother]

/-- A record with nothing but a score. -/
def scored (bits : UInt64) : Record where
  docName := ""
  title := ""
  anchor := ""
  description := ""
  score := .ofBits bits
  filename := none

theorem eq_ok_of_toOption {ε α : Type} {result : Except ε α} {value : α}
    (hvalue : result.toOption = some value) : result = .ok value := by
  cases result with
  | error fault => cases hvalue
  | ok found => exact congrArg Except.ok (Option.some.inj hvalue)

/-- The whole number `2 ^ 53 - 1` is written as `9007199254740991.0` and read as the score below,
and `9.007268344887147e-153` is read as the score two steps above. -/
theorem decodeList_scored_strays :
    decodeList (compactText (listValue [scored 0x433fffffffffffff])) =
        .ok [scored 0x433ffffffffffffe] ∧
      decodeList (compactText (listValue [scored 0x205e312263997cf8])) =
        .ok [scored 0x205e312263997cfa] ∧
      (scored 0x433fffffffffffff).score.isFinite = true ∧
      (scored 0x433ffffffffffffe).score.bits ≠ (scored 0x433fffffffffffff).score.bits := by
  refine ⟨?_, ?_, by decide, by decide⟩
  · refine decodeList_singleton (by decide) ?_ _ List.mem_cons_self
    exact eq_ok_of_toOption (by decide +kernel)
  · refine decodeList_singleton (by decide) ?_ _ List.mem_cons_self
    exact eq_ok_of_toOption (by decide +kernel)

/-- **A finite score comes back within two steps.** Both written forms of a record decode to the
record with a finite score of the same sign in its place, whose bits differ by two at the most. They
do not differ where the digits behind the sign are, without their point, a whole number up to
`2 ^ 53`, and the power of ten that belongs to them lies between `10 ^ (-22)` and `10 ^ 22`. -/
theorem decodeList_score_within_two (record : Record) (hfinite : record.score.isFinite = true) :
    ∃ literal reread,
      Decimal.ofText? (Decimal.splitSign (Number.real record.score).text.toList).2 =
        some literal ∧
      (∀ text ∈ [compactText (listValue [record]), prettyText (listValue [record])],
        decodeList text = .ok [{ record with score := reread }]) ∧
      reread.isFinite = true ∧ reread.negative = record.score.negative ∧
      reread.magnitude ≤ record.score.magnitude + 2 ∧
      record.score.magnitude ≤ reread.magnitude + 2 ∧
      (literal.coefficient ≤ 2 ^ 53 → -22 ≤ literal.power → literal.power ≤ 22 →
        reread.bits = record.score.bits) := by
  obtain ⟨literal, reread, hliteral, hread, hreread⟩ := @exists_reread Mismatch _ hfinite
  refine ⟨literal, reread, hliteral, decodeList_singleton hfinite hread, hreread.isFinite,
    hreread.negative_eq, hreread.le_add_two, hreread.ge_sub_two, ?_⟩
  intro hcoefficient hlower hupper
  rw [hreread.exact hcoefficient hlower hupper]

/-- The score `-0.1` comes back as it was. -/
theorem decodeList_scored_exact :
    (scored 0xbfb999999999999a).score.isFinite = true ∧
      ∀ text ∈ [compactText (listValue [scored 0xbfb999999999999a]),
          prettyText (listValue [scored 0xbfb999999999999a])],
        decodeList text = .ok [scored 0xbfb999999999999a] := by
  have hfinite : (scored 0xbfb999999999999a).score.isFinite = true := by decide
  refine ⟨hfinite, ?_⟩
  obtain ⟨literal, reread, hliteral, hdecode, -, -, -, -, hexact⟩ :=
    decodeList_score_within_two (scored 0xbfb999999999999a) hfinite
  have htext : Decimal.ofText? (Decimal.splitSign
      (Number.real (scored 0xbfb999999999999a).score).text.toList).2 = some ⟨1, -1⟩ := by
    decide +kernel
  rw [htext, Option.some.injEq] at hliteral
  subst hliteral
  have hsame : reread = (scored 0xbfb999999999999a).score := by
    rw [← Score.ofBits_bits reread, hexact (by decide) (by decide) (by decide), Score.ofBits_bits]
  rw [hsame] at hdecode
  exact hdecode

end SearchRanking.Record
