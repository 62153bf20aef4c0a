import Mathlib.Data.List.DropRight
import SearchRanking.Text.Basic

namespace SearchRanking.Text

def AllBlank (text : List Char) : Prop := ∀ c ∈ text, isBlank c = true

/-- The body stands between blanks and neither begins nor ends with one. -/
structure Trims (text body : List Char) : Prop where
  exists_blanks : ∃ before after, text = before ++ body ++ after ∧ AllBlank before ∧ AllBlank after
  head : ∀ c ∈ body.head?, isBlank c = false
  last : ∀ c ∈ body.getLast?, isBlank c = false

variable {text body before after : List Char}

theorem trimBlanks_eq_rdropWhile (text : List Char) :
    trimBlanks text = (text.dropWhile isBlank).rdropWhile isBlank := rfl

theorem dropWhile_isBlank_append (hblank : AllBlank before) (rest : List Char) :
    (before ++ rest).dropWhile isBlank = rest.dropWhile isBlank :=
  List.dropWhile_append_of_pos hblank

theorem rdropWhile_isBlank_append (front : List Char) (hblank : AllBlank after) :
    (front ++ after).rdropWhile isBlank = front.rdropWhile isBlank := by
  have hreverse : AllBlank after.reverse := by simpa [AllBlank] using hblank
  rw [List.rdropWhile, List.rdropWhile, List.reverse_append, dropWhile_isBlank_append hreverse]

theorem Trims.trimBlanks_eq (htrims : Trims text body) : trimBlanks text = body := by
  obtain ⟨before, after, rfl, hbefore, hafter⟩ := htrims.exists_blanks
  rw [trimBlanks_eq_rdropWhile, List.append_assoc, dropWhile_isBlank_append hbefore]
  cases body with
  | nil =>
      have hnone : after.dropWhile isBlank = [] := List.dropWhile_eq_nil_iff.mpr hafter
      rw [List.nil_append, hnone, List.rdropWhile_nil]
  | cons c rest =>
      have hfirst : ¬isBlank c = true := by simp [htrims.head c rfl]
      rw [List.cons_append, List.dropWhile_cons_of_neg hfirst, ← List.cons_append,
        rdropWhile_isBlank_append _ hafter, List.rdropWhile_eq_self_iff]
      intro hne
      simp [htrims.last _ (List.getLast?_eq_some_getLast hne)]

theorem isBlank_of_head?_dropWhile (text : List Char) {c : Char}
    (hc : c ∈ (text.dropWhile isBlank).head?) : isBlank c = false := by
  have hfirst := List.head?_dropWhile_not isBlank text
  rwa [Option.mem_def.mp hc] at hfirst

theorem trims_trimBlanks (text : List Char) : Trims text (trimBlanks text) := by
  rw [trimBlanks_eq_rdropWhile]
  refine ⟨⟨text.takeWhile isBlank, (text.dropWhile isBlank).rtakeWhile isBlank, ?_, ?_, ?_⟩, ?_, ?_⟩
  · rw [List.append_assoc, List.rdropWhile_append_rtakeWhile, List.takeWhile_append_dropWhile]
  · intro c hc
    exact List.mem_takeWhile_imp hc
  · intro c hc
    exact List.mem_rtakeWhile_imp hc
  · -- what is cut behind does not change the first character
    intro c hc
    have hprefix : (text.dropWhile isBlank).rdropWhile isBlank <+: text.dropWhile isBlank :=
      List.rdropWhile_prefix isBlank _
    obtain ⟨cut, hcut⟩ := hprefix
    refine isBlank_of_head?_dropWhile text ?_
    rw [← hcut, List.head?_append, Option.mem_def.mp hc]
    rfl
  · intro c hc
    obtain ⟨hne, rfl⟩ := List.mem_getLast?_eq_getLast hc
    simpa using List.rdropWhile_last_not isBlank _ hne

theorem trims_iff : Trims text body ↔ trimBlanks text = body := by
  constructor
  · exact Trims.trimBlanks_eq
  · rintro rfl
    exact trims_trimBlanks text

end SearchRanking.Text
