import Mathlib.Data.List.Forall2
import SearchRanking.Display.Box
import SearchRanking.Proofs.Display.Width

namespace SearchRanking.Display

section Lines

variable {styled plain : String}

theorem renders_heading (hlabel : Renders styled plain) (paint : Paint) :
    Renders ("─ " ++ painted paint .cyan true styled ++ " ") ("─ " ++ plain ++ " ") := by
  have hdash : EscapeFree "─ " := by decide
  have hspace : EscapeFree " " := by decide
  exact (hdash.renders.append (hlabel.painted paint .cyan true)).append hspace.renders

theorem renders_ruleLine (hlabel : Renders styled plain) (paint : Paint) (first : Bool) :
    Renders (ruleLine paint first styled) (ruleLine none first plain) := by
  have hleft : EscapeFree (if first then "┌" else "├") := by cases first <;> decide
  have hright : EscapeFree (if first then "┐" else "┤") := by cases first <;> decide
  have hheading : Renders ("─ " ++ painted paint .cyan true styled ++ " ")
      ("─ " ++ painted none .cyan true plain ++ " ") := renders_heading hlabel paint
  have hcorner := ((renders_borderCode paint).append hleft.renders).append
    (renders_borderReset paint)
  -- both headings take the same columns, so the rules behind them are equally long
  simp only [ruleLine, hheading.visibleLength_eq, hheading.escapeFree.visibleLength_eq]
  have hheaded := (hcorner.append hheading).append (renders_borderCode paint)
  exact ((hheaded.append (escapeFree_repeated (by decide) _).renders).append hright.renders).append
    (renders_borderReset paint)

theorem renders_rowLine (hrow : Renders styled plain) (paint : Paint) :
    Renders (rowLine paint styled) (rowLine none plain) := by
  have hbar : EscapeFree "│" := by decide
  have hleft := ((renders_borderCode paint).append hbar.renders).append (renders_borderReset paint)
  have hcontent := hleft.append (hrow.padRight boxWidth)
  exact ((hcontent.append (renders_borderCode paint)).append hbar.renders).append
    (renders_borderReset paint)

theorem renders_bottomLine (paint : Paint) : Renders (bottomLine paint) (bottomLine none) := by
  have hcorner : Renders (borderCode paint ++ "└") (borderCode none ++ "└") :=
    (renders_borderCode paint).append (EscapeFree.renders (by decide))
  have hrule := hcorner.append (escapeFree_repeated (c := '─') (by decide) boxWidth).renders
  have hright : EscapeFree "┘" := by decide
  exact (hrule.append hright.renders).append (renders_borderReset paint)

end Lines

/-- A section whose label and rows are shown as those of a plain section. -/
structure RendersSection (styled plain : Section) : Prop where
  label : Renders styled.label plain.label
  rows : List.Forall₂ Renders styled.rows plain.rows

theorem renders_sectionLines {styled plain : Section} (hsection : RendersSection styled plain)
    (paint : Paint) (first : Bool) :
    List.Forall₂ Renders (sectionLines paint first styled) (sectionLines none first plain) := by
  refine .cons (renders_ruleLine hsection.label paint first) ?_
  rw [List.forall₂_map_left_iff, List.forall₂_map_right_iff]
  exact hsection.rows.imp fun _ _ hrow => renders_rowLine hrow paint

theorem renders_boxLines {styled plain : List Section}
    (hsections : List.Forall₂ RendersSection styled plain) (paint : Paint) :
    List.Forall₂ Renders (boxLines paint styled) (boxLines none plain) := by
  have hbottom : List.Forall₂ Renders [bottomLine paint] [bottomLine none] :=
    .cons (renders_bottomLine paint) .nil
  cases hsections with
  | nil => exact hbottom
  | cons hfirst hrest =>
      have hlater := List.rel_flatMap hrest
        (fun _ _ hsection => renders_sectionLines hsection paint false)
      exact List.rel_append (List.rel_append (renders_sectionLines hfirst paint true) hlater)
        hbottom

theorem map_stripped_of_renders {styled plain : List String}
    (hlines : List.Forall₂ Renders styled plain) : styled.map stripped = plain := by
  induction hlines with
  | nil => rfl
  | cons hline _ ih => rw [List.map_cons, hline.stripped_eq, ih]

section Widths

variable {paint : Paint} {first : Bool} {text : String}

theorem visibleLength_ruleLine (hclosed : Closed text) :
    visibleLength (ruleLine paint first text) =
      max boxWidth (visibleLength text + 3) + 2 := by
  have hplain := hclosed.renders
  have hheading : EscapeFree ("─ " ++ stripped text ++ " ") :=
    escapeFree_append (escapeFree_append (by decide) hplain.escapeFree) (by decide)
  rw [(renders_ruleLine hplain paint first).visibleLength_eq, hplain.visibleLength_eq]
  cases first <;>
    simp [ruleLine, borderCode, borderReset, painted, hheading.visibleLength_eq] <;>
    omega

theorem visibleLength_rowLine (hclosed : Closed text) :
    visibleLength (rowLine paint text) = max boxWidth (visibleLength text) + 2 := by
  have hplain := hclosed.renders
  rw [(renders_rowLine hplain paint).visibleLength_eq, hplain.visibleLength_eq]
  simp [rowLine, borderCode, borderReset, length_padRight hplain.escapeFree]

/-- A row that leaves an escape sequence open hides its padding and the border behind it. -/
theorem visibleLength_rowLine_of_open (hopen : ¬ Closed text) :
    visibleLength (rowLine none text) = visibleLength text + 1 := by
  have hends : endsInEscape false text.toList = true := by simpa [Closed] using hopen
  have hchars : (rowLine none text).toList =
      '│' :: (text.toList ++
        (List.replicate (boxWidth - visibleLength text) ' ' ++ ['│'])) := by
    simp [rowLine, borderCode, borderReset, padRight, repeated]
  have hbar : '│' ≠ escapeChar := by decide
  have hhidden : 'm' ∉ List.replicate (boxWidth - visibleLength text) ' ' ++ ['│'] := by
    simp
  rw [visibleLength, hchars, shownFrom, if_neg hbar, if_neg Bool.false_ne_true, shownFrom_append,
    hends, shownFrom_true_of_not_mem hhidden, List.append_nil, List.length_cons, visibleLength]

@[simp]
theorem visibleLength_bottomLine : visibleLength (bottomLine paint) = boxWidth + 2 := by
  have hlength : (bottomLine none).toList.length = 0 + 1 + boxWidth + 1 + 0 := by
    simp only [bottomLine, borderCode, borderReset, String.toList_append, List.length_append,
      length_repeated]
    rfl
  rw [(renders_bottomLine paint).visibleLength_eq, hlength]
  omega

end Widths

/-- The label and the rows of a section leave no escape sequence open. -/
structure Section.IsClosed (part : Section) : Prop where
  label : Closed part.label
  rows : ∀ row ∈ part.rows, Closed row

/-- The label with its rule and the rows of a section fit between the borders. -/
structure Section.Fits (part : Section) : Prop where
  label : visibleLength part.label + 3 ≤ boxWidth
  rows : ∀ row ∈ part.rows, visibleLength row ≤ boxWidth

theorem aligned_sectionLines_iff {paint : Paint} {first : Bool} {part : Section}
    (hclosed : part.IsClosed) :
    (∀ line ∈ sectionLines paint first part, visibleLength line = boxWidth + 2) ↔
      part.Fits := by
  have hlabel : visibleLength (ruleLine paint first part.label) = boxWidth + 2 ↔
      visibleLength part.label + 3 ≤ boxWidth := by
    rw [visibleLength_ruleLine hclosed.label]
    omega
  have hrow : ∀ row ∈ part.rows,
      (visibleLength (rowLine paint row) = boxWidth + 2 ↔ visibleLength row ≤ boxWidth) := by
    intro row hmem
    rw [visibleLength_rowLine (hclosed.rows row hmem)]
    omega
  rw [sectionLines, List.forall_mem_cons, List.forall_mem_map, hlabel]
  constructor
  · rintro ⟨hfits, hrows⟩
    exact ⟨hfits, fun row hmem => (hrow row hmem).mp (hrows row hmem)⟩
  · intro hfits
    exact ⟨hfits.label, fun row hmem => (hrow row hmem).mpr (hfits.rows row hmem)⟩

theorem aligned_boxLines_iff {paint : Paint} {parts : List Section}
    (hclosed : ∀ part ∈ parts, part.IsClosed) :
    (∀ line ∈ boxLines paint parts, visibleLength line = boxWidth + 2) ↔
      ∀ part ∈ parts, part.Fits := by
  cases parts with
  | nil => simp [boxLines]
  | cons part parts =>
      rw [List.forall_mem_cons] at hclosed
      rw [boxLines, List.forall_mem_append, List.forall_mem_append, List.forall_mem_singleton,
        aligned_sectionLines_iff hclosed.1, List.forall_mem_cons]
      simp only [visibleLength_bottomLine, and_true, List.forall_mem_flatMap]
      refine and_congr_right' (forall₂_congr fun other hmem => ?_)
      exact aligned_sectionLines_iff (hclosed.2 other hmem)

end SearchRanking.Display
