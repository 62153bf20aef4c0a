import Mathlib
import SearchRanking.Proofs.Display.Box

namespace SearchRanking.Display

/-- Behind every escape character an `m` ends its sequence. -/
def EscapesEnd (text : String) : Prop :=
  ∀ before after, text.toList = before ++ escapeChar :: after → 'm' ∈ after

/-- The induction is on the text and follows the automaton: inside a sequence an `m` has to come,
and outside of one only behind the escape characters still ahead. -/
theorem endsInEscape_eq_false_iff (inEscape : Bool) (chars : List Char) :
    endsInEscape inEscape chars = false ↔
      (inEscape = true → 'm' ∈ chars) ∧
        ∀ before after, chars = before ++ escapeChar :: after → 'm' ∈ after := by
  induction chars generalizing inEscape with
  | nil => simp [endsInEscape]
  | cons c rest ih =>
      have hsplit : (∀ before after, c :: rest = before ++ escapeChar :: after → 'm' ∈ after) ↔
          (c = escapeChar → 'm' ∈ rest) ∧
            ∀ before after, rest = before ++ escapeChar :: after → 'm' ∈ after := by
        constructor
        · intro hall
          refine ⟨fun hc => hall [] rest (by rw [hc, List.nil_append]), ?_⟩
          rintro before after rfl
          exact hall (c :: before) after rfl
        · rintro ⟨hhead, hrest⟩ before after heq
          cases before with
          | nil =>
              obtain ⟨hc, rfl⟩ := List.cons.inj heq
              exact hhead hc
          | cons _ before => exact hrest before after (List.cons.inj heq).2
      rw [hsplit, endsInEscape]
      by_cases hescape : c = escapeChar
      · rw [if_pos hescape, ih]
        constructor
        · rintro ⟨hopen, hrest⟩
          exact ⟨fun _ => List.mem_cons_of_mem c (hopen rfl), fun _ => hopen rfl, hrest⟩
        · rintro ⟨-, hhead, hrest⟩
          exact ⟨fun _ => hhead hescape, hrest⟩
      · have hstep : ((inEscape && decide (c ≠ 'm')) = true → 'm' ∈ rest) ↔
            (inEscape = true → 'm' ∈ c :: rest) := by
          rw [Bool.and_eq_true, decide_eq_true_iff, List.mem_cons, and_imp, eq_comm (a := 'm')]
          exact forall_congr' fun _ => or_iff_not_imp_left.symm
        rw [if_neg hescape, ih, hstep]
        exact and_congr_right' ⟨fun hrest => ⟨fun hc => absurd hc hescape, hrest⟩, And.right⟩

theorem closed_iff_escapesEnd {text : String} : Closed text ↔ EscapesEnd text := by
  rw [Closed, endsInEscape_eq_false_iff, EscapesEnd]
  exact ⟨fun h => h.2, fun h => ⟨fun hopen => absurd hopen Bool.false_ne_true, h⟩⟩

/-- The line holds the content unchanged, between pieces that are shown as the two plain texts. -/
def StandsBetween (left content right line : String) : Prop :=
  ∃ front back, line = front ++ content ++ back ∧ Renders front left ∧ Renders back right

section Hidden

variable {styled plain hidden : String}

theorem Renders.append_hidden (hstyled : Renders styled plain) (hhidden : Renders hidden "") :
    Renders (styled ++ hidden) plain := by
  have happend := hstyled.append hhidden
  rwa [String.append_empty] at happend

theorem Renders.hidden_append (hhidden : Renders hidden "") (hstyled : Renders styled plain) :
    Renders (hidden ++ styled) plain := by
  have happend := hhidden.append hstyled
  rwa [String.empty_append] at happend

end Hidden

theorem exists_painted_eq (paint : Paint) (hue : Hue) (bold : Bool) (text : String) :
    ∃ front back, painted paint hue bold text = front ++ text ++ back ∧
      Renders front "" ∧ Renders back "" := by
  have hempty : Renders "" "" := EscapeFree.renders (by decide)
  cases paint with
  | none => exact ⟨"", "", by simp [painted], hempty, hempty⟩
  | some theme =>
      have hbold : Renders (if bold then boldCode else "") "" := by
        cases bold with
        | true => exact hidden_boldCode.renders
        | false => exact hempty
      exact ⟨_, _, rfl, hbold.append_hidden (hidden_code theme hue).renders,
        hidden_resetCode.renders⟩

section Lines

variable {paint : Paint} {first : Bool} {text : String}

/-- What is shown of a rule to the left of its label: the corner of the box or that of a later
section, and a dash. -/
def ruleLeft (first : Bool) : String := (if first then "┌" else "├") ++ "─ "

/-- What is shown of a rule to the right of its label, with a dash for every free column. -/
def ruleRight (first : Bool) (label : String) : String :=
  " " ++ repeated (boxWidth - (visibleLength label + 3)) '─' ++ (if first then "┐" else "┤")

def rowRight (row : String) : String := repeated (boxWidth - visibleLength row) ' ' ++ "│"

theorem visibleLength_heading (hclosed : Closed text) :
    visibleLength ("─ " ++ painted paint .cyan true text ++ " ") = visibleLength text + 3 := by
  have hdash : "─ ".toList.length = 2 := rfl
  have hspace : " ".toList.length = 1 := rfl
  rw [(renders_heading hclosed.renders paint).visibleLength_eq, hclosed.renders.visibleLength_eq,
    String.toList_append, String.toList_append, List.length_append, List.length_append, hdash,
    hspace]
  omega

theorem standsBetween_ruleLine (hclosed : Closed text) :
    StandsBetween (ruleLeft first) text (ruleRight first text) (ruleLine paint first text) := by
  obtain ⟨front, back, hpainted, hfront, hback⟩ := exists_painted_eq paint .cyan true text
  have hleft : EscapeFree (if first then "┌" else "├") := by cases first <;> decide
  have hright : EscapeFree (if first then "┐" else "┤") := by cases first <;> decide
  have hdash : EscapeFree "─ " := by decide
  have hspace : EscapeFree " " := by decide
  have hrule : EscapeFree (repeated (boxWidth - (visibleLength text + 3)) '─') :=
    escapeFree_repeated (by decide) _
  have hcode : Renders (borderCode paint) "" := renders_borderCode paint
  have hreset : Renders (borderReset paint) "" := renders_borderReset paint
  refine ⟨borderCode paint ++ (if first then "┌" else "├") ++ borderReset paint ++ "─ " ++ front,
    back ++ " " ++ borderCode paint ++ repeated (boxWidth - (visibleLength text + 3)) '─' ++
      (if first then "┐" else "┤") ++ borderReset paint, ?_, ?_, ?_⟩
  · rw [ruleLine, visibleLength_heading hclosed, hpainted]
    simp only [String.append_assoc]
  · have hcorner := (hcode.hidden_append hleft.renders).append_hidden hreset
    exact (hcorner.append hdash.renders).append_hidden hfront
  · have hgap := (hback.hidden_append hspace.renders).append_hidden hcode
    exact ((hgap.append hrule.renders).append hright.renders).append_hidden hreset

theorem standsBetween_rowLine :
    StandsBetween "│" text (rowRight text) (rowLine paint text) := by
  have hbar : EscapeFree "│" := by decide
  have hspaces : EscapeFree (repeated (boxWidth - visibleLength text) ' ') :=
    escapeFree_repeated (by decide) _
  have hcode : Renders (borderCode paint) "" := renders_borderCode paint
  have hreset : Renders (borderReset paint) "" := renders_borderReset paint
  refine ⟨borderCode paint ++ "│" ++ borderReset paint,
    repeated (boxWidth - visibleLength text) ' ' ++ borderCode paint ++ "│" ++ borderReset paint,
    ?_, ?_, ?_⟩
  · simp only [rowLine, padRight, String.append_assoc]
  · exact (hcode.hidden_append hbar.renders).append_hidden hreset
  · exact ((hspaces.renders.append_hidden hcode).append hbar.renders).append_hidden hreset

end Lines

/-- What a line of a box is for. -/
inductive Content where
  | label (text : String)
  | row (text : String)
  | bottom

/-- The contents of a section, line by line: its label and then its rows. -/
def Section.contents (part : Section) : List Content :=
  .label part.label :: part.rows.map .row

/-- The contents of a box: those of its sections and its bottom. -/
def contents (parts : List Section) : List Content := parts.flatMap Section.contents ++ [.bottom]

namespace Content

/-- The columns between the borders of the line. -/
def columns : Content → Nat
  | label text => max boxWidth (visibleLength text + 3)
  | row text => max boxWidth (visibleLength text)
  | bottom => boxWidth

/-- The line shows the content as it is within its borders. -/
def StandsIn (line : String) : Content → Prop
  | label text => ∃ first, StandsBetween (ruleLeft first) text (ruleRight first text) line
  | row text => StandsBetween "│" text (rowRight text) line
  | bottom => stripped line = "└" ++ repeated boxWidth '─' ++ "┘"

/-- The line is that of the content: it has its columns between two borders and shows it. -/
structure IsShownBy (content : Content) (line : String) : Prop where
  width : visibleLength line = content.columns + 2
  stands : content.StandsIn line

end Content

theorem isShownBy_sectionLines {part : Section} (hclosed : part.IsClosed) (paint : Paint)
    (first : Bool) :
    List.Forall₂ Content.IsShownBy part.contents (sectionLines paint first part) := by
  have hrule : Content.IsShownBy (.label part.label) (ruleLine paint first part.label) :=
    ⟨visibleLength_ruleLine hclosed.label, first, standsBetween_ruleLine hclosed.label⟩
  refine .cons hrule ?_
  rw [List.forall₂_map_left_iff, List.forall₂_map_right_iff, List.forall₂_same]
  intro row hrow
  exact ⟨visibleLength_rowLine (hclosed.rows row hrow), standsBetween_rowLine⟩

theorem isShownBy_bottomLine (paint : Paint) :
    Content.bottom.IsShownBy (bottomLine paint) where
  width := visibleLength_bottomLine
  stands := by
    rw [Content.StandsIn, (renders_bottomLine paint).stripped_eq, bottomLine, borderCode,
      borderReset, String.empty_append, String.append_empty]

theorem isShownBy_laterSections {parts : List Section} (hclosed : ∀ part ∈ parts, part.IsClosed)
    (paint : Paint) :
    List.Forall₂ Content.IsShownBy (parts.flatMap Section.contents)
      (parts.flatMap (sectionLines paint false)) := by
  induction parts with
  | nil => exact .nil
  | cons part parts ih =>
      rw [List.forall_mem_cons] at hclosed
      rw [List.flatMap_cons, List.flatMap_cons]
      exact List.rel_append (isShownBy_sectionLines hclosed.1 paint false) (ih hclosed.2)

theorem isShownBy_boxLines {parts : List Section} (hclosed : ∀ part ∈ parts, part.IsClosed)
    (paint : Paint) : List.Forall₂ Content.IsShownBy (contents parts) (boxLines paint parts) := by
  have hbottom : List.Forall₂ Content.IsShownBy [.bottom] [bottomLine paint] :=
    .cons (isShownBy_bottomLine paint) .nil
  cases parts with
  | nil => exact hbottom
  | cons part parts =>
      rw [List.forall_mem_cons] at hclosed
      rw [contents, List.flatMap_cons]
      have hfirst := isShownBy_sectionLines hclosed.1 paint true
      exact List.rel_append (List.rel_append hfirst (isShownBy_laterSections hclosed.2 paint))
        hbottom

@[simp]
theorem length_contents (parts : List Section) :
    (contents parts).length = 1 + (parts.map fun part => 1 + part.rows.length).sum := by
  have hsection : ∀ part : Section, part.contents.length = 1 + part.rows.length := by
    intro part
    rw [Section.contents, List.length_cons, List.length_map, Nat.add_comm]
  rw [contents, List.length_append, List.length_flatMap, List.length_singleton, Nat.add_comm]
  simp only [hsection]

/-- The last line has the width of the box, so no other width can be that of all lines. -/
theorem exists_width_iff {parts : List Section} (paint : Paint) :
    (∃ width, ∀ line ∈ boxLines paint parts, visibleLength line = width) ↔
      ∀ line ∈ boxLines paint parts, visibleLength line = boxWidth + 2 := by
  have hlast : bottomLine paint ∈ boxLines paint parts := by
    cases parts with
    | nil => exact List.mem_singleton_self _
    | cons part parts => exact List.mem_append_right _ (List.mem_singleton_self _)
  constructor
  · rintro ⟨width, hall⟩
    rwa [← hall _ hlast, visibleLength_bottomLine] at hall
  · exact fun hall => ⟨_, hall⟩

/-- **The geometry of a box.** Where labels and rows end their escape sequences, a box has a line
for every label and every row, in their order, and its bottom. Each line has the columns of the box
or those that its content needs, between two borders, and shows the content unchanged. All lines
have one width exactly when every row and every label with its rule fits into the box. -/
theorem boxLines_geometry (paint : Paint) (parts : List Section)
    (hends : ∀ part ∈ parts, EscapesEnd part.label ∧ ∀ row ∈ part.rows, EscapesEnd row) :
    (boxLines paint parts).length = 1 + (parts.map fun part => 1 + part.rows.length).sum ∧
    List.Forall₂ Content.IsShownBy (contents parts) (boxLines paint parts) ∧
    ((∃ width, ∀ line ∈ boxLines paint parts, visibleLength line = width) ↔
      ∀ part ∈ parts, visibleLength part.label ≤ boxWidth - 3 ∧
        ∀ row ∈ part.rows, visibleLength row ≤ boxWidth) := by
  have hclosed : ∀ part ∈ parts, part.IsClosed := by
    intro part hpart
    obtain ⟨hlabel, hrows⟩ := hends part hpart
    exact ⟨closed_iff_escapesEnd.mpr hlabel,
      fun row hrow => closed_iff_escapesEnd.mpr (hrows row hrow)⟩
  have hlines := isShownBy_boxLines hclosed paint
  refine ⟨hlines.length_eq.symm.trans (length_contents parts), hlines, ?_⟩
  rw [exists_width_iff, aligned_boxLines_iff hclosed]
  refine forall₂_congr fun part _ => ?_
  have hlabel : visibleLength part.label + 3 ≤ boxWidth ↔
      visibleLength part.label ≤ boxWidth - 3 := (Nat.le_sub_iff_add_le (by decide)).symm
  rw [← hlabel]
  exact ⟨fun hfits => ⟨hfits.label, hfits.rows⟩, fun h => ⟨h.1, h.2⟩⟩

/-- A box with a label in bold and a row of 81 columns over a section without rows. -/
def overfull : List Section :=
  [⟨"\x1b[1mTITLE\x1b[0m", ["short", repeated 81 'x']⟩, ⟨"EMPTY", []⟩]

theorem boxLines_overfull :
    (∀ part ∈ overfull, EscapesEnd part.label ∧ ∀ row ∈ part.rows, EscapesEnd row) ∧
    (boxLines (some .dark) overfull).length = 5 ∧
    (boxLines (some .dark) overfull).map visibleLength = [82, 82, 83, 82, 82] ∧
    ¬ ∃ width, ∀ line ∈ boxLines (some .dark) overfull, visibleLength line = width := by
  have hends : ∀ part ∈ overfull,
      EscapesEnd part.label ∧ ∀ row ∈ part.rows, EscapesEnd row := by
    simp only [← closed_iff_escapesEnd]
    decide +kernel
  obtain ⟨hlength, hlines, hwidth⟩ := boxLines_geometry (some .dark) overfull hends
  refine ⟨hends, hlength, ?_, ?_⟩
  · have hcolumns : (contents overfull).map (fun content => content.columns + 2) =
        [82, 82, 83, 82, 82] := by decide +kernel
    have hwidths : List.Forall₂ Eq ((contents overfull).map fun content => content.columns + 2)
        ((boxLines (some .dark) overfull).map visibleLength) := by
      rw [List.forall₂_map_left_iff, List.forall₂_map_right_iff]
      exact hlines.imp fun _ _ hline => hline.width.symm
    rw [List.forall₂_eq_eq_eq] at hwidths
    exact hwidths.symm.trans hcolumns
  · rw [hwidth]
    decide +kernel

end SearchRanking.Display
