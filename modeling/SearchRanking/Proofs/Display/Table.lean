import SearchRanking.Display.Table
import SearchRanking.Proofs.Decimal.Literal
import SearchRanking.Proofs.Display.Box
import SearchRanking.Record.Sample

namespace SearchRanking.Display

theorem escapeChar_not_mem_of_allDigits {digits : List Char} (hdigits : Decimal.AllDigits digits) :
    escapeChar ∉ digits := by
  intro hmem
  exact absurd (hdigits escapeChar hmem) (by decide)

theorem escapeFree_repr (n : Nat) : EscapeFree n.repr := by
  rw [EscapeFree, Decimal.toList_repr]
  exact escapeChar_not_mem_of_allDigits (Decimal.allDigits_digitsOf n)

theorem escapeFree_fixed (score : Score) (places : Nat) : EscapeFree (score.fixed places) := by
  have hsign : escapeChar ∉ score.signText := by
    rw [Score.signText]
    split <;> decide
  have hdigits : ∀ n, escapeChar ∉ Decimal.digitsOf n := fun n =>
    escapeChar_not_mem_of_allDigits (Decimal.allDigits_digitsOf n)
  have hzeros : ∀ count, escapeChar ∉ List.replicate count '0' := fun count =>
    escapeChar_not_mem_of_allDigits (Decimal.allDigits_replicate_zero count)
  have hpoint : escapeChar ≠ '.' := by decide
  rw [Score.fixed]
  split
  · decide
  · split
    · split <;> decide
    · rw [EscapeFree, String.toList_ofList]
      simp only [List.mem_append, List.mem_cons, not_or]
      exact ⟨⟨hsign, hdigits _⟩, hpoint, hzeros _, hdigits _⟩

/-- The row of a place, a score, a title and a filename as it is shown. -/
def rowText (place : Nat) (score : Score) (title filename : String) : String :=
  " " ++ padLeft place.repr 3 ++ " " ++ padLeft (score.fixed 2) 8 ++ " " ++
    padRight title titleWidth ++ " " ++ filename

theorem renders_scoreCell (paint : Paint) (score : Score) (overridden : Bool) :
    Renders (scoreCell paint score overridden) (padLeft (score.fixed 2) 8) := by
  have htext := (escapeFree_padLeft (escapeFree_fixed score 2) 8).renders
  rw [scoreCell]
  split
  · exact htext.painted paint .red true
  · split
    · exact htext.painted paint .green false
    · exact htext.painted paint .yellow false

theorem renders_entryRow {entry : Entry} {title filename : String}
    (htitle : Renders (truncateText entry.record.title titleWidth) title)
    (hfilename : Renders (truncatePath (entry.record.filename.getD "-") filenameWidth) filename)
    (paint : Paint) (place : Nat) :
    Renders (entryRow paint place entry) (rowText place entry.score title filename) := by
  have hspace : Renders " " " " := EscapeFree.renders (by decide)
  have hplace := hspace.append (escapeFree_padLeft (escapeFree_repr place) 3).renders
  have hscore := (hplace.append hspace).append
    (renders_scoreCell paint entry.score entry.isOverridden)
  have htitled := (hscore.append hspace).append (htitle.padRight titleWidth)
  exact (htitled.append hspace).append (hfilename.painted paint .gray false)

theorem escapeFree_summaryRow (stats : Stats) : EscapeFree (summaryRow stats) := by
  have hindent : EscapeFree "  " := by decide
  have hresults : EscapeFree " results, " := by decide
  have hoverridden : EscapeFree " overridden by the scorer" := by decide
  have htotal := escapeFree_append
    (escapeFree_append hindent (escapeFree_repr stats.total)) hresults
  exact escapeFree_append (escapeFree_append htotal (escapeFree_repr stats.overridden)) hoverridden

/-- What a row shows of an entry holds no escape character. -/
structure IsPlain (entry : Entry) : Prop where
  title : EscapeFree entry.record.title
  filename : ∀ name, entry.record.filename = some name → EscapeFree name

theorem IsPlain.escapeFree_getD {entry : Entry} (hplain : IsPlain entry) :
    EscapeFree (entry.record.filename.getD "-") := by
  cases hname : entry.record.filename with
  | none => decide
  | some name => exact hplain.filename name hname

theorem scoreCell_none (score : Score) (overridden : Bool) :
    scoreCell none score overridden = padLeft (score.fixed 2) 8 := by
  rw [scoreCell]
  split
  · rfl
  · split <;> rfl

theorem entryRow_none (place : Nat) (entry : Entry) :
    entryRow none place entry =
      rowText place entry.score (truncateText entry.record.title titleWidth)
        (truncatePath (entry.record.filename.getD "-") filenameWidth) := by
  rw [entryRow, scoreCell_none]
  rfl

theorem IsPlain.renders_entryRow {entry : Entry} (hplain : IsPlain entry) (paint : Paint)
    (place : Nat) : Renders (entryRow paint place entry) (entryRow none place entry) := by
  rw [entryRow_none]
  exact Display.renders_entryRow (escapeFree_truncateText hplain.title titleWidth).renders
    (escapeFree_truncatePath hplain.escapeFree_getD filenameWidth).renders paint place

theorem renders_entryRows {entries : List Entry} (hplain : ∀ entry ∈ entries, IsPlain entry)
    (paint : Paint) :
    List.Forall₂ Renders (entryRows paint entries) (entryRows none entries) := by
  cases entries with
  | nil =>
      have hnotice : EscapeFree "  no results" := by decide
      exact .cons (hnotice.renders.painted paint .gray false) .nil
  | cons entry entries =>
      rw [entryRows, entryRows, List.forall₂_map_left_iff, List.forall₂_map_right_iff,
        List.forall₂_same]
      intro indexed hindexed
      exact (hplain indexed.1 (List.fst_mem_of_mem_zipIdx hindexed)).renders_entryRow paint
        (indexed.2 + 1)

/-- **Colours never change the layout.** What is shown of the lines of a table in colours are the
lines of the table without them, for all texts without an escape character. What is shown of a
single text takes as many columns in any colour, bold or not, whatever the text holds. -/
theorem colours_keep_layout (theme : Theme) :
    (∀ (entries : List Entry) (stats : Stats),
      (∀ entry ∈ entries, EscapeFree entry.record.title ∧
        ∀ name, entry.record.filename = some name → EscapeFree name) →
      (boxLines (some theme) (rankingSections (some theme) entries stats)).map stripped =
        boxLines none (rankingSections none entries stats)) ∧
    ∀ (hue : Hue) (bold : Bool) (text : String),
      visibleLength (painted (some theme) hue bold text) = visibleLength text := by
  refine ⟨?_, ?_⟩
  · intro entries stats hentries
    have hplain : ∀ entry ∈ entries, IsPlain entry := fun entry hentry =>
      ⟨(hentries entry hentry).1, (hentries entry hentry).2⟩
    have hlabel : EscapeFree "RANKED RESULTS" := by decide
    have hsummary : EscapeFree "SUMMARY" := by decide
    have hsections : List.Forall₂ RendersSection (rankingSections (some theme) entries stats)
        (rankingSections none entries stats) :=
      .cons ⟨hlabel.renders, renders_entryRows hplain (some theme)⟩
        (.cons ⟨hsummary.renders, .cons (escapeFree_summaryRow stats).renders .nil⟩ .nil)
    exact map_stripped_of_renders (renders_boxLines hsections (some theme))
  · intro hue bold text
    exact visibleLength_painted (some theme) hue bold text

/-- A generated page whose score was overridden. -/
def overriddenEntry : Entry :=
  ⟨.modulePage "std" .notANumber, Scorer.standardPenalty, 0⟩

theorem layout_overriddenEntry :
    (rankingTable (some .light) [overriddenEntry]).map stripped =
        rankingTable none [overriddenEntry] ∧
      visibleLength (painted (some .dark) .red true "ab\x1b[1") = 2 := by
  refine ⟨(colours_keep_layout .light).1 [overriddenEntry] _ ?_,
    (colours_keep_layout .dark).2 .red true _⟩
  rw [List.forall_mem_singleton]
  refine ⟨by decide +kernel, ?_⟩
  rintro name hname
  cases hname
  decide +kernel

end SearchRanking.Display
