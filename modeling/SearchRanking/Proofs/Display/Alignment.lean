import SearchRanking.Proofs.Display.Table
import SearchRanking.Proofs.FiniteScores

/-!
# When the table of a ranking is aligned

Titles and filenames are cut to the columns of their cells, and then the cells of a row fill the box
exactly. The place and the score are only padded: a place from 1000 on, or a score of more than
eight characters, pushes the border of its line out unless the filename is short enough to make
room. A title or a filename that leaves an escape sequence open hides the border behind it.
-/

namespace SearchRanking.Display

open Json Score Decimal

/-- The cells of an entry that hold its own texts leave no escape sequence open. -/
structure CellsClosed (entry : Entry) : Prop where
  title : Closed (truncateText entry.record.title titleWidth)
  filename : Closed (truncatePath (entry.record.filename.getD "-") filenameWidth)

/-- The columns of the row of an entry, the four spaces between its cells included. -/
def entryColumns (place : Nat) (entry : Entry) : Nat :=
  max 3 place.repr.toList.length + max 8 (entry.score.fixed 2).toList.length + titleWidth +
    visibleLength (truncatePath (entry.record.filename.getD "-") filenameWidth) + 4

def summaryColumns (stats : Stats) : Nat :=
  stats.total.repr.toList.length + stats.overridden.repr.toList.length + 37

theorem length_rowText {title : String} (hfree : EscapeFree title)
    (htitle : title.toList.length ≤ titleWidth) (place : Nat) (score : Score) (filename : String) :
    (rowText place score title filename).toList.length =
      max 3 place.repr.toList.length + max 8 (score.fixed 2).toList.length + titleWidth +
        filename.toList.length + 4 := by
  have hspace : " ".toList.length = 1 := rfl
  have hcell : (padRight title titleWidth).toList.length = titleWidth := by
    rw [length_padRight hfree, Nat.max_eq_left htitle]
  simp only [rowText, String.toList_append, List.length_append, length_padLeft, hcell, hspace]
  omega

theorem visibleLength_entryRow {entry : Entry} (hclosed : CellsClosed entry) (paint : Paint)
    (place : Nat) : visibleLength (entryRow paint place entry) = entryColumns place entry := by
  have htitle := hclosed.title.renders
  have hfilename := hclosed.filename.renders
  have hwidth : (stripped (truncateText entry.record.title titleWidth)).toList.length ≤
      titleWidth := by
    rw [← htitle.visibleLength_eq]
    exact (visibleLength_le_length _).trans (length_truncateText_le (by decide) _)
  rw [(renders_entryRow htitle hfilename paint place).visibleLength_eq,
    length_rowText htitle.escapeFree hwidth, entryColumns, hfilename.visibleLength_eq]

@[simp]
theorem visibleLength_summaryRow (stats : Stats) :
    visibleLength (summaryRow stats) = summaryColumns stats := by
  have hindent : "  ".toList.length = 2 := rfl
  have hresults : " results, ".toList.length = 10 := rfl
  have hoverridden : " overridden by the scorer".toList.length = 25 := rfl
  rw [(escapeFree_summaryRow stats).visibleLength_eq, summaryRow, summaryColumns]
  simp only [String.toList_append, List.length_append, hindent, hresults, hoverridden]
  omega

section Rows

variable {entries : List Entry}

theorem closed_of_mem_entryRows (hclosed : ∀ entry ∈ entries, CellsClosed entry) (paint : Paint) :
    ∀ row ∈ entryRows paint entries, Closed row := by
  cases entries with
  | nil =>
      rw [entryRows, List.forall_mem_singleton]
      exact closed_painted (by decide) .gray false
  | cons entry entries =>
      rw [entryRows, List.forall_mem_map]
      intro indexed hindexed
      have hcells := hclosed indexed.1 (List.fst_mem_of_mem_zipIdx hindexed)
      exact (renders_entryRow hcells.title.renders hcells.filename.renders paint _).closed

theorem entryRows_fit_iff (hclosed : ∀ entry ∈ entries, CellsClosed entry) (paint : Paint) :
    (∀ row ∈ entryRows paint entries, visibleLength row ≤ boxWidth) ↔
      ∀ indexed ∈ entries.zipIdx, entryColumns (indexed.2 + 1) indexed.1 ≤ boxWidth := by
  cases entries with
  | nil =>
      have hnotice : visibleLength (painted paint .gray false "  no results") = 12 := by
        rw [visibleLength_painted]
        decide
      simp [entryRows, hnotice, boxWidth]
  | cons entry entries =>
      rw [entryRows, List.forall_mem_map]
      refine forall₂_congr fun indexed hindexed => ?_
      have hcells := hclosed indexed.1 (List.fst_mem_of_mem_zipIdx hindexed)
      rw [visibleLength_entryRow hcells]

theorem aligned_rankingTable_iff (hclosed : ∀ entry ∈ entries, CellsClosed entry) (paint : Paint) :
    (∀ line ∈ rankingTable paint entries, visibleLength line = boxWidth + 2) ↔
      (∀ indexed ∈ entries.zipIdx, entryColumns (indexed.2 + 1) indexed.1 ≤ boxWidth) ∧
        summaryColumns (Ranking.stats entries) ≤ boxWidth := by
  have hlabels : Closed "RANKED RESULTS" ∧ Closed "SUMMARY" := by decide
  have hrules : visibleLength "RANKED RESULTS" + 3 ≤ boxWidth ∧
      visibleLength "SUMMARY" + 3 ≤ boxWidth := by decide
  have hparts : ∀ part ∈ rankingSections paint entries (Ranking.stats entries),
      part.IsClosed := by
    rw [rankingSections, List.forall_mem_cons, List.forall_mem_singleton]
    refine ⟨⟨hlabels.1, closed_of_mem_entryRows hclosed paint⟩, ⟨hlabels.2, ?_⟩⟩
    rw [List.forall_mem_singleton]
    exact (escapeFree_summaryRow _).renders.closed
  rw [rankingTable, aligned_boxLines_iff hparts, rankingSections, List.forall_mem_cons,
    List.forall_mem_singleton, ← entryRows_fit_iff hclosed paint]
  constructor
  · rintro ⟨hrows, hlast⟩
    refine ⟨hrows.rows, ?_⟩
    rw [← visibleLength_summaryRow]
    exact hlast.rows _ (List.mem_singleton_self _)
  · rintro ⟨hrows, hlast⟩
    refine ⟨⟨hrules.1, hrows⟩, ⟨hrules.2, ?_⟩⟩
    rw [List.forall_mem_singleton, visibleLength_summaryRow]
    exact hlast

end Rows

/-- The value of a score in steps of its last place. -/
def stepsOf (places : Nat) (score : Score) : Nat :=
  divHalfEven (score.units * tenTo places) unitsPerOne

theorem toList_fixed {score : Score} (hfinite : score.isFinite = true) (places : Nat) :
    (score.fixed places).toList =
      score.signText ++ digitsOf (stepsOf places score / tenTo places) ++
        '.' :: (List.replicate
            (places - (digitsOf (stepsOf places score % tenTo places)).length) '0' ++
          digitsOf (stepsOf places score % tenTo places)) := by
  have hnumber : ¬ score.isNaN = true := by
    rw [isFinite, decide_eq_true_eq] at hfinite
    rw [isNaN, decide_eq_true_eq]
    omega
  rw [fixed, if_neg hnumber, hfinite, if_neg (by decide), String.toList_ofList, stepsOf]

theorem length_fixed {score : Score} (hfinite : score.isFinite = true) {places : Nat}
    (hplaces : 0 < places) :
    (score.fixed places).toList.length =
      score.signText.length + (digitsOf (stepsOf places score / tenTo places)).length + 1 +
        places := by
  have hfraction : (digitsOf (stepsOf places score % tenTo places)).length ≤ places :=
    (length_digitsOf_le_iff hplaces).mpr (Nat.mod_lt _ (tenTo_pos places))
  rw [toList_fixed hfinite, List.length_append, List.length_append, List.length_cons,
    List.length_append, List.length_replicate]
  omega

/-- The score lies above -9999.995 and below 99999.995. -/
def InColumn (score : Score) : Prop :=
  1000 * score.units < (if score.negative then 9999995 else 99999995) * unitsPerOne

theorem length_fixed_two_le_iff {score : Score} (hfinite : score.isFinite = true) :
    (score.fixed 2).toList.length ≤ 8 ↔ InColumn score := by
  -- at most `length` digits before the point, in terms of the exact value
  have hwhole : ∀ length, 0 < length →
      ((digitsOf (stepsOf 2 score / tenTo 2)).length ≤ length ↔
        2 * (score.units * tenTo 2) + unitsPerOne <
          2 * (tenTo (length + 2) * unitsPerOne)) := by
    intro length hpositive
    have heven : tenTo (length + 2) % 2 = 0 := by
      rw [tenTo_add]
      exact Nat.mod_eq_zero_of_dvd (Dvd.dvd.mul_left (by decide) _)
    rw [length_digitsOf_le_iff hpositive, Nat.div_lt_iff_lt_mul (tenTo_pos 2), ← tenTo_add, stepsOf,
      divHalfEven_lt_iff unitsPerOne_pos heven]
  have htwo : tenTo 2 = 100 := rfl
  rw [length_fixed hfinite (by decide), InColumn, signText]
  cases score.negative with
  | true =>
      have hfour := hwhole 4 (by decide)
      have hbound : tenTo (4 + 2) = 1000000 := rfl
      rw [htwo, hbound] at hfour
      simp only [if_true, List.length_singleton, htwo]
      omega
  | false =>
      have hfive := hwhole 5 (by decide)
      have hbound : tenTo (5 + 2) = 10000000 := rfl
      rw [htwo, hbound] at hfive
      simp only [Bool.false_eq_true, if_false, List.length_nil, htwo]
      omega

/-! ### Tables out of line -/

theorem decodeList_plain {text : String} (title : String) (n : Nat) (filename : Value)
    (hread : (readDocument text : Except (Fault Mismatch) _) =
      .ok (.array [.array [.string title, .string title, .string "", .string "",
        .number (.natural n), filename]])) :
    Record.decodeList text = .ok [.plain title (Score.ofNat n) filename.string?] :=
  Record.decodeList_eq_ok_iff.mpr ⟨_, hread, rfl⟩

@[simp]
theorem rank_singleton (scorer : Scorer) (record : Record) :
    Ranking.rank scorer none [record] = [⟨record, scorer record, 0⟩] := by
  simp [Ranking.rank, Ranking.scored, Ranking.finish, Ranking.sorted, Ranking.limited]

theorem rowLine_mem_rankingTable (paint : Paint) (entry : Entry) :
    rowLine paint (entryRow paint 1 entry) ∈ rankingTable paint [entry] := by
  simp [rankingTable, rankingSections, boxLines, sectionLines, entryRows]

def wideInput : String :=
  "[[\"Wide\",\"Wide\",\"\",\"\",100000,\"reference/very_long_page_name_of_the_guide.html\"]]"

def wideFilename : String := "reference/very_long_page_name_of_the_guide.html"

def wideRecord : Record := .plain "Wide" (Score.ofNat 100000) (some wideFilename)

def wideEntry : Entry := ⟨wideRecord, Score.ofNat 100000, 0⟩

def openInput : String := "[[\"\\u001b\",\"\\u001b\",\"\",\"\",1,null]]"

def openRecord : Record := .plain "\x1b" (Score.ofNat 1) none

def openEntry : Entry := ⟨openRecord, Score.ofNat 1, 0⟩

theorem decodeList_wideInput : Record.decodeList wideInput = .ok [wideRecord] :=
  decodeList_plain "Wide" 100000 (.string wideFilename) (by cbv)

theorem decodeList_openInput : Record.decodeList openInput = .ok [openRecord] :=
  decodeList_plain "\x1b" 1 .null (by cbv)

/-- A score of nine characters makes its line too wide, and a title that leaves an escape sequence
open hides the border of its line. -/
theorem rank_table_misaligned :
    Config.standard.Loadable ∧
      ∀ text ∈ [wideInput, openInput], ∃ records, Record.decodeList text = .ok records ∧
        ∃ line ∈ rankingTable none (Ranking.rank Config.standard.scorer none records),
          visibleLength line ≠ boxWidth + 2 := by
  refine ⟨⟨Config.standard, none, .inl rfl, rfl⟩, ?_⟩
  rw [List.forall_mem_cons, List.forall_mem_singleton]
  refine ⟨⟨_, decodeList_wideInput, ?_⟩, ⟨_, decodeList_openInput, ?_⟩⟩
  · have hentry : Ranking.rank Config.standard.scorer none [wideRecord] = [wideEntry] := by
      rw [rank_singleton]
      decide +kernel
    have hclosed : CellsClosed wideEntry := ⟨by decide +kernel, by decide +kernel⟩
    have hrow := renders_entryRow hclosed.title.renders hclosed.filename.renders none 1
    have hcolumns : entryColumns 1 wideEntry = 81 := by decide +kernel
    rw [hentry]
    refine ⟨_, rowLine_mem_rankingTable none wideEntry, ?_⟩
    rw [visibleLength_rowLine hrow.closed, visibleLength_entryRow hclosed, hcolumns]
    decide
  · have hentry : Ranking.rank Config.standard.scorer none [openRecord] = [openEntry] := by
      rw [rank_singleton]
      decide +kernel
    have hopen : ¬ Closed (entryRow none 1 openEntry) := by decide +kernel
    have hcolumns : visibleLength (entryRow none 1 openEntry) = 14 := by decide +kernel
    rw [hentry]
    refine ⟨_, rowLine_mem_rankingTable none openEntry, ?_⟩
    rw [visibleLength_rowLine_of_open hopen, hcolumns]
    decide

theorem length_repr_le_iff {n length : Nat} (hpositive : 0 < length) :
    n.repr.toList.length ≤ length ↔ n < tenTo length := by
  rw [toList_repr]
  exact length_digitsOf_le_iff hpositive

theorem entryColumns_le {place : Nat} {entry : Entry} (hplace : place < 1000)
    (hscore : (entry.score.fixed 2).toList.length ≤ 8) : entryColumns place entry ≤ boxWidth := by
  have hdigits : place.repr.toList.length ≤ 3 := (length_repr_le_iff (by decide)).mpr hplace
  have hfilename : visibleLength (truncatePath (entry.record.filename.getD "-") filenameWidth) ≤
      filenameWidth :=
    (visibleLength_le_length _).trans (length_truncatePath_le (by decide) _)
  have hcolumns : 3 + 8 + titleWidth + filenameWidth + 4 = boxWidth := rfl
  rw [entryColumns]
  omega

theorem summaryColumns_le {entries : List Entry} (hshort : entries.length < 1000) :
    summaryColumns (Ranking.stats entries) ≤ boxWidth := by
  have htotal : entries.length.repr.toList.length ≤ 3 :=
    (length_repr_le_iff (by decide)).mpr hshort
  have hoverridden : (entries.countP Entry.isOverridden).repr.toList.length ≤ 3 :=
    (length_repr_le_iff (by decide)).mpr (List.countP_le_length.trans_lt hshort)
  have hcolumns : 3 + 3 + 37 ≤ boxWidth := by decide
  simp only [summaryColumns, Ranking.stats]
  omega

/-- **When the table of a ranking is aligned.** The records come from a text that is decoded, the
configuration can be loaded, and the cells of the ranking leave no escape sequence open. Then all
lines have the width of the box exactly when the columns of every row fit into it, those of the place
and the score as they are; and they fit in every ranking of less than 1000 entries with scores above
-9999.995 and below 99999.995. -/
theorem rank_table_aligned_iff {text : String} {records : List Record} {config : Config}
    (limit : Option Nat) (paint : Paint) (hdecode : Record.decodeList text = .ok records)
    (hconfig : config.Loadable)
    (hclosed : ∀ entry ∈ Ranking.rank config.scorer limit records,
      Closed (truncateText entry.record.title titleWidth) ∧
        Closed (truncatePath (entry.record.filename.getD "-") filenameWidth)) :
    ((∀ line ∈ rankingTable paint (Ranking.rank config.scorer limit records),
        visibleLength line = boxWidth + 2) ↔
      (∀ indexed ∈ (Ranking.rank config.scorer limit records).zipIdx,
        entryColumns (indexed.2 + 1) indexed.1 ≤ boxWidth) ∧
      summaryColumns (Ranking.stats (Ranking.rank config.scorer limit records)) ≤ boxWidth) ∧
    ((Ranking.rank config.scorer limit records).length < 1000 →
      (∀ entry ∈ Ranking.rank config.scorer limit records, InColumn entry.score) →
      ∀ line ∈ rankingTable paint (Ranking.rank config.scorer limit records),
        visibleLength line = boxWidth + 2) := by
  have hfinite : ∀ entry ∈ Ranking.rank config.scorer limit records,
      entry.score.isFinite = true := fun entry hentry =>
    (Ranking.isFinite_of_mem_rank (Record.isFinite_of_decodeList hdecode)
      hconfig.isFinite_penalty hentry).2
  generalize Ranking.rank config.scorer limit records = entries at hclosed hfinite ⊢
  have haligned := aligned_rankingTable_iff
    (fun entry hentry => ⟨(hclosed entry hentry).1, (hclosed entry hentry).2⟩) paint
  refine ⟨haligned, fun hshort hscores => haligned.mpr ⟨?_, summaryColumns_le hshort⟩⟩
  intro indexed hindexed
  have hentry := List.fst_mem_of_mem_zipIdx hindexed
  have hindex := List.snd_lt_of_mem_zipIdx hindexed
  refine entryColumns_le (by omega) ?_
  exact (length_fixed_two_le_iff (hfinite indexed.1 hentry)).mpr (hscores indexed.1 hentry)

def styledInput : String :=
  "[[\"\\u001b[1mA\\u001b[0m\",\"\\u001b[1mA\\u001b[0m\",\"\",\"\",99999,null]]"

def styledRecord : Record := .plain "\x1b[1mA\x1b[0m" (Score.ofNat 99999) none

theorem decodeList_styledInput : Record.decodeList styledInput = .ok [styledRecord] :=
  decodeList_plain "\x1b[1mA\x1b[0m" 99999 .null (by cbv)

theorem rank_table_styledInput :
    Record.decodeList styledInput = .ok [styledRecord] ∧ Config.standard.Loadable ∧
      ∀ line ∈ rankingTable none (Ranking.rank Config.standard.scorer none [styledRecord]),
        visibleLength line = boxWidth + 2 := by
  have hconfig : Config.standard.Loadable := ⟨Config.standard, none, .inl rfl, rfl⟩
  have hentries := rank_singleton Config.standard.scorer styledRecord
  refine ⟨decodeList_styledInput, hconfig,
    (rank_table_aligned_iff none none decodeList_styledInput hconfig ?_).2 ?_ ?_⟩
  · rw [hentries, List.forall_mem_singleton]
    decide +kernel
  · rw [hentries]
    decide
  · rw [hentries, List.forall_mem_singleton]
    unfold InColumn
    decide +kernel

end SearchRanking.Display
