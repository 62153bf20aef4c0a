import SearchRanking.Proofs.Demotion

namespace SearchRanking

theorem Entry.isOverridden_iff {entry : Entry} :
    entry.isOverridden = true ↔ entry.score.bits ≠ entry.record.score.bits := by
  rw [Entry.isOverridden, decide_eq_true_iff, Ne, Ne, Score.bits_inj]

namespace Ranking

/-- The demoting scorer changes the score of the record: a generated page whose bits are not those
of the penalty. -/
def overrides (pattern : Pattern) (penalty : Score) (record : Record) : Bool :=
  pattern.recognizesRecord record && record.score.bits != penalty.bits

section Entries

variable {pattern : Pattern} {penalty : Score} {records : List Record} {entries : List Entry}

/-- Both branches of the scorer: the penalty may be the score of the host, and a score that is
passed on always is. -/
theorem isOverridden_of_demoting {entry : Entry}
    (hscore : entry.score = Scorer.demoting pattern penalty entry.record) :
    entry.isOverridden = overrides pattern penalty entry.record := by
  rw [Bool.eq_iff_iff, Entry.isOverridden_iff, hscore, overrides, Bool.and_eq_true, bne_iff_ne]
  cases hrecognized : pattern.recognizesRecord entry.record with
  | true =>
      rw [demoting_of_recognized hrecognized]
      exact ⟨fun hne => ⟨rfl, hne.symm⟩, fun h => h.2.symm⟩
  | false =>
      rw [demoting_of_not_recognized hrecognized]
      exact ⟨fun hne => absurd rfl hne, fun h => absurd h.1 Bool.false_ne_true⟩

theorem overridden_stats_of_demoting
    (hscores : ∀ entry ∈ entries, entry.score = Scorer.demoting pattern penalty entry.record) :
    (stats entries).overridden =
      entries.countP fun entry => overrides pattern penalty entry.record := by
  refine List.countP_congr fun entry hentry => ?_
  rw [isOverridden_of_demoting (hscores entry hentry)]

theorem overridden_stats_of_perm
    (hperm : entries.Perm (candidates (Scorer.demoting pattern penalty) records)) :
    (stats entries).overridden = records.countP (overrides pattern penalty) := by
  have hscores : ∀ entry ∈ entries,
      entry.score = Scorer.demoting pattern penalty entry.record := by
    intro entry hentry
    exact (mem_candidates (hperm.mem_iff.mp hentry)).2
  have hrecords : (entries.map Entry.record).Perm records := by
    simpa using hperm.map Entry.record
  calc (stats entries).overridden
      = entries.countP (overrides pattern penalty ∘ Entry.record) :=
        overridden_stats_of_demoting hscores
    _ = (entries.map Entry.record).countP (overrides pattern penalty) := List.countP_map.symm
    _ = records.countP (overrides pattern penalty) := hrecords.countP_eq _

theorem overridden_stats_of_host (hscores : ∀ entry ∈ entries, entry.score = entry.record.score) :
    (stats entries).overridden = 0 := by
  refine List.countP_eq_zero.mpr fun entry hentry => ?_
  rw [Entry.isOverridden_iff, hscores entry hentry]
  exact fun hne => hne rfl

end Entries

/-- **The size of a ranking and its overridden scores.** A limit keeps as many entries as there are,
up to itself, and the overridden ones are the kept generated pages whose host score differs from the
penalty in some bit. Without a limit their number is read off the records, whatever order the
candidates are brought into. The scores of the host override nothing, be they NaNs or zeros of
either sign. -/
theorem stats_rank (pattern : Pattern) (penalty : Score) (limit : Option Nat)
    (records : List Record) :
    (stats (rank (Scorer.demoting pattern penalty) limit records)).total =
        keptCount limit records.length ∧
      (stats (rank (Scorer.demoting pattern penalty) limit records)).overridden =
        (rank (Scorer.demoting pattern penalty) limit records).countP
          (overrides pattern penalty ·.record) ∧
    (stats (rank (Scorer.demoting pattern penalty) none records)).overridden =
        records.countP (overrides pattern penalty) ∧
    (∀ entries : List Entry,
      entries.Perm (candidates (Scorer.demoting pattern penalty) records) →
        (stats entries).overridden = records.countP (overrides pattern penalty)) ∧
    (stats (rank Scorer.host limit records)).overridden = 0 := by
  refine ⟨length_rank _ limit records, ?_, ?_, ?_, ?_⟩
  · exact overridden_stats_of_demoting fun entry hentry => (mem_rank hentry).2
  · exact overridden_stats_of_perm (rank_none_perm _ records)
  · intro entries hperm
    exact overridden_stats_of_perm hperm
  · exact overridden_stats_of_host fun entry hentry => (mem_rank hentry).2

/-- Generated pages with either zero and with a NaN, and a guide. -/
def signedZeros : List Record :=
  [.modulePage "a" (.zero false), .modulePage "b" (.zero true), .modulePage "c" .notANumber,
    .guide "Intro" (.ofNat 3)]

/-- Under the penalty minus nought, the page with that score is the one generated page that is not
overridden. -/
theorem stats_signedZeros :
    signedZeros.countP (overrides Pattern.standard (.zero true)) = 2 ∧
    (stats (rank (Scorer.demoting Pattern.standard (.zero true)) (some 3) signedZeros)).total = 3 ∧
    (stats (candidates (Scorer.demoting Pattern.standard (.zero true))
      signedZeros).reverse).overridden = 2 := by
  obtain ⟨htotal, _, _, hany, _⟩ :=
    stats_rank Pattern.standard (.zero true) (some 3) signedZeros
  have hcount : signedZeros.countP (overrides Pattern.standard (.zero true)) = 2 := by
    decide +kernel
  exact ⟨hcount, htotal, (hany _ (List.reverse_perm _)).trans hcount⟩

end Ranking

end SearchRanking
