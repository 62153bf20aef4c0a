import SearchRanking.Proofs.Command.RankOutput
import SearchRanking.Proofs.Pattern

namespace SearchRanking.Config

open Json SearchRanking.Path

/-- A text that can stand as one segment of a path and is not empty. -/
def IsSegment (text : String) : Prop := text ≠ "" ∧ SlashFree text

structure IsValid (config : Config) : Prop where
  isFinite_penalty : config.penalty.isFinite = true
  root_ne_nil : config.root ≠ []
  isSegment_of_mem_root : ∀ segment ∈ config.root, IsSegment segment
  isSegment_leaf : IsSegment config.leaf

@[simp]
theorem checkSegment_eq_ok_iff {segment : String} :
    checkSegment segment = .ok () ↔ IsSegment segment := by
  rw [checkSegment, IsSegment, SlashFree]
  by_cases hempty : segment = ""
  · simp [hempty]
  · by_cases hslash : '/' ∈ segment.toList
    · simp [hempty, hslash]
    · simp [hempty, hslash]

@[simp]
theorem forM_checkSegment_eq_ok_iff {segments : List String} :
    segments.forM checkSegment = .ok () ↔ ∀ segment ∈ segments, IsSegment segment := by
  induction segments with
  | nil => simp [List.forM, pure, Except.pure]
  | cons segment segments ih =>
      change (checkSegment segment >>= fun _ => segments.forM checkSegment) = .ok () ↔ _
      rw [bind_eq_ok_iff, List.forall_mem_cons, ← ih, ← checkSegment_eq_ok_iff]
      constructor
      · rintro ⟨_, hfirst, hrest⟩
        exact ⟨hfirst, hrest⟩
      · rintro ⟨hfirst, hrest⟩
        exact ⟨(), hfirst, hrest⟩

@[simp]
theorem validate_eq_ok_iff {config : Config} : config.validate = .ok () ↔ config.IsValid := by
  rw [validate]
  split
  · next hinfinite =>
    refine ⟨fun hok => absurd hok (by simp), fun hvalid => ?_⟩
    rw [hvalid.isFinite_penalty] at hinfinite
    cases hinfinite
  · next hfinite =>
    split
    · next hempty =>
      refine ⟨fun hok => absurd hok (by simp), fun hvalid => ?_⟩
      exact absurd (List.isEmpty_iff.mp hempty) hvalid.root_ne_nil
    · next hnonempty =>
      rw [forM_checkSegment_eq_ok_iff, List.forall_mem_append, List.forall_mem_singleton]
      constructor
      · rintro ⟨hroot, hleaf⟩
        exact ⟨by simpa using hfinite, by simpa using hnonempty, hroot, hleaf⟩
      · intro hvalid
        exact ⟨hvalid.isSegment_of_mem_root, hvalid.isSegment_leaf⟩

@[simp]
theorem validated_eq_ok_iff {config found : Config} :
    config.validated = .ok found ↔ config.IsValid ∧ found = config := by
  rw [validated, bind_eq_ok_iff, ← validate_eq_ok_iff]
  constructor
  · rintro ⟨_, hvalid, hsame⟩
    cases hsame
    exact ⟨hvalid, rfl⟩
  · rintro ⟨hvalid, rfl⟩
    exact ⟨(), hvalid, rfl⟩

theorem isValid_standard : standard.IsValid := validate_eq_ok_iff.mp (by decide +kernel)

theorem isValid_of_ofText {text : String} {config : Config} (hread : ofText text = .ok config) :
    config.IsValid := by
  rw [ofText, bind_eq_ok_iff] at hread
  obtain ⟨draft, -, hvalidated⟩ := hread
  rw [mapError_eq_ok_iff, validated_eq_ok_iff] at hvalidated
  obtain ⟨hvalid, rfl⟩ := hvalidated
  exact hvalid

theorem isValid_of_withPenalty {config changed : Config} {penalty : Option Score}
    (hchange : config.withPenalty penalty = .ok changed) : changed.IsValid := by
  rw [withPenalty, validated_eq_ok_iff] at hchange
  obtain ⟨hvalid, rfl⟩ := hchange
  exact hvalid

theorem IsValid.withPenalty_none {config : Config} (hvalid : config.IsValid) :
    config.withPenalty none = .ok config :=
  validated_eq_ok_iff.mpr ⟨hvalid, rfl⟩

theorem IsValid.withPenalty_some_iff {config changed : Config} (hvalid : config.IsValid)
    {penalty : Score} :
    config.withPenalty (some penalty) = .ok changed ↔
      penalty.isFinite = true ∧ changed = { config with penalty := penalty } := by
  rw [withPenalty, validated_eq_ok_iff, Option.getD_some]
  refine and_congr_left' ⟨fun hchanged => hchanged.isFinite_penalty, fun hfinite => ?_⟩
  exact { hvalid with isFinite_penalty := hfinite }

/-- The pages of a valid layout are recognized. A leading part may itself hold slashes; it only adds
segments before the root. -/
theorem IsValid.recognizes_join {config : Config} (hvalid : config.IsValid)
    (leading : List String) {name : String} {nested : List String} (hname : IsSegment name)
    (hnested : ∀ segment ∈ nested, SlashFree segment) :
    config.pattern.recognizes
      (join (leading ++ config.root ++ [name] ++ nested ++ [config.leaf])) = true := by
  have hroot : config.root.flatMap segments = config.root :=
    flatMap_segments_of_slashFree fun segment hsegment =>
      (hvalid.isSegment_of_mem_root segment hsegment).2
  have hsegments : segments (join (leading ++ config.root ++ [name] ++ nested ++ [config.leaf])) =
      leading.flatMap segments ++ config.root ++ [name] ++ nested ++ [config.leaf] := by
    rw [segments_join_eq_flatMap (by simp)]
    simp only [List.flatMap_append, List.flatMap_singleton, hroot,
      flatMap_segments_of_slashFree hnested, segments_of_slashFree hname.2,
      segments_of_slashFree hvalid.isSegment_leaf.2]
  rw [Pattern.recognizes_iff_segments]
  exact ⟨leading.flatMap segments, name, nested, hname.1, hsegments⟩

theorem scorer_of_recognizes {config : Config} {record : Record} {path : String}
    (hfilename : record.filename = some path) (hpath : config.pattern.recognizes path = true) :
    config.scorer record = config.penalty := by
  have hrecord : config.pattern.recognizesRecord record = true := by
    rw [Pattern.recognizesRecord, hfilename, Option.any_some, hpath]
  rw [scorer, Scorer.demoting, if_pos hrecord]

/-- The configurations that can be in use: the standard one, those that are read, and what comes of
them when another penalty is put in place, any number of times. -/
inductive InUse : Config → Prop
  | standard : InUse standard
  | read {text : String} {config : Config} (hread : ofText text = .ok config) : InUse config
  | changed {config changed : Config} {penalty : Option Score} (huse : InUse config)
      (hchange : config.withPenalty penalty = .ok changed) : InUse changed

theorem InUse.isValid {config : Config} (huse : config.InUse) : config.IsValid := by
  induction huse with
  | standard => exact isValid_standard
  | read hread => exact isValid_of_ofText hread
  | changed _ hchange _ => exact isValid_of_withPenalty hchange

theorem Loadable.inUse {config : Config} (hloadable : config.Loadable) : config.InUse := by
  obtain ⟨base, penalty, hbase, hchange⟩ := hloadable
  rcases hbase with rfl | ⟨text, hread⟩
  · exact .changed .standard hchange
  · exact .changed (.read hread) hchange

/-- **Every configuration in use is valid and usable.** Validation passes exactly the valid
configurations. One that is in use passes it; it stays as it is where no penalty is given, takes just
the finite penalties and changes nothing else for them; and its scorer gives its penalty to every
page of its layout, whatever stands before the root and whatever score the host gave. Commands run
with configurations in use only. -/
theorem inUse_valid_and_usable :
    (∀ config : Config, config.validate = .ok () ↔
      config.penalty.isFinite = true ∧ config.root ≠ [] ∧
        ∀ segment ∈ config.root ++ [config.leaf], segment ≠ "" ∧ SlashFree segment) ∧
    (∀ config : Config, config.InUse →
      config.validate = .ok () ∧
      config.withPenalty none = .ok config ∧
      (∀ penalty changed, config.withPenalty (some penalty) = .ok changed ↔
        penalty.isFinite = true ∧ changed = { config with penalty := penalty }) ∧
      ∀ (leading : List String) (name : String) (nested : List String) (record : Record),
        name ≠ "" → SlashFree name → (∀ segment ∈ nested, SlashFree segment) →
        record.filename =
          some (join (leading ++ config.root ++ [name] ++ nested ++ [config.leaf])) →
        config.scorer record = config.penalty) ∧
    ∀ around options before after config,
      (Command.configFor around options).run.run before = (.ok config, after) →
        config.InUse := by
  refine ⟨?_, ?_, ?_⟩
  · intro config
    rw [validate_eq_ok_iff, List.forall_mem_append, List.forall_mem_singleton]
    constructor
    · intro hvalid
      exact ⟨hvalid.isFinite_penalty, hvalid.root_ne_nil, hvalid.isSegment_of_mem_root,
        hvalid.isSegment_leaf⟩
    · rintro ⟨hfinite, hroot, hsegments, hleaf⟩
      exact ⟨hfinite, hroot, hsegments, hleaf⟩
  · intro config huse
    have hvalid := huse.isValid
    refine ⟨validate_eq_ok_iff.mpr hvalid, hvalid.withPenalty_none,
      fun _ _ => hvalid.withPenalty_some_iff, ?_⟩
    intro leading name nested record hname hfree hnested hfilename
    exact scorer_of_recognizes hfilename
      (hvalid.recognizes_join leading ⟨hname, hfree⟩ hnested)
  · intro around options before after config hload
    exact (Command.loadable_of_configFor hload).inUse

/-- The standard configuration under two penalties, one after the other. -/
def repenalized : Config := { standard with penalty := Score.ofNat 3 }

theorem inUse_repenalized :
    repenalized.InUse ∧ repenalized.validate = .ok () ∧
      (∀ changed, repenalized.withPenalty (some (Score.infinity true)) ≠ .ok changed) ∧
      repenalized.scorer (.plain "Any" .notANumber
        (some "https://host//reference/modules/reference//autodoc.html")) = Score.ofNat 3 := by
  obtain ⟨-, hinUse, -⟩ := inUse_valid_and_usable
  have hfirst : InUse { standard with penalty := Score.zero true } :=
    .changed .standard (((hinUse _ .standard).2.2.1 (Score.zero true) _).mpr ⟨rfl, rfl⟩)
  have hsecond : repenalized.InUse :=
    .changed hfirst (((hinUse _ hfirst).2.2.1 (Score.ofNat 3) _).mpr ⟨by decide +kernel, rfl⟩)
  obtain ⟨hvalid, -, hchanges, hpages⟩ := hinUse _ hsecond
  refine ⟨hsecond, hvalid, fun changed hchange => ?_, ?_⟩
  · exact absurd ((hchanges _ _).mp hchange).1 (by decide)
  · refine hpages ["https://host/"] "reference" [""] _ (by decide) ?_ ?_ (by decide +kernel)
    · unfold SlashFree
      decide +kernel
    · unfold SlashFree
      decide +kernel

end SearchRanking.Config
