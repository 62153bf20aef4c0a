import SearchRanking.Pattern
import SearchRanking.Proofs.Path

/-!
# Which paths lead to generated pages

The recognizer walks over the segments of a path. Three readings of it agree: the segments can be
cut so that the root, a module name and at the end the leaf appear; the text of the path can be cut
likewise, where neither the root nor the leaf holds a slash; and a scan by index finds the root and
a name in one of its windows, without ever reading beyond the segments.

A pattern need not be usable. The segments of a path hold no slash, so a pattern with a slash in it
recognizes nothing, and any other pattern recognizes at least its own layout around one module.
-/

namespace SearchRanking.Pattern

theorem opensModule_iff {root segments : List String} :
    opensModule root segments = true ↔
      ∃ name rest, name ≠ "" ∧ segments = root ++ name :: rest := by
  induction root generalizing segments with
  | nil =>
      cases segments with
      | nil => simp [opensModule]
      | cons segment segments => simp [opensModule]
  | cons expected root ih =>
      cases segments with
      | nil => simp [opensModule]
      | cons segment segments =>
          simp only [opensModule, Bool.and_eq_true, beq_iff_eq, ih, List.cons_append,
            List.cons.injEq]
          constructor
          · rintro ⟨rfl, name, rest, hname, hsegments⟩
            exact ⟨name, rest, hname, rfl, hsegments⟩
          · rintro ⟨name, rest, hname, hsegment, hsegments⟩
            exact ⟨hsegment, name, rest, hname, hsegments⟩

theorem underRoot_iff {root segments : List String} :
    underRoot root segments = true ↔
      ∃ before name rest, name ≠ "" ∧ segments = before ++ root ++ name :: rest := by
  induction segments with
  | nil => simp [underRoot]
  | cons segment segments ih =>
      rw [underRoot, Bool.or_eq_true, opensModule_iff, ih]
      constructor
      · rintro (⟨name, rest, hname, hsegments⟩ | ⟨before, name, rest, hname, hsegments⟩)
        · exact ⟨[], name, rest, hname, hsegments⟩
        · exact ⟨segment :: before, name, rest, hname, by rw [hsegments]; rfl⟩
      · rintro ⟨before, name, rest, hname, hsegments⟩
        cases before with
        | nil => exact Or.inl ⟨name, rest, hname, hsegments⟩
        | cons first before =>
            simp only [List.cons_append, List.cons.injEq] at hsegments
            exact Or.inr ⟨before, name, rest, hname, hsegments.2⟩

theorem recognizes_iff_segments {pattern : Pattern} {path : String} :
    pattern.recognizes path = true ↔
      ∃ before name between, name ≠ "" ∧
        Path.segments path = before ++ pattern.root ++ [name] ++ between ++ [pattern.leaf] := by
  rw [recognizes, Bool.and_eq_true, beq_iff_eq, underRoot_iff]
  constructor
  · rintro ⟨hleaf, before, name, between, hname, hparents⟩
    obtain ⟨parents, hsegments⟩ := List.getLast?_eq_some_iff.mp hleaf
    rw [hsegments, List.dropLast_concat] at hparents
    refine ⟨before, name, between, hname, ?_⟩
    rw [hsegments, hparents]
    simp
  · rintro ⟨before, name, between, hname, hsegments⟩
    refine ⟨?_, before, name, between, hname, ?_⟩
    · rw [hsegments, List.getLast?_concat]
    · rw [hsegments, List.dropLast_concat]
      simp

theorem length_segments_of_recognizes {pattern : Pattern} {path : String}
    (hrecognized : pattern.recognizes path = true) :
    pattern.root.length + 2 ≤ (Path.segments path).length := by
  obtain ⟨before, name, between, -, hsegments⟩ := recognizes_iff_segments.mp hrecognized
  rw [hsegments]
  simp only [List.length_append, List.length_singleton]
  omega

open SearchRanking.Path in
theorem exists_segments_iff_exists_text {root : List String} {leaf path : String}
    (hroot : ∀ segment ∈ root, SlashFree segment) (hleaf : SlashFree leaf) :
    (∃ before name between, name ≠ "" ∧
        segments path = before ++ root ++ [name] ++ between ++ [leaf]) ↔
      ∃ front name nested, IsDirectory front ∧ IsDirectory nested ∧
        name ≠ "" ∧ SlashFree name ∧
        path = front ++ directory root ++ name ++ "/" ++ nested ++ leaf := by
  -- both sides say that the segments of the path are those of the pieces, one after the other
  have hpieces : ∀ {before between : List String} {name : String},
      (∀ part ∈ before, SlashFree part) → (∀ part ∈ between, SlashFree part) →
      SlashFree name →
      segments (directory before ++ directory root ++ name ++ "/" ++ directory between ++ leaf) =
        before ++ root ++ [name] ++ between ++ [leaf] := by
    intro before between name hbefore hbetween hname
    simp only [String.append_assoc]
    rw [segments_directory_append hbefore, segments_directory_append hroot, ← String.append_assoc,
      segments_append_slash, segments_of_slashFree hname, segments_directory_append hbetween,
      segments_of_slashFree hleaf]
    simp
  constructor
  · rintro ⟨before, name, between, hname, hsegments⟩
    have hfree : ∀ part ∈ before ++ root ++ [name] ++ between ++ [leaf], SlashFree part := by
      intro part hpart
      exact slashFree_of_mem_segments (hsegments ▸ hpart)
    have hnameFree : SlashFree name := hfree name (by simp)
    refine ⟨directory before, name, directory between, isDirectory_directory before,
      isDirectory_directory between, hname, hnameFree, segments_injective ?_⟩
    rw [hsegments, hpieces (fun part hpart => hfree part (by simp [hpart]))
      (fun part hpart => hfree part (by simp [hpart])) hnameFree]
  · rintro ⟨front, name, nested, hfront, hnested, hname, hnameFree, rfl⟩
    obtain ⟨before, hbefore, rfl⟩ := hfront.exists_eq_directory
    obtain ⟨between, hbetween, rfl⟩ := hnested.exists_eq_directory
    exact ⟨before, name, between, hname, hpieces hbefore hbetween hnameFree⟩

/-! ### Scanning windows by index

The scan looks at every place where the root and one segment more still fit. Each of its steps can
fail: a difference may be negative, a window or an index may lie outside the segments. -/

/-- The difference of two numbers, if it is not negative. -/
def difference? (a b : Nat) : Option Nat := if b ≤ a then some (a - b) else none

/-- The items from `start` up to `stop`, if these bounds lie in the list. -/
def slice? (items : List String) (start stop : Nat) : Option (List String) :=
  if start ≤ stop ∧ stop ≤ items.length then some ((items.take stop).drop start) else none

/-- Whether the root stands at an index of the segments with a module name behind it. -/
def opensAt? (root segments : List String) (start : Nat) : Option Bool := do
  let window ← slice? segments start (start + root.length)
  let name ← segments[start + root.length]?
  some (!name.isEmpty && (window.zip root).all fun (segment, expected) => segment == expected)

/-- Looks for the root and a module name in all windows, from the left up to the first hit. -/
def scan? (pattern : Pattern) (path : String) : Option Bool :=
  match (Path.segments path).getLast? with
  | none => some false
  | some last =>
      let parents := (Path.segments path).dropLast
      if last ≠ pattern.leaf then some false
      else if parents.length < pattern.root.length + 1 then some false
      else do
        let count ← difference? parents.length pattern.root.length
        (List.range count).anyM (opensAt? pattern.root parents)

theorem opensModule_eq_window {root segments : List String} {name : String}
    (hname : segments[root.length]? = some name) :
    opensModule root segments =
      (!name.isEmpty &&
        ((segments.take root.length).zip root).all fun (segment, expected) =>
          segment == expected) := by
  induction root generalizing segments with
  | nil =>
      cases segments with
      | nil => simp at hname
      | cons segment segments =>
          simp only [List.length_nil, List.getElem?_cons_zero, Option.some.injEq] at hname
          simp [opensModule, hname]
  | cons expected root ih =>
      cases segments with
      | nil => simp at hname
      | cons segment segments =>
          rw [List.length_cons, List.getElem?_cons_succ] at hname
          rw [opensModule, ih hname]
          simp only [List.length_cons, List.take_succ_cons, List.zip_cons_cons, List.all_cons]
          exact Bool.and_left_comm _ _ _

theorem opensAt?_eq {root segments : List String} {start : Nat}
    (hroom : start + root.length < segments.length) :
    opensAt? root segments start = some (opensModule root (segments.drop start)) := by
  have hname : segments[start + root.length]? = some segments[start + root.length] :=
    List.getElem?_eq_getElem hroom
  have hslice : slice? segments start (start + root.length) =
      some ((segments.drop start).take root.length) := by
    rw [slice?, if_pos ⟨by omega, by omega⟩, List.drop_take, Nat.add_sub_cancel_left]
  rw [opensModule_eq_window (List.getElem?_drop.trans hname), opensAt?, hslice, hname]
  rfl

theorem anyM_eq_some_any {starts : List Nat} {test? : Nat → Option Bool} {test : Nat → Bool}
    (htest : ∀ start ∈ starts, test? start = some (test start)) :
    starts.anyM test? = some (starts.any test) := by
  induction starts with
  | nil => rfl
  | cons start starts ih =>
      have hrest := ih fun other hother => htest other (List.mem_cons_of_mem start hother)
      rw [List.anyM, htest start List.mem_cons_self, List.any_cons]
      cases test start with
      | true => rfl
      | false => exact hrest

theorem underRoot_eq_any (root segments : List String) :
    underRoot root segments =
      (List.range (segments.length - root.length)).any fun start =>
        opensModule root (segments.drop start) := by
  rw [Bool.eq_iff_iff, underRoot_iff, List.any_eq_true]
  constructor
  · rintro ⟨before, name, rest, hname, rfl⟩
    refine ⟨before.length, ?_, ?_⟩
    · simp only [List.mem_range, List.length_append, List.length_cons]
      omega
    · rw [opensModule_iff]
      exact ⟨name, rest, hname, by simp⟩
  · rintro ⟨start, _, hopens⟩
    obtain ⟨name, rest, hname, hdrop⟩ := opensModule_iff.mp hopens
    refine ⟨segments.take start, name, rest, hname, ?_⟩
    rw [List.append_assoc, ← hdrop, List.take_append_drop]

/-- The scan by index never leaves the segments, and it finds what the recognizer finds. -/
theorem scan?_eq_some_recognizes (pattern : Pattern) (path : String) :
    pattern.scan? path = some (pattern.recognizes path) := by
  obtain ⟨last, hlast⟩ : ∃ last, (Path.segments path).getLast? = some last :=
    Option.ne_none_iff_exists'.mp (by simp [Path.segments_ne_nil])
  simp only [scan?, recognizes, hlast]
  generalize (Path.segments path).dropLast = parents
  by_cases hleaf : last = pattern.leaf
  · have hhead : (some last == some pattern.leaf) = true := by simp [hleaf]
    rw [if_neg (not_not_intro hleaf), hhead, Bool.true_and, underRoot_eq_any]
    by_cases hshort : parents.length < pattern.root.length + 1
    · have hnone : parents.length - pattern.root.length = 0 := by omega
      rw [if_pos hshort, hnone]
      rfl
    · have hcount : difference? parents.length pattern.root.length =
          some (parents.length - pattern.root.length) := if_pos (by omega)
      rw [if_neg hshort, hcount]
      refine anyM_eq_some_any ?_
      intro start hstart
      rw [List.mem_range] at hstart
      exact opensAt?_eq (by omega)
  · rw [if_pos hleaf]
    simp [hleaf]

/-- **Recognized paths.** A path is recognized exactly when its segments are any segments, the root,
a name that is not empty, any segments and the leaf; the scan by index gives the same answer and
never leaves the segments; and where the root and the leaf hold no slash, the text of the path is cut
in the same way. -/
theorem recognizes_characterization (pattern : Pattern) (path : String) :
    (pattern.recognizes path = true ↔
      ∃ before name between, name ≠ "" ∧
        Path.segments path = before ++ pattern.root ++ [name] ++ between ++ [pattern.leaf]) ∧
    pattern.scan? path = some (pattern.recognizes path) ∧
    ((∀ segment ∈ pattern.root, Path.SlashFree segment) → Path.SlashFree pattern.leaf →
      (pattern.recognizes path = true ↔
        ∃ front name nested, Path.IsDirectory front ∧ Path.IsDirectory nested ∧
          name ≠ "" ∧ Path.SlashFree name ∧
          path = front ++ Path.directory pattern.root ++ name ++ "/" ++ nested ++
            pattern.leaf)) := by
  refine ⟨recognizes_iff_segments, scan?_eq_some_recognizes pattern path, ?_⟩
  intro hroot hleaf
  rw [recognizes_iff_segments]
  exact exists_segments_iff_exists_text hroot hleaf

variable {pattern : Pattern}

theorem slashFree_of_recognizes {path : String} (hrecognized : pattern.recognizes path = true) :
    Path.SlashFree pattern.leaf ∧ ∀ segment ∈ pattern.root, Path.SlashFree segment := by
  obtain ⟨before, name, between, -, hsegments⟩ := recognizes_iff_segments.mp hrecognized
  have hfree : ∀ part ∈ before ++ pattern.root ++ [name] ++ between ++ [pattern.leaf],
      Path.SlashFree part := by
    intro part hpart
    exact Path.slashFree_of_mem_segments (hsegments ▸ hpart)
  refine ⟨hfree pattern.leaf (by simp), ?_⟩
  intro segment hsegment
  exact hfree segment (by simp [hsegment])

/-- The page of a module, right under the root. -/
def modulePath (pattern : Pattern) (name : String) : String :=
  Path.join (pattern.root ++ [name] ++ [pattern.leaf])

theorem recognizes_modulePath {name : String} (hleaf : Path.SlashFree pattern.leaf)
    (hroot : ∀ segment ∈ pattern.root, Path.SlashFree segment) (hname : Path.SlashFree name)
    (hnonempty : name ≠ "") : pattern.recognizes (pattern.modulePath name) = true := by
  have hfree : ∀ part ∈ pattern.root ++ [name] ++ [pattern.leaf], Path.SlashFree part := by
    intro part hpart
    simp only [List.mem_append, List.mem_singleton] at hpart
    rcases hpart with (hpart | rfl) | rfl
    · exact hroot part hpart
    · exact hname
    · exact hleaf
  have hsegments : Path.segments (pattern.modulePath name) =
      pattern.root ++ [name] ++ [pattern.leaf] := Path.segments_join (by simp) hfree
  exact recognizes_iff_segments.mpr ⟨[], name, [], hnonempty, by simp [hsegments]⟩

/-- **Live patterns.** Some path is recognized exactly where no slash stands in the leaf or in a
segment of the root. The pattern need not be a valid one: its root, its leaf and segments of the
root may be empty. -/
theorem exists_recognizes_iff (pattern : Pattern) :
    (∃ path, pattern.recognizes path = true) ↔
      Path.SlashFree pattern.leaf ∧ ∀ segment ∈ pattern.root, Path.SlashFree segment := by
  constructor
  · rintro ⟨path, hrecognized⟩
    exact slashFree_of_recognizes hrecognized
  · rintro ⟨hleaf, hroot⟩
    have hname : Path.SlashFree "module" := by simp [Path.SlashFree]
    exact ⟨pattern.modulePath "module", recognizes_modulePath hleaf hroot hname (by decide)⟩

example : Pattern.recognizes ⟨["", ""], ""⟩ "//module/" = true := by decide +kernel

end SearchRanking.Pattern
