/-
Port-range algebra of `instance.rs`: `sort_and_merge_ranges` and `ExternalRanges::contains`.

A port range is a `RangeInclusive<u16>`, `start..=end`: both ends are naturals below 2^16. The one `u16` sum of the
code, `*curr.end() + 1` in the merge loop, is computed modulo 2^16 (`PortRange.endSucc`), which is what a release
build does; a debug build panics where it overflows. `mergeLoopEnds` lists the values of `*curr.end()` at which the
loop evaluates that sum.

`sortAndMergeRanges` is the function as the code writes it: drop empty ranges, sort stably by start
(`List.insertionSort` is stable, as `sort_by_key` is), then run `for next in ranges.iter().skip(1)`, a fold of
`mergeStep` over the state `(res, curr)`. `mergeFrom` is the same loop by recursion on the ranges still to visit
(`foldl_mergeStep`); the properties of the loop are proved about it.

Results:
- `covers_sortAndMergeRanges`: the output covers exactly the ports of the input, for every input.
- `presorted_sortAndMergeRanges`: the output is non-empty ranges sorted by start, each one either ending more than
  one port before every later one starts, or ending at port 65535 (`Presorted`).
- `sortAndMergeRanges_idem`: normalising twice is normalising once, also when the loop wraps around: every range
  it pushes is followed by one starting past its wrapped `*end() + 1`, so a second pass pushes every range as it is.
- `canonical_sortAndMergeRanges`: when the loop never evaluates `65535 + 1`, the output is canonical: every range
  starts more than one port past the end of the one before it.
- `mergeLoop_overflow` / `sortAndMergeRanges_overlap`: on `[1..=65535, 2..=3]` the loop evaluates `65535 + 1`, and
  a release build returns both ranges, overlapping.
- `contains_iff_covers`: `ExternalRanges::contains` decides port-set inclusion for every pair of lists. Its walk
  needs only the `Presorted` shape of its first list and the order of its second, which `sortAndMergeRanges`
  gives also when its loop wraps around.
-/
import Mathlib.Data.List.Chain
import Mathlib.Data.List.Sort

namespace Einat.PortRanges

/-! ## Model -/

/-- `RangeInclusive<u16>`: the ports `start..=end` -/
structure PortRange where
  start : ℕ
  «end» : ℕ
  start_lt : start < 65536
  end_lt : «end» < 65536
deriving DecidableEq

namespace PortRange

/-- `RangeInclusive::is_empty` -/
def isEmpty (r : PortRange) : Bool := r.«end» < r.start

/-- port `p` lies in `r` -/
def Contains (r : PortRange) (p : ℕ) : Prop := r.start ≤ p ∧ p ≤ r.«end»

/-- `*r.end() + 1` in `u16` arithmetic, wrapping past 65535 as a release build does -/
def endSucc (r : PortRange) : ℕ := (r.«end» + 1) % 65536

end PortRange

/-- the ports of a list of ranges: `p` lies in one of them -/
def Covers (l : List PortRange) (p : ℕ) : Prop := ∃ r ∈ l, r.Contains p

/-- the order of `sort_by_key(|range| *range.start())` -/
def startLe (a b : PortRange) : Prop := a.start ≤ b.start

instance : DecidableRel startLe := fun a b => inferInstanceAs (Decidable (a.start ≤ b.start))
instance : IsTotal PortRange startLe := ⟨fun a b => Nat.le_total a.start b.start⟩
instance : IsTrans PortRange startLe := ⟨fun _ _ _ => Nat.le_trans⟩

/-- the first two statements of `sort_and_merge_ranges`: drop the empty ranges, sort stably by start -/
def sortByStart (ranges : List PortRange) : List PortRange :=
  (ranges.filter fun r => !r.isEmpty).insertionSort startLe

/-- one iteration of the merge loop on its state `(res, curr)` -/
def mergeStep : List PortRange × PortRange → PortRange → List PortRange × PortRange
  | (res, curr), next =>
    if next.start > curr.endSucc then (res ++ [curr], next)
    else if next.«end» > curr.«end» then (res, { curr with «end» := next.«end», end_lt := next.end_lt })
    else (res, curr)

/-- `sort_and_merge_ranges` -/
def sortAndMergeRanges (ranges : List PortRange) : List PortRange :=
  let ranges := sortByStart ranges
  if ranges.length < 2 then ranges
  else match ranges with
    | [] => []
    | curr :: rest =>
      let st := rest.foldl mergeStep ([], curr)
      st.1 ++ [st.2]

/-- the values of `*curr.end()` at which the merge loop evaluates `*curr.end() + 1`, one per iteration -/
def mergeLoopEnds (ranges : List PortRange) : List ℕ :=
  let ranges := sortByStart ranges
  if ranges.length < 2 then []
  else match ranges with
    | [] => []
    | curr :: rest => (rest.scanl mergeStep ([], curr)).dropLast.map fun st => st.2.«end»

/-- the `while let Some(other) = other_it.peek()` loop for one `range` of `this`: `none` is `return false`,
`some otherIt` what the peekable iterator still holds -/
def consumeCovered (range : PortRange) : List PortRange → Option (List PortRange)
  | [] => some []
  | other :: rest =>
    if other.start < range.start then none
    else if other.start > range.«end» then some (other :: rest)
    else if other.«end» > range.«end» then none
    else consumeCovered range rest

/-- the `for range in this` loop of `contains` over the iterator `otherIt` -/
def forRanges (this otherIt : List PortRange) : Option (List PortRange) :=
  this.foldlM (fun otherIt range => consumeCovered range otherIt) otherIt

/-- `ExternalRanges(Vec<RangeInclusive<u16>>)` -/
structure ExternalRanges where
  ranges : List PortRange
deriving DecidableEq

/-- `ExternalRanges::contains` -/
def ExternalRanges.contains (self other : ExternalRanges) : Bool :=
  match forRanges (sortAndMergeRanges self.ranges) (sortAndMergeRanges other.ranges) with
  | none => false
  | some otherIt => otherIt.isEmpty

/-! ## Ports of a list -/

@[simp] theorem covers_nil (p : ℕ) : ¬ Covers [] p := by simp [Covers]

@[simp] theorem covers_cons (r : PortRange) (l : List PortRange) (p : ℕ) :
    Covers (r :: l) p ↔ r.Contains p ∨ Covers l p := by simp [Covers]

@[simp] theorem covers_append (l₁ l₂ : List PortRange) (p : ℕ) :
    Covers (l₁ ++ l₂) p ↔ Covers l₁ p ∨ Covers l₂ p := by simp [Covers, or_and_right, exists_or]

theorem not_isEmpty {r : PortRange} : r.isEmpty = false ↔ r.start ≤ r.«end» := by simp [PortRange.isEmpty]

theorem endSucc_of_lt {r : PortRange} (h : r.«end» < 65535) : r.endSucc = r.«end» + 1 :=
  Nat.mod_eq_of_lt (by omega)

theorem endSucc_max {r : PortRange} (h : r.«end» = 65535) : r.endSucc = 0 := by simp [PortRange.endSucc, h]

theorem sorted_sortByStart (ranges : List PortRange) : (sortByStart ranges).Sorted startLe :=
  List.sorted_insertionSort _ _

theorem nonempty_of_mem_sortByStart {ranges : List PortRange} {r : PortRange} (h : r ∈ sortByStart ranges) :
    r.start ≤ r.«end» := by
  simpa [sortByStart, List.mem_insertionSort, not_isEmpty] using (List.mem_filter.1
    (List.mem_insertionSort startLe |>.1 h)).2

theorem covers_sortByStart (ranges : List PortRange) (p : ℕ) : Covers (sortByStart ranges) p ↔ Covers ranges p := by
  simp only [Covers, sortByStart, List.mem_insertionSort, List.mem_filter, Bool.not_eq_true', not_isEmpty]
  exact ⟨fun ⟨r, ⟨hr, _⟩, hp⟩ => ⟨r, hr, hp⟩, fun ⟨r, hr, hp⟩ => ⟨r, ⟨hr, hp.1.trans hp.2⟩, hp⟩⟩

/-! ## The merge loop by recursion -/

/-- the merge loop from the current range `curr` over the ranges still to visit: the ranges it pushes, then its
last `curr` -/
def mergeFrom (curr : PortRange) : List PortRange → List PortRange
  | [] => [curr]
  | next :: rest =>
    if next.start > curr.endSucc then curr :: mergeFrom next rest
    else if next.«end» > curr.«end» then mergeFrom { curr with «end» := next.«end», end_lt := next.end_lt } rest
    else mergeFrom curr rest

theorem foldl_mergeStep (res : List PortRange) (curr : PortRange) (rest : List PortRange) :
    (rest.foldl mergeStep (res, curr)).1 ++ [(rest.foldl mergeStep (res, curr)).2] = res ++ mergeFrom curr rest := by
  induction rest generalizing res curr with
  | nil => rfl
  | cons next rest ih =>
    simp only [List.foldl_cons, mergeStep, mergeFrom]
    split_ifs <;> simp [ih]

theorem sortAndMergeRanges_eq (ranges : List PortRange) :
    sortAndMergeRanges ranges = match sortByStart ranges with
      | [] => []
      | curr :: rest => mergeFrom curr rest := by
  unfold sortAndMergeRanges
  rcases sortByStart ranges with _ | ⟨c, _ | ⟨d, t⟩⟩
  · rfl
  · rfl
  · simp only [List.length_cons, Nat.reduceLT, if_false, foldl_mergeStep, List.nil_append]; rfl

section Loop

variable {curr : PortRange} {rest : List PortRange}

theorem sorted_merged (hs : (curr :: next :: rest).Sorted startLe) (e : ℕ) (he : e < 65536) :
    ({ curr with «end» := e, end_lt := he } :: rest).Sorted startLe :=
  List.sorted_cons.2 ⟨fun b hb => (List.sorted_cons.1 hs).1 b (List.mem_cons_of_mem _ hb), hs.of_cons.of_cons⟩

theorem skip_sublist : List.Sublist (curr :: rest) (curr :: next :: rest) := List.Sublist.cons₂ _ (List.sublist_cons_self _ _)

theorem sorted_skip (hs : (curr :: next :: rest).Sorted startLe) : (curr :: rest).Sorted startLe :=
  hs.sublist skip_sublist

theorem start_le_of_mem_mergeFrom (hs : (curr :: rest).Sorted startLe) :
    ∀ o ∈ mergeFrom curr rest, curr.start ≤ o.start := by
  induction curr, rest using mergeFrom.induct with
  | case1 curr => simp [mergeFrom]
  | case2 curr next rest hgt ih =>
    simp only [mergeFrom, hgt, if_true, List.mem_cons, forall_eq_or_imp, le_refl, true_and]
    exact fun o ho => (List.rel_of_sorted_cons hs next (List.mem_cons_self _ _)).trans (ih hs.of_cons o ho)
  | case3 curr next rest hgt hlt ih =>
    simp only [mergeFrom, hgt, hlt, if_false, if_true]
    exact ih (sorted_merged hs _ _)
  | case4 curr next rest hgt hlt ih =>
    simp only [mergeFrom, hgt, hlt, if_false]
    exact ih (sorted_skip hs)

theorem covers_mergeFrom (hs : (curr :: rest).Sorted startLe) (p : ℕ) :
    Covers (mergeFrom curr rest) p ↔ Covers (curr :: rest) p := by
  induction curr, rest using mergeFrom.induct with
  | case1 curr => rfl
  | case2 curr next rest hgt ih =>
    simp only [mergeFrom, hgt, if_true, covers_cons, ih hs.of_cons]
  | case3 curr next rest hgt hlt ih =>
    simp only [mergeFrom, hgt, hlt, if_false, if_true, ih (sorted_merged hs _ _), covers_cons]
    have hle : curr.start ≤ next.start := List.rel_of_sorted_cons hs next (List.mem_cons_self _ _)
    have hlast : curr.«end» < 65535 := by have := next.end_lt; omega
    rw [endSucc_of_lt hlast] at hgt
    have hunion : PortRange.Contains { curr with «end» := next.«end», end_lt := next.end_lt } p ↔
        curr.Contains p ∨ next.Contains p := by
      simp only [PortRange.Contains]; omega
    rw [hunion, or_assoc]
  | case4 curr next rest hgt hlt ih =>
    simp only [mergeFrom, hgt, hlt, if_false, ih (sorted_skip hs), covers_cons]
    have hle : curr.start ≤ next.start := List.rel_of_sorted_cons hs next (List.mem_cons_self _ _)
    have hsub : next.Contains p → curr.Contains p := fun h => ⟨hle.trans h.1, h.2.trans (not_lt.1 hlt)⟩
    exact ⟨Or.imp_right .inr, fun h => h.elim .inl (Or.imp_left hsub)⟩

/-- `r` may stand before `s` in what the merge loop returns: `s` starts no earlier, and more than one port after
`r` ends unless `r` ends at 65535 -/
def Before (r s : PortRange) : Prop := r.start ≤ s.start ∧ (r.«end» + 1 < s.start ∨ r.«end» = 65535)

/-- the shape of what `sortAndMergeRanges` returns -/
structure Presorted (l : List PortRange) : Prop where
  before : l.Pairwise Before
  nonempty : ∀ r ∈ l, r.start ≤ r.«end»

theorem Presorted.sorted {l : List PortRange} (h : Presorted l) : l.Sorted startLe := h.before.imp And.left

theorem Presorted.tail {r : PortRange} {l : List PortRange} (h : Presorted (r :: l)) : Presorted l :=
  ⟨(List.pairwise_cons.1 h.before).2, fun s hs => h.nonempty s (List.mem_cons_of_mem _ hs)⟩

theorem presorted_mergeFrom (hs : (curr :: rest).Sorted startLe) (hne : ∀ r ∈ curr :: rest, r.start ≤ r.«end») :
    Presorted (mergeFrom curr rest) := by
  induction curr, rest using mergeFrom.induct with
  | case1 curr => exact ⟨List.pairwise_singleton _ _, hne⟩
  | case2 curr next rest hgt ih =>
    simp only [mergeFrom, hgt, if_true]
    obtain ⟨hb, hn⟩ := ih hs.of_cons (fun r hr => hne r (List.mem_cons_of_mem _ hr))
    have hle : curr.start ≤ next.start := List.rel_of_sorted_cons hs next (List.mem_cons_self _ _)
    refine ⟨List.pairwise_cons.2 ⟨fun o ho => ?_, hb⟩, ?_⟩
    · have ho : next.start ≤ o.start := start_le_of_mem_mergeFrom hs.of_cons o ho
      refine ⟨hle.trans ho, ?_⟩
      rcases Nat.lt_or_ge curr.«end» 65535 with h | h
      · rw [endSucc_of_lt h] at hgt; omega
      · have := curr.end_lt; omega
    · simpa using ⟨hne curr (List.mem_cons_self _ _), hn⟩
  | case3 curr next rest hgt hlt ih =>
    simp only [mergeFrom, hgt, hlt, if_false, if_true]
    refine ih (sorted_merged hs _ _) ?_
    simp only [List.mem_cons, forall_eq_or_imp] at hne ⊢
    exact ⟨by omega, hne.2.2⟩
  | case4 curr next rest hgt hlt ih =>
    simp only [mergeFrom, hgt, hlt, if_false]
    exact ih (sorted_skip hs) fun r hr => hne r (skip_sublist.subset hr)

end Loop

theorem presorted_sortAndMergeRanges (ranges : List PortRange) : Presorted (sortAndMergeRanges ranges) := by
  rw [sortAndMergeRanges_eq]
  have hs := sorted_sortByStart ranges
  have hne : ∀ r ∈ sortByStart ranges, r.start ≤ r.«end» := fun _ => nonempty_of_mem_sortByStart
  revert hs hne
  rcases sortByStart ranges with _ | ⟨c, rest⟩
  · exact fun _ _ => ⟨List.Pairwise.nil, by simp⟩
  · exact presorted_mergeFrom

/-- **The merge keeps the ports.** For every input, `sort_and_merge_ranges` covers exactly the input's ports. -/
theorem covers_sortAndMergeRanges (ranges : List PortRange) (p : ℕ) :
    Covers (sortAndMergeRanges ranges) p ↔ Covers ranges p := by
  rw [sortAndMergeRanges_eq, ← covers_sortByStart ranges p]
  have hs := sorted_sortByStart ranges
  revert hs
  rcases sortByStart ranges with _ | ⟨c, rest⟩
  · exact fun _ => Iff.rfl
  · exact fun hs => covers_mergeFrom hs p

/-! ## Normalising twice -/

theorem head?_mergeFrom (curr : PortRange) (rest : List PortRange) :
    (mergeFrom curr rest).head?.map PortRange.start = some curr.start := by
  induction curr, rest using mergeFrom.induct with
  | case1 curr => rfl
  | case2 curr next rest hgt ih => simp [mergeFrom, hgt]
  | case3 curr next rest hgt hlt ih => simpa only [mergeFrom, hgt, hlt, if_false, if_true] using ih
  | case4 curr next rest hgt hlt ih => simpa only [mergeFrom, hgt, hlt, if_false] using ih

/-- each range the loop pushes is followed by one that starts past its `*end() + 1`, wrapped or not -/
theorem chain_mergeFrom (curr : PortRange) (rest : List PortRange) :
    (mergeFrom curr rest).Chain' fun r s => r.endSucc < s.start := by
  induction curr, rest using mergeFrom.induct with
  | case1 curr => exact List.chain'_singleton _
  | case2 curr next rest hgt ih =>
    simp only [mergeFrom, hgt, if_true]
    refine List.chain'_cons'.2 ⟨fun y hy => ?_, ih⟩
    have := head?_mergeFrom next rest
    rw [Option.mem_def.1 hy, Option.map_some', Option.some.injEq] at this
    exact this ▸ hgt
  | case3 curr next rest hgt hlt ih => simpa only [mergeFrom, hgt, hlt, if_false, if_true] using ih
  | case4 curr next rest hgt hlt ih => simpa only [mergeFrom, hgt, hlt, if_false] using ih

/-- on such a list the loop pushes every range as it is -/
theorem mergeFrom_of_chain : ∀ {curr : PortRange} {rest : List PortRange},
    (curr :: rest).Chain' (fun r s => r.endSucc < s.start) → mergeFrom curr rest = curr :: rest
  | _, [], _ => rfl
  | _, _ :: _, h => by
    rw [List.chain'_cons] at h
    rw [mergeFrom, if_pos h.1, mergeFrom_of_chain h.2]

/-- **Normalising twice is normalising once.** What `sort_and_merge_ranges` returns, it returns unchanged, also
when its loop wraps around. -/
theorem sortAndMergeRanges_idem (ranges : List PortRange) :
    sortAndMergeRanges (sortAndMergeRanges ranges) = sortAndMergeRanges ranges := by
  have hp := presorted_sortAndMergeRanges ranges
  have hchain : (sortAndMergeRanges ranges).Chain' fun r s => r.endSucc < s.start := by
    rw [sortAndMergeRanges_eq]
    split
    exacts [List.chain'_nil, chain_mergeFrom _ _]
  have hsort : sortByStart (sortAndMergeRanges ranges) = sortAndMergeRanges ranges := by
    rw [sortByStart, List.filter_eq_self.2 fun r hr => by simpa [not_isEmpty] using hp.nonempty r hr]
    exact hp.sorted.insertionSort_eq
  rw [sortAndMergeRanges_eq (sortAndMergeRanges ranges), hsort]
  generalize sortAndMergeRanges ranges = out at hchain ⊢
  cases out with
  | nil => rfl
  | cons c rest => exact mergeFrom_of_chain hchain

/-! ## Without wrap-around the merge is canonical -/

/-- the values of `*curr.end()` that the merge loop sums with 1, by recursion as in `mergeFrom` -/
def loopEnds (curr : PortRange) : List PortRange → List ℕ
  | [] => []
  | next :: rest => curr.«end» :: loopEnds (mergeStep ([], curr) next).2 rest

theorem mergeStep_snd (st : List PortRange × PortRange) (next : PortRange) :
    (mergeStep st next).2 = (mergeStep ([], st.2) next).2 := by
  obtain ⟨res, curr⟩ := st
  simp only [mergeStep]
  split_ifs <;> rfl

theorem scanl_mergeStep (st : List PortRange × PortRange) (rest : List PortRange) :
    ((rest.scanl mergeStep st).dropLast.map fun st => st.2.«end») = loopEnds st.2 rest := by
  induction rest generalizing st with
  | nil => rfl
  | cons next rest ih =>
    have hne : rest.scanl mergeStep (mergeStep st next) ≠ [] := by cases rest <;> simp
    rw [List.scanl_cons, List.singleton_append, List.dropLast_cons_of_ne_nil hne, List.map_cons, ih,
      mergeStep_snd]
    rfl

theorem mergeLoopEnds_eq (ranges : List PortRange) :
    mergeLoopEnds ranges = match sortByStart ranges with
      | [] => []
      | curr :: rest => loopEnds curr rest := by
  unfold mergeLoopEnds
  rcases sortByStart ranges with _ | ⟨c, _ | ⟨d, t⟩⟩
  · rfl
  · rfl
  · rw [if_neg (by simp)]
    exact scanl_mergeStep _ _

theorem canonical_mergeFrom {curr : PortRange} {rest : List PortRange} (hs : (curr :: rest).Sorted startLe)
    (hno : ∀ e ∈ loopEnds curr rest, e < 65535) :
    (mergeFrom curr rest).Pairwise fun r s => r.«end» + 1 < s.start := by
  induction curr, rest using mergeFrom.induct with
  | case1 curr => exact List.pairwise_singleton _ _
  | case2 curr next rest hgt ih =>
    simp only [loopEnds, mergeStep, hgt, if_true, List.mem_cons, forall_eq_or_imp] at hno
    simp only [mergeFrom, hgt, if_true]
    rw [endSucc_of_lt hno.1] at hgt
    refine List.pairwise_cons.2 ⟨fun o ho => ?_, ih hs.of_cons hno.2⟩
    have := start_le_of_mem_mergeFrom hs.of_cons o ho
    omega
  | case3 curr next rest hgt hlt ih =>
    simp only [loopEnds, mergeStep, hgt, hlt, if_true, if_false, List.mem_cons, forall_eq_or_imp] at hno
    simp only [mergeFrom, hgt, hlt, if_false, if_true]
    exact ih (sorted_merged hs _ _) hno.2
  | case4 curr next rest hgt hlt ih =>
    simp only [loopEnds, mergeStep, hgt, hlt, if_false, List.mem_cons, forall_eq_or_imp] at hno
    simp only [mergeFrom, hgt, hlt, if_false]
    exact ih (sorted_skip hs) hno.2

/-- **Canonical output without wrap-around.** When the merge loop never evaluates `65535 + 1`, `sort_and_merge_ranges`
returns non-empty ranges, each starting more than one port past the end of every earlier one. -/
theorem canonical_sortAndMergeRanges (ranges : List PortRange) (hno : ∀ e ∈ mergeLoopEnds ranges, e < 65535) :
    (sortAndMergeRanges ranges).Pairwise (fun r s => r.«end» + 1 < s.start) ∧
      ∀ r ∈ sortAndMergeRanges ranges, r.start ≤ r.«end» := by
  refine ⟨?_, (presorted_sortAndMergeRanges ranges).nonempty⟩
  rw [mergeLoopEnds_eq] at hno
  rw [sortAndMergeRanges_eq]
  have hs := sorted_sortByStart ranges
  revert hs hno
  rcases sortByStart ranges with _ | ⟨c, rest⟩
  · exact fun _ _ => List.Pairwise.nil
  · exact fun hno hs => canonical_mergeFrom hs hno

/-- the ranges of the test `external_range`: `200..=300, 0..=100, 50..=150, 250..=290` -/
def testRanges : List PortRange :=
  [⟨200, 300, by decide, by decide⟩, ⟨0, 100, by decide, by decide⟩, ⟨50, 150, by decide, by decide⟩,
    ⟨250, 290, by decide, by decide⟩]

theorem canonical_sortAndMergeRanges_testRanges :
    (∀ e ∈ mergeLoopEnds testRanges, e < 65535) ∧
      (sortAndMergeRanges testRanges).Pairwise (fun r s => r.«end» + 1 < s.start) ∧
      ∀ r ∈ sortAndMergeRanges testRanges, r.start ≤ r.«end» :=
  ⟨by decide, canonical_sortAndMergeRanges testRanges (by decide)⟩

/-! ## The failing input of the merge loop -/

/-- a range reaching port 65535, then a range inside it -/
def wrapInput : List PortRange := [⟨1, 65535, by decide, by decide⟩, ⟨2, 3, by decide, by decide⟩]

/-- the loop evaluates `*curr.end() + 1` at `curr = 1..=65535`; a release build wraps the sum to 0 and pushes both
ranges -/
theorem mergeLoop_overflow :
    65535 + 1 > 65535 ∧ 65535 ∈ mergeLoopEnds wrapInput ∧ sortAndMergeRanges wrapInput = wrapInput := by
  decide

/-- on `wrapInput` a release build returns overlapping ranges, and a list with the same ports,
`[1..=65535]`, is left as it is: the output is neither disjoint nor one per port set -/
theorem sortAndMergeRanges_overlap :
    ¬ (sortAndMergeRanges wrapInput).Pairwise (fun r s => r.«end» + 1 < s.start) ∧
    (∀ p, Covers wrapInput p ↔ Covers [⟨1, 65535, by decide, by decide⟩] p) ∧
    sortAndMergeRanges wrapInput ≠ sortAndMergeRanges [⟨1, 65535, by decide, by decide⟩] := by
  refine ⟨by decide, fun p => ?_, by decide⟩
  simp only [wrapInput, covers_cons, covers_nil, or_false, PortRange.Contains]
  omega

/-! ## `contains` -/

theorem consumeCovered_some {range : PortRange} {others rest : List PortRange} (hs : others.Sorted startLe)
    (h : consumeCovered range others = some rest) :
    ∃ covered, others = covered ++ rest ∧ (∀ c ∈ covered, range.start ≤ c.start ∧ c.«end» ≤ range.«end») ∧
      ∀ r ∈ rest, range.«end» < r.start := by
  induction others with
  | nil => cases h; exact ⟨[], rfl, by simp, by simp⟩
  | cons o os ih =>
    simp only [consumeCovered] at h
    split_ifs at h with h1 h2 h3
    · cases h
      refine ⟨[], rfl, by simp, fun r hr => ?_⟩
      rcases List.mem_cons.1 hr with rfl | hr
      · exact h2
      · exact lt_of_lt_of_le h2 (List.rel_of_sorted_cons hs r hr)
    · obtain ⟨cov, rfl, hc, hr⟩ := ih hs.of_cons h
      refine ⟨o :: cov, rfl, ?_, hr⟩
      simp only [List.mem_cons, forall_eq_or_imp]
      exact ⟨⟨by omega, by omega⟩, hc⟩

theorem consumeCovered_none {range : PortRange} {this others : List PortRange} (hthis : ∀ a ∈ this, Before range a)
    (hne : ∀ r ∈ others, r.start ≤ r.«end») (h : consumeCovered range others = none) :
    ∃ p, Covers others p ∧ ¬ Covers (range :: this) p := by
  induction others with
  | nil => cases h
  | cons o os ih =>
    simp only [consumeCovered] at h
    have ho := hne o (List.mem_cons_self _ _)
    split_ifs at h with h1 h2 h3
    · refine ⟨o.start, by simp [PortRange.Contains, ho], fun ⟨a, ha, hap⟩ => ?_⟩
      rcases List.mem_cons.1 ha with rfl | ha
      · exact absurd hap.1 (by omega)
      · have := (hthis a ha).1; exact absurd hap.1 (by omega)
    · refine ⟨range.«end» + 1, by simp only [covers_cons, PortRange.Contains]; omega, fun ⟨a, ha, hap⟩ => ?_⟩
      rcases List.mem_cons.1 ha with rfl | ha
      · exact absurd hap.2 (by omega)
      · have := o.end_lt
        have := hap.1
        rcases (hthis a ha).2 with h4 | h4 <;> omega
    · obtain ⟨p, hp, hnp⟩ := ih (fun r hr => hne r (List.mem_cons_of_mem _ hr)) h
      exact ⟨p, (covers_cons _ _ _).2 (Or.inr hp), hnp⟩

theorem forRanges_cons (range : PortRange) (this others : List PortRange) :
    forRanges (range :: this) others = (consumeCovered range others).bind (forRanges this) := rfl

/-- the walk of `contains` empties the iterator of `others` exactly when `this` covers every port of `others`, for
`this` of the merged shape and `others` sorted by start -/
theorem forRanges_eq_nil_iff {this others : List PortRange} (hthis : Presorted this)
    (hs : others.Sorted startLe) (hne : ∀ r ∈ others, r.start ≤ r.«end») :
    forRanges this others = some [] ↔ ∀ p, Covers others p → Covers this p := by
  induction this generalizing others with
  | nil =>
    cases others with
    | nil => simp [forRanges]
    | cons o os =>
      refine ⟨fun h => by simp [forRanges] at h, fun h => absurd (h o.start ?_) (covers_nil _)⟩
      exact (covers_cons _ _ _).2 (Or.inl ⟨le_rfl, hne o (List.mem_cons_self _ _)⟩)
  | cons range this ih =>
    rw [forRanges_cons]
    cases hc : consumeCovered range others with
    | none =>
      obtain ⟨p, hp, hnp⟩ := consumeCovered_none (List.pairwise_cons.1 hthis.before).1 hne hc
      exact ⟨(fun h => nomatch h), fun h => absurd (h p hp) hnp⟩
    | some rest =>
      obtain ⟨cov, rfl, hcov, hrest⟩ := consumeCovered_some hs hc
      rw [Option.some_bind, ih hthis.tail (hs.sublist (List.sublist_append_right _ _))
        (fun r hr => hne r (List.mem_append_right _ hr))]
      refine ⟨fun h p hp => ?_, fun h p hp => ?_⟩
      · rcases (covers_append _ _ _).1 hp with ⟨c, hc, hcp⟩ | hp
        · have := hcov c hc
          exact (covers_cons _ _ _).2 (Or.inl ⟨by have := hcp.1; omega, by have := hcp.2; omega⟩)
        · exact (covers_cons _ _ _).2 (Or.inr (h p hp))
      · rcases (covers_cons _ _ _).1 (h p ((covers_append _ _ _).2 (Or.inr hp))) with hq | hq
        · obtain ⟨r, hr, hrp⟩ := hp
          have := hrest r hr
          exact absurd hq.2 (by have := hrp.1; omega)
        · exact hq

theorem contains_eq_true_iff_forRanges (a b : ExternalRanges) :
    a.contains b = true ↔ forRanges (sortAndMergeRanges a.ranges) (sortAndMergeRanges b.ranges) = some [] := by
  rw [ExternalRanges.contains]
  rcases forRanges (sortAndMergeRanges a.ranges) (sortAndMergeRanges b.ranges) with _ | _ | ⟨o, os⟩ <;> simp

theorem forRanges_sortAndMergeRanges_eq_nil_iff (this others : List PortRange) :
    forRanges (sortAndMergeRanges this) (sortAndMergeRanges others) = some [] ↔
      ∀ p, Covers others p → Covers this p := by
  have hs := presorted_sortAndMergeRanges others
  simpa only [covers_sortAndMergeRanges] using
    forRanges_eq_nil_iff (presorted_sortAndMergeRanges this) hs.sorted hs.nonempty

/-- **`contains` is port-set inclusion.** For all lists `a` and `b`, `a.contains b` holds exactly when every port of
`b` is a port of `a`, also on inputs whose merge loop wraps around. -/
theorem contains_iff_covers (a b : ExternalRanges) :
    a.contains b = true ↔ ∀ p, Covers b.ranges p → Covers a.ranges p :=
  (contains_eq_true_iff_forRanges a b).trans (forRanges_sortAndMergeRanges_eq_nil_iff a.ranges b.ranges)

end Einat.PortRanges
