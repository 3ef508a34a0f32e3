import ChartDialogue.Grammar.PathSearch
import ChartDialogue.Proofs.Grammar.PathLookup

/-! # The ranking of found paths

The listed paths that have a score stand in one strict order: higher scores first, then fewer
segments, then earlier discovery. A search shows the beginning of it, as far as its limit allows,
whatever the scores are.
-/

namespace ChartDialogue

/-! ## Stability -/

theorem pairwise_mergeSort_stable {α : Type} {before : α → α → Bool} {earlier : α → α → Prop}
    (trans : ∀ first second third, before first second = true → before second third = true →
      before first third = true)
    (total : ∀ first second, (before first second || before second first) = true) :
    {list : List α} → list.Pairwise earlier →
      (list.mergeSort before).Pairwise fun left right =>
        before left right = true ∧ (before right left = true → earlier left right)
  | [], _ => by simp
  | value :: rest, inOrder => by
    rcases List.pairwise_cons.mp inOrder with ⟨valueEarlier, restInOrder⟩
    rcases List.mergeSort_cons trans total value rest with ⟨front, back, sorted, without, beaten⟩
    have restSorted := pairwise_mergeSort_stable trans total restInOrder
    have allSorted := List.pairwise_mergeSort trans total (value :: rest)
    rw [without, List.pairwise_append] at restSorted
    rw [sorted, List.pairwise_append, List.pairwise_cons] at allSorted
    rw [sorted, List.pairwise_append, List.pairwise_cons]
    have inRest : ∀ other ∈ back, other ∈ rest := by
      intro other member
      have sortedToo : other ∈ rest.mergeSort before := by
        rw [without]
        exact List.mem_append_right front member
      exact List.mem_mergeSort.mp sortedToo
    refine ⟨restSorted.1, ⟨fun other member => ⟨?_, fun _ => ?_⟩, restSorted.2.1⟩, ?_⟩
    · exact allSorted.2.1.1 other member
    · exact valueEarlier other (inRest other member)
    · intro left leftMember right rightMember
      rcases List.mem_cons.mp rightMember with rfl | later
      · refine ⟨allSorted.2.2 left leftMember right List.mem_cons_self, fun tied => ?_⟩
        -- What stands before the value is beaten by it nowhere, so there is no tie.
        have unbeaten := beaten left leftMember
        rw [tied] at unbeaten
        cases unbeaten
      · exact restSorted.2.2 left leftMember right later

/-! ## The order of matches -/

namespace PathMatch

/-- Whether a match comes before another: it has a higher score, or of the same score fewer
segments, or as many of them and its path was discovered earlier. -/
def Precedes (discovered : List SimplePath) (left right : PathMatch) : Prop :=
  right.score < left.score ∨ left.score = right.score ∧
    (left.path.length < right.path.length ∨ left.path.length = right.path.length ∧
      discovered.idxOf left.path < discovered.idxOf right.path)

variable {discovered : List SimplePath}

theorem Precedes.asymm {left right : PathMatch} (before : left.Precedes discovered right) :
    ¬ right.Precedes discovered left := by
  unfold Precedes at before ⊢
  omega

theorem ranksBefore_iff {left right : PathMatch} :
    left.ranksBefore right = true ↔ right.score < left.score ∨
      left.score = right.score ∧ left.path.length ≤ right.path.length := by
  simp [ranksBefore]

theorem ranksBefore_trans (first second third : PathMatch)
    (before : first.ranksBefore second = true) (after : second.ranksBefore third = true) :
    first.ranksBefore third = true := by
  rw [ranksBefore_iff] at before after ⊢
  omega

theorem ranksBefore_total (left right : PathMatch) :
    (left.ranksBefore right || right.ranksBefore left) = true := by
  rw [Bool.or_eq_true, ranksBefore_iff, ranksBefore_iff]
  omega

theorem precedes_of_ranksBefore {left right : PathMatch} (ranks : left.ranksBefore right = true)
    (tied : right.ranksBefore left = true →
      discovered.idxOf left.path < discovered.idxOf right.path) :
    left.Precedes discovered right := by
  rw [ranksBefore_iff] at ranks tied
  unfold Precedes
  omega

/-! ## Matches in the order of discovery -/

variable {scoreOf : SimplePath → Option Int}

def among (discovered : List SimplePath) (scoreOf : SimplePath → Option Int) : List PathMatch :=
  discovered.filterMap fun path => (scoreOf path).map fun score => ⟨path, score⟩

theorem mem_among {found : PathMatch} :
    found ∈ among discovered scoreOf ↔
      found.path ∈ discovered ∧ scoreOf found.path = some found.score := by
  rw [among, List.mem_filterMap]
  constructor
  · rintro ⟨path, member, scored⟩
    rcases Option.map_eq_some_iff.mp scored with ⟨score, scores, rfl⟩
    exact ⟨member, scores⟩
  · rintro ⟨member, scores⟩
    exact ⟨found.path, member, by rw [scores]; rfl⟩

theorem map_path_among :
    (among discovered scoreOf).map (·.path) =
      discovered.filter fun path => (scoreOf path).isSome := by
  rw [among, List.map_filterMap, ← List.filterMap_eq_filter]
  congr 1
  funext path
  cases scores : scoreOf path <;> simp [scores, Option.guard]

theorem length_among :
    (among discovered scoreOf).length = discovered.countP fun path => (scoreOf path).isSome := by
  rw [← List.length_map (·.path), map_path_among, List.countP_eq_length_filter]

theorem pairwise_idxOf (nodup : discovered.Nodup) :
    discovered.Pairwise fun left right => discovered.idxOf left < discovered.idxOf right := by
  rw [List.pairwise_iff_getElem]
  intro left right _ _ before
  rw [nodup.idxOf_getElem, nodup.idxOf_getElem]
  exact before

theorem pairwise_among (nodup : discovered.Nodup) (scoreOf : SimplePath → Option Int) :
    (among discovered scoreOf).Pairwise fun left right =>
      discovered.idxOf left.path < discovered.idxOf right.path := by
  have inOrder := (pairwise_idxOf nodup).filter fun path => (scoreOf path).isSome
  rw [← map_path_among, List.pairwise_map] at inOrder
  exact inOrder

def ranked (discovered : List SimplePath) (scoreOf : SimplePath → Option Int) : List PathMatch :=
  (among discovered scoreOf).mergeSort ranksBefore

theorem pairwise_ranked (nodup : discovered.Nodup) (scoreOf : SimplePath → Option Int) :
    (ranked discovered scoreOf).Pairwise (Precedes discovered) := by
  have stable := pairwise_mergeSort_stable ranksBefore_trans ranksBefore_total
    (pairwise_among nodup scoreOf)
  exact stable.imp fun sorted => precedes_of_ranksBefore sorted.1 sorted.2

end PathMatch

/-! ## Rankings -/

open PathMatch

structure IsRanking (discovered : List SimplePath) (scoreOf : SimplePath → Option Int)
    (search : Nat → List PathMatch) : Prop where
  initial : ∀ fewer more, fewer ≤ more → search fewer = (search more).take fewer
  length : ∀ limit, (search limit).length =
    min limit (discovered.countP fun path => (scoreOf path).isSome)
  listed : ∀ limit, ∀ found ∈ search limit,
    found.path ∈ discovered ∧ scoreOf found.path = some found.score
  distinct : ∀ limit, ((search limit).map (·.path)).Nodup
  ordered : ∀ limit, (search limit).Pairwise (Precedes discovered)
  /-- What is left out does not come before anything that is shown. -/
  best : ∀ limit, ∀ path ∈ discovered, ∀ score, scoreOf path = some score →
    ⟨path, score⟩ ∉ search limit → ∀ found ∈ search limit, ¬ Precedes discovered ⟨path, score⟩ found

theorem isRanking_take_ranked {discovered : List SimplePath} {scoreOf : SimplePath → Option Int}
    (nodup : discovered.Nodup) :
    IsRanking discovered scoreOf fun limit => (ranked discovered scoreOf).take limit where
  initial fewer more le := by
    rw [List.take_take, Nat.min_eq_left le]
  length limit := by
    rw [List.length_take, ranked, List.length_mergeSort, length_among]
  listed limit found member :=
    mem_among.mp (List.mem_mergeSort.mp (List.mem_of_mem_take member))
  distinct limit := by
    have all : ((ranked discovered scoreOf).map (·.path)).Nodup := by
      have order : List.Perm ((ranked discovered scoreOf).map (·.path)) _ :=
        (List.mergeSort_perm _ _).map _
      rw [order.nodup_iff, map_path_among]
      exact nodup.filter _
    rw [List.map_take]
    exact all.sublist (List.take_sublist _ _)
  ordered limit := (pairwise_ranked nodup scoreOf).sublist (List.take_sublist _ _)
  best limit path member score scores leftOut found shown := by
    have isMatch : (⟨path, score⟩ : PathMatch) ∈ ranked discovered scoreOf :=
      List.mem_mergeSort.mpr (mem_among.mpr ⟨member, scores⟩)
    have order := pairwise_ranked nodup scoreOf
    rw [← List.take_append_drop limit (ranked discovered scoreOf)] at isMatch order
    have behind := (List.mem_append.mp isMatch).resolve_left leftOut
    exact ((List.pairwise_append.mp order).2.2 found shown _ behind).asymm

/-! ## Searches -/

namespace Fuzzy

theorem length_scoresFrom (pattern : List Char) : (texts : List (List Char)) →
    (cells : Array Cell) → (scoresFrom pattern cells texts).length = texts.length
  | [], _ => rfl
  | text :: rest, cells => by
    rw [scoresFrom, List.length_cons, length_scoresFrom pattern rest, List.length_cons]

theorem length_scores (pattern : String) (texts : List String) :
    (scores pattern texts).length = texts.length := by
  rw [scores, length_scoresFrom, List.length_map]

end Fuzzy

namespace PathIndex

variable {index : PathIndex} {query : String}

theorem best_eq_take_ranked (discovered : List SimplePath) (scoreOf : SimplePath → Option Int)
    (limit : Nat) :
    best (discovered.map fun path => (path, scoreOf path)) limit =
      (ranked discovered scoreOf).take limit := by
  rw [best, List.filterMap_map]
  rfl

/-- The fuzzy score of a listed path, which the paths before it have a part in. -/
def fuzzyScore? (index : PathIndex) (query : String) (path : SimplePath) : Option Int :=
  ((Fuzzy.scores query (index.paths.map SimplePath.dotted))[index.paths.idxOf path]?).join

theorem zip_scores (nodup : index.paths.Nodup) :
    index.paths.zip (Fuzzy.scores query (index.paths.map SimplePath.dotted)) =
      index.paths.map fun path => (path, index.fuzzyScore? query path) := by
  have lengths := Fuzzy.length_scores query (index.paths.map SimplePath.dotted)
  rw [List.length_map] at lengths
  apply List.ext_getElem
  · simp [lengths]
  · intro position _ inside
    have scored : position < (Fuzzy.scores query (index.paths.map SimplePath.dotted)).length := by
      rw [lengths]
      simpa using inside
    simp [fuzzyScore?, nodup.idxOf_getElem, scored]

theorem nodup_paths_build (nodes : List SchemaNode) (excluded : String → Bool) :
    (build nodes excluded).paths.Nodup := by
  rw [paths_build]
  exact nodup_distinct _

/-- Searching shows the best of the listed paths that have a score, for any matcher of texts and
for the fuzzy scores. -/
theorem isRanking_search (nodes : List SchemaNode) (excluded : String → Bool) (query : String) :
    let index := build nodes excluded
    (∀ matcher : String → String → Option Int,
      IsRanking index.paths (fun path => matcher path.dotted query)
        (index.searchBy matcher query)) ∧
      IsRanking index.paths (index.fuzzyScore? query) (index.search query) := by
  intro index
  have nodup : index.paths.Nodup := nodup_paths_build nodes excluded
  constructor
  · intro matcher
    have searched : index.searchBy matcher query =
        fun limit => (ranked index.paths fun path => matcher path.dotted query).take limit :=
      funext fun limit => best_eq_take_ranked index.paths _ limit
    rw [searched]
    exact isRanking_take_ranked nodup
  · have searched : index.search query =
        fun limit => (ranked index.paths (index.fuzzyScore? query)).take limit := by
      funext limit
      rw [search, zip_scores nodup]
      exact best_eq_take_ranked index.paths _ limit
    rw [searched]
    exact isRanking_take_ranked nodup

end PathIndex

end ChartDialogue
