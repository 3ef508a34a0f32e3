import ChartDialogue.Proofs.Grammar.LoadedNodes
import Mathlib.Data.List.Nodup
import Mathlib.Data.List.Perm.Subperm
import Mathlib.Tactic.Ring

/-! # Every walk ends

References may lead anywhere in a document, in circles too. But none is followed twice on one way,
and between two of them a way goes down, so it has fewer hops than there is room for. A walk goes
only such ways, and comes to its end after some turns.
-/

namespace ChartDialogue

namespace Site

variable {document : Json}

def followed (site : Site document) : List String := site.hops.filterMap Hop.reference?

theorem followed_of_way {parent child : Site document} {hop : Hop}
    (way : child.hops = parent.hops ++ [hop]) :
    child.followed = parent.followed ++ hop.reference?.toList := by
  rw [followed, way, List.filterMap_append, ← followed]
  cases hop <;> rfl

theorem followed_subset_fullPath (site : Site document) : site.followed ⊆ site.fullPath := by
  intro reference member
  rcases List.mem_filterMap.mp member with ⟨hop, inside, follows⟩
  cases hop with
  | reference text =>
    cases follows
    exact List.mem_map.mpr ⟨_, inside, rfl⟩
  | _ => cases follows

/-- A way that repeats no reference, follows only references of the document, and leaves room for
its height above what the references account for. -/
structure Bounded (site : Site document) : Prop where
  nodup : site.followed.Nodup
  stated : site.followed ⊆ document.referenceTexts
  room : site.hops.length + site.schema.height ≤
    site.followed.length * (document.height + 1) + document.height

theorem bounded_root (document : Json) : (root document).Bounded where
  nodup := List.nodup_nil
  stated := List.nil_subset _
  room := by simp [root, followed]

theorem Bounded.step {parent child : Site document} (bounded : parent.Bounded)
    (step : parent.Step child) : child.Bounded := by
  cases step with
  | down hop way inner lower =>
    have same : child.followed = parent.followed := by
      rw [followed_of_way way, inner, Option.toList_none, List.append_nil]
    have room := bounded.room
    constructor
    · rw [same]
      exact bounded.nodup
    · rw [same]
      exact bounded.stated
    · rw [same, way, List.length_append, List.length_singleton]
      omega
  | jump reference way stated fresh =>
    -- The target can be as high as the document. The reference is a new one, and makes room for it.
    have longer : child.followed = parent.followed ++ [reference] := followed_of_way way
    have room := bounded.room
    have height := child.inside.height_le
    constructor
    · rw [longer, ← List.concat_eq_append]
      apply List.Nodup.concat _ bounded.nodup
      exact fun member => fresh (parent.followed_subset_fullPath member)
    · rw [longer]
      intro other member
      rcases List.mem_append.mp member with member | member
      · exact bounded.stated member
      · rw [List.mem_singleton.mp member]
        exact parent.inside.referenceTexts_subset (mem_referenceTexts_of_reference? stated)
    · rw [longer, way, List.length_append, List.length_append, List.length_singleton,
        List.length_singleton, Nat.succ_mul]
      omega

theorem Visited.bounded {site : Site document} (visited : site.Visited) : site.Bounded := by
  induction visited with
  | root => exact bounded_root document
  | child before found member induction =>
    exact induction.step (step_of_mem_children found member)

theorem Bounded.length_fullPath_le {site : Site document} (bounded : site.Bounded) :
    site.fullPath.length ≤ (distinct document.referenceTexts).length +
      ((distinct document.referenceTexts).length + 1) * document.height := by
  have distinctly : site.followed ⊆ distinct document.referenceTexts := fun reference member =>
    mem_distinct.mpr (bounded.stated member)
  have few : site.followed.length ≤ (distinct document.referenceTexts).length :=
    (List.subperm_of_subset bounded.nodup distinctly).length_le
  calc site.fullPath.length
    _ = site.hops.length := List.length_map ..
    _ ≤ site.followed.length * (document.height + 1) + document.height :=
      Nat.le_of_add_right_le bounded.room
    _ ≤ (distinct document.referenceTexts).length * (document.height + 1) + document.height := by
      gcongr
    _ = _ := by ring

end Site

/-! ## Turns of a walk -/

structure WalkState (document : Json) where
  recorded : List SchemaNode
  stack : List (Site document)

namespace WalkState

variable {document : Json}

def start (document : Json) : WalkState document := ⟨[], [Site.root document]⟩

def turn (state : WalkState document) :
    Except GrammarFault (List SchemaNode) ⊕ WalkState document :=
  match state.stack with
  | [] => .inl (.ok state.recorded.reverse)
  | site :: rest =>
    match site.children with
    | .error fault => .inl (.error fault)
    | .ok next =>
      match site.ownNodes with
      | .error fault => .inl (.error fault)
      | .ok own => .inr ⟨own ++ state.recorded, next ++ rest⟩

def run : (turns : Nat) → WalkState document → Option (Except GrammarFault (List SchemaNode))
  | 0, _ => none
  | turns + 1, state =>
    match state.turn with
    | .inl outcome => some outcome
    | .inr after => run turns after

inductive Reached : WalkState document → Prop
  | start : Reached (start document)
  | turn {before after : WalkState document} (reached : Reached before)
      (turned : before.turn = .inr after) : Reached after

theorem exists_run (recorded : List SchemaNode) (stack : List (Site document)) :
    ∃ turns, run turns ⟨recorded, stack⟩ = some (Site.walk recorded stack) := by
  fun_induction Site.walk recorded stack with
  | case1 recorded => exact ⟨1, rfl⟩
  | case2 recorded site rest fault lost => exact ⟨1, by simp [run, turn, lost]⟩
  | case3 recorded site rest next found fault unreadable =>
    exact ⟨1, by simp [run, turn, found, unreadable]⟩
  | case4 recorded site rest next found own readable induction =>
    rcases induction with ⟨turns, ends⟩
    exact ⟨turns + 1, by simp [run, turn, found, readable, ends]⟩

theorem Reached.visited {state : WalkState document} (reached : Reached state) :
    ∀ site ∈ state.stack, site.Visited := by
  induction reached with
  | start =>
    intro site member
    rw [List.mem_singleton.mp member]
    exact .root
  | @turn before after _ turned induction =>
    intro child member
    rcases before with ⟨recorded, _ | ⟨site, rest⟩⟩
    · cases turned
    · unfold WalkState.turn at turned
      dsimp only at turned
      split at turned
      · cases turned
      · rename_i next found
        split at turned
        · cases turned
        · cases turned
          rcases List.mem_append.mp member with below | waiting
          · exact .child (induction site List.mem_cons_self) found below
          · exact induction child (List.mem_cons_of_mem site waiting)

/-- The walk through a document ends. On the way to a site that it visits no reference is followed
twice, and the way has at most one hop for each reference of the document and, before and after
each of them, as many more as the document is high. -/
theorem run_start (document : Json) :
    let references := (distinct document.referenceTexts).length
    (∃ turns, run turns (start document) = some (descendants document)) ∧
      ∀ (state : WalkState document) (site : Site document),
        Reached state → state.stack.head? = some site →
          site.followed.Nodup ∧
            site.fullPath.length ≤ references + (references + 1) * document.height := by
  intro references
  refine ⟨exists_run [] [Site.root document], ?_⟩
  intro state site reached first
  have bounded : site.Bounded := (reached.visited site (List.mem_of_head? first)).bounded
  exact ⟨bounded.nodup, bounded.length_fullPath_le⟩

/-- A document that refers to itself is walked once more, and not again. -/
example : (descendants (.ofMembers [("$ref", .string "#")])).toOption.map List.length = some 1 := by
  decide +kernel

end WalkState

end ChartDialogue
