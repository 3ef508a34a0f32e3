import ChartDialogue.Proofs.Session.Turns
import Mathlib.Data.List.Perm.Subperm

/-! # What is selected for an answer

A question is answered by some of what the parser found, and `example` by some of the accepted
examples: the first ones, in the order they have or in a random one. The statistics of a question
are those of all that was found. Nothing is made up, and nothing is given out more often than it is
there.
-/

namespace ChartDialogue

/-- What is chosen are the first of some items in some order, at most a given number of them;
without a number all of them. -/
structure Selects {α : Type} (amount : Option Nat) (arranged items chosen : List α) : Prop where
  perm : arranged.Perm items
  chosen : chosen = arranged.take (min (amount.getD items.length) items.length)

theorem Selects.subperm {α : Type} {amount : Option Nat} {arranged items chosen : List α}
    (selects : Selects amount arranged items chosen) : chosen.Subperm items := by
  rw [selects.chosen]
  exact (List.take_sublist _ arranged).subperm.trans selects.perm.subperm

theorem Selects.map {α β : Type} (write : α → β) {amount : Option Nat}
    {arranged items chosen : List α} (selects : Selects amount arranged items chosen) :
    Selects amount (arranged.map write) (items.map write) (chosen.map write) := by
  refine ⟨selects.perm.map write, ?_⟩
  rw [selects.chosen, List.map_take, List.length_map]

theorem selects_of_perm {α : Type} (amount : Option Nat) {arranged items : List α}
    (perm : arranged.Perm items) :
    Selects amount arranged items (match amount with
      | none => arranged
      | some limit => arranged.take limit) := by
  refine ⟨perm, ?_⟩
  cases amount with
  | none => simp [← perm.length_eq]
  | some limit =>
    rw [← perm.length_eq]
    exact List.take_eq_take_min

theorem ParseStatus.ofDerivations_eq_nothing_iff {derivations : List Derivation} :
    ofDerivations derivations = .nothing ↔ derivations.length = 0 := by
  cases derivations <;> simp [ofDerivations]

namespace Router

variable {σ : Type} [WordSource σ]

theorem arrange_perm (shuffled : Bool) (derivations : List Derivation) (source : σ) :
    ((arrange shuffled derivations source).1).Perm derivations := by
  cases shuffled with
  | false => exact .refl _
  | true => exact Draw.shuffle_perm derivations source

variable {router : Router} {sessions : SessionTable} {id : String} {payload : Json}

theorem query_answered {source : σ} {response : Response}
    (answered : (router.query sessions id payload source).1.answer = .ok response) :
    ∃ request asked parsed, QueryPayload.decode payload = .ok request ∧
      (router.query sessions id payload source).1.parsed = [⟨asked, false⟩] ∧
      router.parser.parse asked false = .ok parsed ∧
      response = parsedResponse parsed
        (Example.top request.amount (arrange request.shuffled parsed.derivations source).1) := by
  unfold query at answered ⊢
  cases read : QueryPayload.decode payload with
  | error fault => rw [read] at answered; cases answered
  | ok request =>
    cases carried : router.contextOf "q" payload with
    | error fault => rw [read, carried] at answered; cases answered
    | ok context =>
      cases parses : router.parser.parse
          (Example.ofUtterance (sessions.session id).id request.utterance context) false with
      | error fault => simp [read, carried, parses] at answered
      | ok parsed =>
        simp only [read, carried, parses, Except.ok.injEq] at answered
        exact ⟨request, _, parsed, rfl, by simp only [parses], parses, answered.symm⟩

theorem examples_answered (router : Router) (sessions : SessionTable) {request : ExamplePayload}
    (source : σ) (read : ExamplePayload.decode payload = .ok request) :
    let stored := router.resources.store.examples
    ∃ arranged chosen, Selects request.amount arranged stored chosen ∧
      (router.examples sessions payload source).1.answer = .ok {
        Response.ofCommand "example" with
        lines := chosen.map fun entry => (Json.object entry).compact } := by
  intro stored
  refine ⟨_, _, selects_of_perm request.amount (Draw.shuffle_perm stored source), ?_⟩
  unfold examples
  rewrite [read]
  rfl

/-- An answered question shows the first derivations that the parser found, in their own order or,
if it asks so, in another one; its statistics are those of all that was found. Accepted examples are
given out as the texts of the first stored ones in some order. Neither shows anything that is not
there, or more often than it is there. -/
theorem selected_of_handle (router : Router) (sessions : SessionTable) (id : String)
    (command payload : Json) (source : σ) :
    let turn := (router.handle sessions id command source).1
    (∀ response, command? command = some ("q", payload) → turn.answer = .ok response →
      ∃ request asked parsed shown arranged, QueryPayload.decode payload = .ok request ∧
        turn.parsed = [⟨asked, false⟩] ∧ router.parser.parse asked false = .ok parsed ∧
        response.answer = some shown ∧
        Selects request.amount arranged parsed.derivations shown.derivations ∧
        (request.shuffled = false → arranged = parsed.derivations) ∧
        shown.derivations.Subperm parsed.derivations ∧
        response.stats.size = some parsed.derivations.length ∧
        ∃ status, response.stats.status = some status ∧
          (status = .nothing ↔ parsed.derivations.length = 0)) ∧
    (∀ request, command? command = some ("example", payload) →
      ExamplePayload.decode payload = .ok request →
        ∃ response arranged chosen, turn.answer = .ok response ∧
          Selects request.amount arranged router.resources.store.examples chosen ∧
          response.lines = chosen.map (fun entry => (Json.object entry).compact) ∧
          response.lines.Subperm
            (router.resources.store.examples.map fun entry => (Json.object entry).compact)) := by
  intro turn
  constructor
  · intro response named answered
    have turned : turn = (router.query sessions id payload source).1 := by
      simp only [turn, handle, named]
    rw [turned] at answered ⊢
    rcases query_answered answered with ⟨request, asked, parsed, read, calls, parses, rfl⟩
    have selects := selects_of_perm request.amount
      (arrange_perm request.shuffled parsed.derivations source)
    refine ⟨request, asked, parsed, _, _, read, calls, parses, rfl, selects, ?_, selects.subperm,
      rfl, _, rfl, ParseStatus.ofDerivations_eq_nothing_iff⟩
    intro unshuffled
    rw [unshuffled]
    rfl
  · intro request named read
    have turned : turn = (router.examples sessions payload source).1 := by
      simp only [turn, handle, named]
    rcases examples_answered router sessions source read with
        ⟨arranged, chosen, selects, answered⟩
    exact ⟨_, arranged, chosen, turned ▸ answered, selects, rfl, (selects.map _).subperm⟩

def wellSupplied : Router where
  resources := Resources.build bare.resources.grammar StringSet.empty {
    examples := [.ofList [("q", .string "first")], .ofList [("q", .string "second")]] }
  parser := { parse := fun asked _ => .ok { asked with
    derivations := ["(a)", "(b)", "(c)"].map fun formula => .unscored formula .null } }

def twoAtRandom : Json :=
  .array [.string "q", .ofMembers [
    ("utterance", .string "bigger"), ("context", Json.emptyObject), ("schema", .null),
    ("random", .bool true), ("amount", .ofNat 2)]]

theorem selected_two_of_three :
    let turn (command : Json) :=
      (wellSupplied.handle StringMap.empty "s1" command (⟨0⟩ : MixedCounter)).1
    (∃ response shown, (turn twoAtRandom).answer = .ok response ∧ response.answer = some shown ∧
      shown.derivations.length = 2 ∧
      shown.derivations.Subperm
        (["(a)", "(b)", "(c)"].map fun formula => .unscored formula .null) ∧
      response.stats.size = some 3) ∧
    ∃ response, (turn (.array [.string "example", .array [.ofNat 1]])).answer = .ok response ∧
      response.lines.length = 1 ∧
      response.lines.Subperm ["\x7b\"q\":\"first\"\x7d", "\x7b\"q\":\"second\"\x7d"] := by
  intro turn
  have question := (selected_of_handle wellSupplied StringMap.empty "s1" twoAtRandom _
    (⟨0⟩ : MixedCounter)).1 _ rfl rfl
  have givenOut := (selected_of_handle wellSupplied StringMap.empty "s1"
    (.array [.string "example", .array [.ofNat 1]]) _ (⟨0⟩ : MixedCounter)).2 ⟨some 1⟩ rfl rfl
  rcases question with
      ⟨request, asked, parsed, shown, arranged, read, _, parses, answer, selects, _, subperm, size,
        _⟩
  rcases givenOut with ⟨response, others, chosen, answered, selectsExample, lines, within⟩
  cases read
  cases parses
  refine ⟨⟨_, shown, rfl, answer, ?_, subperm, size⟩, response, answered, ?_, within⟩
  · rw [selects.chosen, List.length_take, selects.perm.length_eq]
    rfl
  · rw [lines, List.length_map, selectsExample.chosen, List.length_take,
      selectsExample.perm.length_eq]
    rfl

end Router

end ChartDialogue
