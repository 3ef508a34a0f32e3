import ChartDialogue.Json.Basic

/-! # JSON pointers

A pointer is empty, or a slash and a token for each step down. Inside a token a tilde is written
`~0` and a slash `~1`. A token selects a member by key or an element by its decimal index, which
has no sign and no leading zero.
-/

namespace ChartDialogue.Pointer

/-! ## Tokens -/

def escape (key : List Char) : List Char :=
  key.flatMap fun character =>
    if character = '~' then ['~', '0']
    else if character = '/' then ['~', '1']
    else [character]

/-- The key a token stands for; a tilde before any other character stands for itself. -/
def unescape : List Char → List Char
  | '~' :: '1' :: rest => '/' :: unescape rest
  | '~' :: '0' :: rest => '~' :: unescape rest
  | character :: rest => character :: unescape rest
  | [] => []

/-- Pieces between slashes; `pending` holds the characters of the unfinished piece backwards. -/
def splitSlashes (pending : List Char) : List Char → List (List Char)
  | [] => [pending.reverse]
  | '/' :: rest => pending.reverse :: splitSlashes [] rest
  | character :: rest => splitSlashes (character :: pending) rest

def tokens? (pointer : String) : Option (List (List Char)) :=
  match pointer.toList with
  | [] => some []
  | '/' :: rest => some (splitSlashes [] rest)
  | _ => none

/-- An array index: decimal digits without a leading zero. -/
def index? (token : List Char) : Option Nat :=
  match token with
  | '0' :: _ :: _ => none
  | digits => Digits.natural? 10 digits

/-! ## Resolution -/

def step? (value : Json) (token : List Char) : Option Json :=
  match value with
  | .object members => members.find? (String.ofList (unescape token))
  | .array elements => (index? token).bind fun index => elements[index]?
  | _ => none

def resolveTokens : Json → List (List Char) → Option Json
  | value, [] => some value
  | value, token :: rest => (step? value token).bind fun inner => resolveTokens inner rest

def resolve? (document : Json) (pointer : String) : Option Json :=
  (tokens? pointer).bind (resolveTokens document)

theorem part_of_step? {value inner : Json} {token : List Char}
    (found : step? value token = some inner) : inner.Part value := by
  cases value with
  | object members => exact .member (Members.mem_toList_of_find? found) .self
  | array elements =>
    simp only [step?, Option.bind_eq_some_iff] at found
    obtain ⟨index, _, found⟩ := found
    exact .element (List.mem_of_getElem? found) .self
  | _ => simp [step?] at found

theorem part_of_resolveTokens {target : Json} : {tokens : List (List Char)} → {value : Json} →
    resolveTokens value tokens = some target → target.Part value
  | [], _, found => by cases found; exact .self
  | _ :: _, _, found => by
    simp only [resolveTokens, Option.bind_eq_some_iff] at found
    obtain ⟨_, first, rest⟩ := found
    exact (part_of_resolveTokens rest).trans (part_of_step? first)

theorem part_of_resolve? {document target : Json} {pointer : String}
    (found : resolve? document pointer = some target) : target.Part document := by
  simp only [resolve?, Option.bind_eq_some_iff] at found
  obtain ⟨_, _, found⟩ := found
  exact part_of_resolveTokens found

example : index? "10".toList = some 10 ∧ index? "01".toList = none ∧ index? "+1".toList = none := by
  decide +kernel
example : unescape "a~1b~01".toList = "a/b~1".toList := by decide +kernel

end ChartDialogue.Pointer
