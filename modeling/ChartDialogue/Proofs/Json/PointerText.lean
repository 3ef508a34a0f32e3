import ChartDialogue.Json.Pointer
import ChartDialogue.Proofs.Json.DigitText

/-! # Longer pointers

A pointer that is made longer by some tokens leads on from where it led before. The token made of a
key selects the member with this key, and the digits of a number the element at this index.
-/

namespace ChartDialogue

theorem Members.find?_of_mem {key : String} {value : Json} : {floor : Option String} →
    {members : Members floor} → (key, value) ∈ members.toList → members.find? key = some value
  | _, .cons other _ old rest, member => by
    rw [find?]
    rcases List.mem_cons.mp member with equal | inside
    · cases equal
      rw [if_pos rfl]
    · -- All keys behind the first one lie past it, so the key is not the first one.
      have past : other < key := above_of_mem inside other rfl
      have different : key ≠ other := fun equal => String.lt_irrefl other (equal ▸ past)
      rw [if_neg different]
      exact find?_of_mem inside

namespace Pointer

/-! ## Tokens of keys -/

theorem unescape_cons {character : Char} (notTilde : character ≠ '~') (rest : List Char) :
    unescape (character :: rest) = character :: unescape rest := by
  rw [unescape.eq_def]
  split <;> simp_all

theorem unescape_escape (key : List Char) : unescape (escape key) = key := by
  induction key with
  | nil => rfl
  | cons character rest induction =>
    rw [escape] at induction ⊢
    rw [List.flatMap_cons]
    by_cases tilde : character = '~'
    · subst tilde
      exact congrArg _ induction
    · by_cases slash : character = '/'
      · subst slash
        exact congrArg _ induction
      · rw [if_neg tilde, if_neg slash, List.singleton_append, unescape_cons tilde, induction]

theorem slash_notMem_escape (key : List Char) : '/' ∉ escape key := by
  intro member
  rcases List.mem_flatMap.mp member with ⟨character, _, inside⟩
  split at inside
  · simp at inside
  · split at inside
    · simp at inside
    · rename_i notSlash
      exact notSlash (List.mem_singleton.mp inside).symm

theorem step?_escape {value inner : Json} {key : String} (found : value.member? key = some inner) :
    step? value (escape key.toList) = some inner := by
  cases value with
  | object members =>
    rw [step?, unescape_escape, String.ofList_toList]
    exact found
  | _ => cases found

/-! ## Tokens of indices -/

theorem value?_of_isDigit {digit : Char} (isDigit : digit.isDigit = true) :
    Digits.value? digit = some (digit.toNat - '0'.toNat) :=
  (Option.filter_eq_some_iff.mp (digitValue?_of_isDigit isDigit)).1

theorem foldl_eq_ofDigitChars : {digits : List Char} → (number : Nat) →
    (∀ digit ∈ digits, digit.isDigit = true) →
      digits.foldl (fun number digit => number * 10 + (Digits.value? digit).getD 0) number =
        Nat.ofDigitChars 10 digits number
  | [], _, _ => rfl
  | digit :: digits, number, isDigit => by
    have value := value?_of_isDigit (isDigit digit List.mem_cons_self)
    rw [List.foldl_cons, value, Nat.ofDigitChars_cons, Nat.mul_comm 10]
    apply foldl_eq_ofDigitChars
    exact fun other member => isDigit other (List.mem_cons_of_mem digit member)

theorem natural?_toDigits (number : Nat) :
    Digits.natural? 10 (Nat.toDigits 10 number) = some number := by
  have isDigit := isDigit_toDigits number
  have decimal : ∀ digit ∈ Nat.toDigits 10 number, Digits.isDigit 10 digit = true := by
    intro digit member
    have read := Option.filter_eq_some_iff.mp (digitValue?_of_isDigit (isDigit digit member))
    rw [Digits.isDigit, read.1]
    exact read.2
  have nonempty : (Nat.toDigits 10 number).isEmpty = false :=
    List.isEmpty_eq_false_iff.mpr Nat.toDigits_ne_nil
  have total : Digits.total 10 (Nat.toDigits 10 number) = number := by
    rw [Digits.total, foldl_eq_ofDigitChars 0 isDigit]
    exact Nat.ofDigitChars_toDigits (by decide) (by decide)
  rw [Digits.natural?, nonempty, List.all_eq_true.mpr decimal, total]
  rfl

theorem index?_toDigits (index : Nat) : index? (Nat.toDigits 10 index) = some index := by
  have numeral := isNumeral_toDigits index
  rw [← natural?_toDigits index, index?.eq_def]
  split
  · rename_i second rest split
    cases numeral.2.2 (second :: rest) split
  · rfl

theorem slash_notMem_toDigits (number : Nat) : '/' ∉ Nat.toDigits 10 number := by
  intro member
  have isDigit := isDigit_toDigits number '/' member
  cases isDigit

theorem step?_toDigits {value inner : Json} {index : Nat}
    (found : (value.asArray?.getD [])[index]? = some inner) :
    step? value (Nat.toDigits 10 index) = some inner := by
  cases value with
  | array elements =>
    rw [step?, index?_toDigits]
    exact found
  | _ => cases found

/-! ## Tokens behind a pointer -/

def spell (tokens : List (List Char)) : List Char := tokens.flatMap fun token => '/' :: token

theorem splitSlashes_of_plain {token : List Char} (plain : '/' ∉ token) (pending : List Char)
    (tokens : List (List Char)) :
    splitSlashes pending (token ++ spell tokens) =
      splitSlashes (token.reverse ++ pending) (spell tokens) := by
  induction token generalizing pending with
  | nil => rfl
  | cons character rest induction =>
    have notSlash : character ≠ '/' := fun equal => plain (equal ▸ List.mem_cons_self)
    have restPlain : '/' ∉ rest := fun member => plain (List.mem_cons_of_mem character member)
    rw [List.cons_append, splitSlashes, induction restPlain]
    · simp
    · exact notSlash

theorem splitSlashes_spell {tokens : List (List Char)} (plain : ∀ token ∈ tokens, '/' ∉ token)
    (pending : List Char) : splitSlashes pending (spell tokens) = pending.reverse :: tokens := by
  induction tokens generalizing pending with
  | nil => rfl
  | cons token rest induction =>
    have tokenPlain := plain token List.mem_cons_self
    have restPlain : ∀ other ∈ rest, '/' ∉ other := fun other member =>
      plain other (List.mem_cons_of_mem token member)
    have spelled : spell (token :: rest) = '/' :: (token ++ spell rest) := rfl
    rw [spelled, splitSlashes, splitSlashes_of_plain tokenPlain, induction restPlain]
    simp

theorem splitSlashes_append {tokens : List (List Char)} (plain : ∀ token ∈ tokens, '/' ∉ token)
    (text pending : List Char) :
    splitSlashes pending (text ++ spell tokens) = splitSlashes pending text ++ tokens := by
  induction text generalizing pending with
  | nil => exact splitSlashes_spell plain pending
  | cons character text induction =>
    rw [List.cons_append]
    by_cases slash : character = '/'
    · subst slash
      rw [splitSlashes, splitSlashes, induction, List.cons_append]
    · rw [splitSlashes, splitSlashes, induction] <;> exact slash

theorem tokens?_append {pointer text : String} {known tokens : List (List Char)}
    (read : tokens? pointer = some known) (spelled : text.toList = spell tokens)
    (plain : ∀ token ∈ tokens, '/' ∉ token) :
    tokens? (pointer ++ text) = some (known ++ tokens) := by
  unfold tokens? at read ⊢
  rw [String.toList_append, spelled]
  cases characters : pointer.toList with
  | nil =>
    rw [characters] at read
    cases read
    cases tokens with
    | nil => rfl
    | cons token rest =>
      have split := splitSlashes_append plain [] []
      exact congrArg some (List.cons.inj split).2
  | cons first rest =>
    rw [characters] at read
    by_cases slash : first = '/'
    · subst slash
      cases read
      exact congrArg some (splitSlashes_append plain rest [])
    · simp [slash] at read

theorem resolveTokens_append (value : Json) (front back : List (List Char)) :
    resolveTokens value (front ++ back) =
      (resolveTokens value front).bind fun inner => resolveTokens inner back := by
  induction front generalizing value with
  | nil => rfl
  | cons token rest induction =>
    rw [List.cons_append, resolveTokens, resolveTokens, Option.bind_assoc]
    exact congrArg _ (funext induction)

theorem resolve?_append {document value : Json} {pointer text : String}
    {tokens : List (List Char)} (found : resolve? document pointer = some value)
    (spelled : text.toList = spell tokens) (plain : ∀ token ∈ tokens, '/' ∉ token) :
    resolve? document (pointer ++ text) = resolveTokens value tokens := by
  rcases Option.bind_eq_some_iff.mp found with ⟨known, read, led⟩
  rw [resolve?, tokens?_append read spelled plain, Option.bind_some, resolveTokens_append, led]
  rfl

end Pointer

end ChartDialogue
