import ChartDialogue.Settings.Convert
import Mathlib.Data.List.Basic
import Mathlib.Tactic.SplitIfs

/-! # What layers give

A layer whose keys are plain names is laid over what is below it key by key: what stands under a key
is what the layer says, laid over what stood there, and everything else stays.
-/

namespace ChartDialogue.Given

/-! ## Entries -/

theorem lookup_cons_if {α : Type} (key other : String) (value : α) (entries : List (String × α)) :
    ((key, value) :: entries).lookup other =
      if other = key then some value else entries.lookup other := by
  rw [List.lookup_cons]
  by_cases same : other = key
  · rw [if_pos same, beq_iff_eq.mpr same]
  · rw [if_neg same, beq_eq_false_iff_ne.mpr same]

theorem lookup_putEntry (key other : String) (value : Given) (entries : List (String × Given)) :
    (putEntry key value entries).lookup other =
      if other = key then some value else entries.lookup other := by
  induction entries with
  | nil => rw [putEntry, lookup_cons_if]
  | cons entry entries induction =>
    obtain ⟨stored, old⟩ := entry
    rw [putEntry]
    by_cases here : key = stored
    · rw [if_pos here, lookup_cons_if, lookup_cons_if, ← here]
      split_ifs <;> rfl
    · rw [if_neg here, lookup_cons_if, lookup_cons_if, induction]
      split_ifs with first second
      · exact absurd (second.symm.trans first) here
      · rfl
      · rfl
      · rfl

variable {layer : List (String × Given)}

theorem lookup_layEntriesOver (below : List (String × Given))
    (lower : ∀ entry ∈ layer, Text.lower entry.1 = entry.1)
    (different : (layer.map Prod.fst).Nodup) (key : String) :
    (layEntriesOver below layer).lookup key =
      ((layer.lookup key).map (layOver (below.lookup key))).or (below.lookup key) := by
  induction layer generalizing below with
  | nil => rfl
  | cons entry layer induction =>
    obtain ⟨first, value⟩ := entry
    obtain ⟨new, different⟩ := List.nodup_cons.mp different
    rw [layEntriesOver, lower _ List.mem_cons_self,
      induction _ (fun other member => lower other (List.mem_cons_of_mem _ member)) different,
      lookup_putEntry, lookup_cons_if]
    split_ifs with same
    · have absent : layer.lookup key = none := by
        rw [List.lookup_eq_none_iff]
        intro other member
        have isOther : other.1 ≠ key := by
          rintro rfl
          exact new (same ▸ List.mem_map_of_mem member)
        exact bne_iff_ne.mpr (Ne.symm isOther)
      rw [absent, same]
      rfl
    · rfl

/-! ## Sections -/

def under? (given : Option Given) (key : String) : Option Given :=
  (given.getD empty).entries.lookup key

theorem under?_layOver {given : Option Given} (source : Option String)
    (lower : ∀ entry ∈ layer, Text.lower entry.1 = entry.1)
    (different : (layer.map Prod.fst).Nodup) (key : String) :
    under? (some (layOver given (.section source layer))) key =
      ((layer.lookup key).map (layOver (under? given key))).or (under? given key) := by
  cases layer with
  | nil =>
    rw [layOver]
    rfl
  | cons entry layer =>
    rw [layOver]
    exact lookup_layEntriesOver _ lower different key

def isSection : Given → Bool
  | .section .. => true
  | _ => false

def fieldsUnder (place : String) (given : Given) : Fields :=
  ⟨fun name _ => (under? (some given) name).map fun value => (within place name, value)⟩

theorem fields_of_isSection {given : Given} (isSection : given.isSection)
    (place record : String) : given.fields place record = .ok (given.fieldsUnder place) := by
  cases given with
  | «section» source entries => rfl
  | _ => cases isSection

theorem read_fieldsUnder {α : Type} (place : String) (given : Given) (name : String)
    (position : Nat) (convert : String → Given → Except ConversionFault α) :
    (given.fieldsUnder place).read name position convert =
      match under? (some given) name with
      | none => .ok none
      | some value => some <$> convert (within place name) value := by
  rw [fieldsUnder, Fields.read]
  dsimp only
  cases under? (some given) name <;> rfl

theorem isSection_layOver (given : Option Given) (source : Option String)
    (nonempty : layer ≠ []) : (layOver given (.section source layer)).isSection := by
  cases layer with
  | nil => exact absurd rfl nonempty
  | cons entry layer =>
    rw [layOver]
    rfl

/-! ## Layers -/

/-- Whether a key is one step of its own, in small letters. -/
def IsPlainKey (key : String) : Prop := stepsOf key = [.name key] ∧ Text.lower key = key

theorem addLayer_cons (given : Given) {key : String} (plain : IsPlainKey key) (value : Given)
    (layer : List (String × Given)) :
    addLayer given ((key, value) :: layer) =
      addLayer (.section given.sectionSource?
        (putEntry key (layOver (given.entries.lookup key) value) given.entries)) layer := by
  have placed : place value (stepsOf key) (some given) = .section given.sectionSource?
      (putEntry key (layOver (given.entries.lookup key) value) given.entries) := by
    rw [plain.1, place, plain.2]
    rfl
  rw [← placed]
  rfl

theorem addLayer_section (source : Option String) (below : List (String × Given))
    (plain : ∀ entry ∈ layer, IsPlainKey entry.1) :
    addLayer (.section source below) layer = .section source (layEntriesOver below layer) := by
  induction layer generalizing below with
  | nil => rfl
  | cons entry layer induction =>
    have first := plain entry List.mem_cons_self
    have others := induction (putEntry entry.1 (layOver (below.lookup entry.1) entry.2) below)
      fun other member => plain other (List.mem_cons_of_mem entry member)
    rw [addLayer_cons _ first, layEntriesOver, first.2]
    exact others

theorem isSection_addLayer (given : Given) (plain : ∀ entry ∈ layer, IsPlainKey entry.1)
    (nonempty : layer ≠ []) : (addLayer given layer).isSection := by
  cases layer with
  | nil => exact absurd rfl nonempty
  | cons entry layer =>
    rw [addLayer_cons _ (plain entry List.mem_cons_self), addLayer_section _ _ fun other member =>
      plain other (List.mem_cons_of_mem entry member)]
    rfl

/-- A layer of plain keys is laid over whatever is below as one section. -/
theorem under?_addLayer (given : Given) (plain : ∀ entry ∈ layer, IsPlainKey entry.1)
    (different : (layer.map Prod.fst).Nodup) (key : String) :
    under? (some (addLayer given layer)) key =
      ((layer.lookup key).map (layOver (under? (some given) key))).or
        (under? (some given) key) := by
  have whole : (addLayer given layer).entries = layEntriesOver given.entries layer := by
    cases layer with
    | nil => rfl
    | cons entry layer =>
      have first := plain entry List.mem_cons_self
      rw [addLayer_cons _ first, addLayer_section _ _ fun other member =>
        plain other (List.mem_cons_of_mem entry member), layEntriesOver, first.2]
      rfl
  have laid := lookup_layEntriesOver given.entries (fun other member => (plain other member).2)
    different key
  rw [← whole] at laid
  exact laid

end ChartDialogue.Given
