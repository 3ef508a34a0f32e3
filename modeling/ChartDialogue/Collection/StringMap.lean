/-! # Maps and sets with ascending string keys

The entries of a map are kept in ascending key order, so two maps with the same content are equal
and every listing of a map is in code point order.
-/

namespace ChartDialogue

theorem lt_of_not_lt_of_ne {left right : String} (notBefore : ¬ left < right)
    (different : left ≠ right) : right < left := by
  apply Decidable.byContradiction
  intro notAfter
  exact different (String.le_antisymm (String.not_lt.mp notAfter) (String.not_lt.mp notBefore))

/-! ## Entry lists -/

namespace Entries

variable {α β : Type}

def Ascending (entries : List (String × α)) : Prop :=
  entries.Pairwise fun left right => left.1 < right.1

def insert (key : String) (value : α) : List (String × α) → List (String × α)
  | [] => [(key, value)]
  | (other, old) :: rest =>
    if key < other then (key, value) :: (other, old) :: rest
    else if key = other then (key, value) :: rest
    else (other, old) :: insert key value rest

theorem mem_insert {key : String} {value : α} {entry : String × α} :
    {entries : List (String × α)} → entry ∈ insert key value entries →
      entry = (key, value) ∨ entry ∈ entries
  | [], member => by simpa [insert] using member
  | (other, old) :: rest, member => by
    simp only [insert] at member
    split at member
    · simpa using member
    · split at member
      · rcases List.mem_cons.mp member with equal | member
        · exact .inl equal
        · exact .inr (List.mem_cons_of_mem _ member)
      · rcases List.mem_cons.mp member with equal | member
        · exact .inr (by simp [equal])
        · rcases mem_insert member with equal | member
          · exact .inl equal
          · exact .inr (List.mem_cons_of_mem _ member)

theorem ascending_insert (key : String) (value : α) :
    {entries : List (String × α)} → Ascending entries → Ascending (insert key value entries)
  | [], _ => by simp [insert, Ascending]
  | (other, old) :: rest, ascending => by
    have restAscending := (List.pairwise_cons.mp ascending).2
    have otherBelow := (List.pairwise_cons.mp ascending).1
    simp only [insert]
    split
    · rename_i before
      refine List.pairwise_cons.mpr ⟨?_, ascending⟩
      intro entry member
      rcases List.mem_cons.mp member with equal | member
      · rw [equal]; exact before
      · exact String.lt_trans before (otherBelow entry member)
    · split
      · rename_i equal
        subst equal
        exact List.pairwise_cons.mpr ⟨otherBelow, restAscending⟩
      · rename_i notBefore different
        refine List.pairwise_cons.mpr ⟨?_, ascending_insert key value restAscending⟩
        intro entry member
        rcases mem_insert member with equal | member
        · rw [equal]; exact lt_of_not_lt_of_ne notBefore different
        · exact otherBelow entry member

theorem lookup_cons_self (key : String) (value : α) (rest : List (String × α)) :
    ((key, value) :: rest).lookup key = some value := by
  rw [List.lookup_cons, beq_self_eq_true]

theorem lookup_cons_of_ne {key other : String} (different : other ≠ key) (value : α)
    (rest : List (String × α)) : ((key, value) :: rest).lookup other = rest.lookup other := by
  have unequal : (other == key) = false := beq_eq_false_iff_ne.mpr different
  rw [List.lookup_cons, unequal]

theorem lookup_insert_self (key : String) (value : α) :
    (entries : List (String × α)) → (insert key value entries).lookup key = some value
  | [] => lookup_cons_self key value []
  | (other, old) :: rest => by
    simp only [insert]
    split
    · exact lookup_cons_self key value _
    · split
      · exact lookup_cons_self key value _
      · rename_i different
        rw [lookup_cons_of_ne different, lookup_insert_self key value rest]

theorem lookup_insert_of_ne {key other : String} (different : other ≠ key) (value : α) :
    (entries : List (String × α)) →
      (insert key value entries).lookup other = entries.lookup other
  | [] => lookup_cons_of_ne different value []
  | (first, old) :: rest => by
    simp only [insert]
    split
    · exact lookup_cons_of_ne different value _
    · split
      · rename_i equal
        subst equal
        rw [lookup_cons_of_ne different, lookup_cons_of_ne different]
      · by_cases equal : other = first
        · subst equal
          rw [lookup_cons_self, lookup_cons_self]
        · rw [lookup_cons_of_ne equal, lookup_cons_of_ne equal,
            lookup_insert_of_ne different value rest]

/-- Entries put in one after the other; of two with the same key the later one stays. -/
def ofList (entries : List (String × α)) : List (String × α) :=
  entries.foldl (fun sorted entry => insert entry.1 entry.2 sorted) []

theorem ascending_ofList (entries : List (String × α)) : Ascending (ofList entries) := by
  suffices general : ∀ (sorted : List (String × α)), Ascending sorted →
      Ascending (entries.foldl (fun sorted entry => insert entry.1 entry.2 sorted) sorted) from
    general [] List.Pairwise.nil
  induction entries with
  | nil => intro sorted ascending; exact ascending
  | cons entry rest induction =>
    intro sorted ascending
    exact induction _ (ascending_insert entry.1 entry.2 ascending)

/-- Of the entries with one key, the last one put in is found. -/
theorem lookup_ofList (key : String) (entries : List (String × α)) :
    (ofList entries).lookup key = entries.reverse.lookup key := by
  suffices general : ∀ sorted : List (String × α),
      (entries.foldl (fun sorted entry => insert entry.1 entry.2 sorted) sorted).lookup key =
        (entries.reverse.lookup key).or (sorted.lookup key) from
    (general []).trans Option.or_none
  induction entries with
  | nil => intro sorted; rfl
  | cons entry rest induction =>
    intro sorted
    rw [List.foldl_cons, induction, List.reverse_cons, List.lookup_append, Option.or_assoc]
    congr 1
    by_cases same : key = entry.1
    · subst same
      rw [lookup_insert_self, lookup_cons_self]
      rfl
    · rw [lookup_insert_of_ne same, lookup_cons_of_ne same]
      rfl

theorem mem_of_mem_ofList {entry : String × α} {entries : List (String × α)} :
    entry ∈ ofList entries → entry ∈ entries := by
  suffices general : ∀ sorted : List (String × α),
      entry ∈ entries.foldl (fun sorted entry => insert entry.1 entry.2 sorted) sorted →
        entry ∈ entries ∨ entry ∈ sorted from
    fun member => (general [] member).resolve_right List.not_mem_nil
  induction entries with
  | nil => exact fun sorted member => .inr member
  | cons first rest induction =>
    intro sorted member
    rcases induction _ member with later | here
    · exact .inl (List.mem_cons_of_mem first later)
    · rcases mem_insert here with rfl | before
      · exact .inl List.mem_cons_self
      · exact .inr before

theorem isSome_lookup_ofList {key : String} {entries : List (String × α)} :
    ((ofList entries).lookup key).isSome = true ↔ ∃ value, (key, value) ∈ entries := by
  rw [lookup_ofList, List.lookup_isSome_iff]
  constructor
  · rintro ⟨entry, member, same⟩
    rw [eq_of_beq same]
    exact ⟨entry.2, List.mem_reverse.mp member⟩
  · rintro ⟨value, member⟩
    exact ⟨(key, value), List.mem_reverse.mpr member, beq_self_eq_true key⟩

theorem insert_of_forall_lt {key : String} (value : α) :
    {entries : List (String × α)} → (∀ entry ∈ entries, entry.1 < key) →
      insert key value entries = entries ++ [(key, value)]
  | [], _ => rfl
  | (other, old) :: rest, below => by
    have otherBelow : other < key := below (other, old) (by simp)
    have notBefore : ¬ key < other := String.lt_asymm otherBelow
    have different : key ≠ other := fun equal => String.lt_irrefl key (by
      rw [← equal] at otherBelow; exact otherBelow)
    simp only [insert, notBefore, different, if_false, List.cons_append]
    rw [insert_of_forall_lt value fun entry member => below entry (List.mem_cons_of_mem _ member)]

theorem ofList_of_ascending {entries : List (String × α)} (ascending : Ascending entries) :
    ofList entries = entries := by
  suffices general : ∀ (sorted : List (String × α)), Ascending (sorted ++ entries) →
      entries.foldl (fun sorted entry => insert entry.1 entry.2 sorted) sorted =
        sorted ++ entries from
    general [] ascending
  clear ascending
  induction entries with
  | nil => intro sorted _; simp
  | cons entry rest induction =>
    intro sorted ascending
    have below : ∀ earlier ∈ sorted, earlier.1 < entry.1 := fun earlier member =>
      (List.pairwise_append.mp ascending).2.2 earlier member entry (by simp)
    rw [List.foldl_cons, insert_of_forall_lt _ below]
    have regrouped : sorted ++ entry :: rest = sorted ++ [entry] ++ rest := by simp
    rw [regrouped] at ascending
    rw [induction _ ascending]
    exact regrouped.symm

end Entries

/-! ## Maps -/

/-- A map from strings with its entries in ascending key order. -/
structure StringMap (α : Type) where
  entries : List (String × α)
  ascending : Entries.Ascending entries

namespace StringMap

variable {α β : Type}

theorem ext_entries {left right : StringMap α} (equal : left.entries = right.entries) :
    left = right := by
  cases left; cases right; cases equal; rfl

instance [DecidableEq α] : DecidableEq (StringMap α) := fun left right =>
  if equal : left.entries = right.entries then isTrue (ext_entries equal)
  else isFalse fun same => equal (by rw [same])

def empty : StringMap α := ⟨[], List.Pairwise.nil⟩

instance : Inhabited (StringMap α) := ⟨empty⟩

def isEmpty (map : StringMap α) : Bool := map.entries.isEmpty
def size (map : StringMap α) : Nat := map.entries.length
def keys (map : StringMap α) : List String := map.entries.map (·.1)
def values (map : StringMap α) : List α := map.entries.map (·.2)
def find? (map : StringMap α) (key : String) : Option α := map.entries.lookup key
def contains (map : StringMap α) (key : String) : Bool := (map.find? key).isSome

def insert (map : StringMap α) (key : String) (value : α) : StringMap α :=
  ⟨Entries.insert key value map.entries, Entries.ascending_insert key value map.ascending⟩

def ofList (entries : List (String × α)) : StringMap α :=
  ⟨Entries.ofList entries, Entries.ascending_ofList entries⟩

@[simp] theorem find?_insert_self (map : StringMap α) (key : String) (value : α) :
    (map.insert key value).find? key = some value :=
  Entries.lookup_insert_self key value map.entries

theorem find?_insert_of_ne (map : StringMap α) {key other : String} (value : α)
    (different : other ≠ key) : (map.insert key value).find? other = map.find? other :=
  Entries.lookup_insert_of_ne different value map.entries

theorem contains_iff_mem_keys {map : StringMap α} {key : String} :
    map.contains key = true ↔ key ∈ map.keys := by
  constructor
  · intro contained
    rcases List.lookup_isSome_iff.mp contained with ⟨entry, inside, same⟩
    rw [eq_of_beq same]
    exact List.mem_map_of_mem inside
  · intro listed
    rcases List.mem_map.mp listed with ⟨entry, inside, rfl⟩
    exact List.lookup_isSome_iff.mpr ⟨entry, inside, beq_self_eq_true _⟩

theorem pairwise_keys (map : StringMap α) : map.keys.Pairwise (· < ·) :=
  List.pairwise_map.mpr map.ascending

@[simp] theorem ofList_entries (map : StringMap α) : ofList map.entries = map :=
  ext_entries (Entries.ofList_of_ascending map.ascending)

end StringMap

/-! ## Sets -/

def StringSet := StringMap Unit

namespace StringSet

instance : DecidableEq StringSet := inferInstanceAs (DecidableEq (StringMap Unit))
instance : Inhabited StringSet := inferInstanceAs (Inhabited (StringMap Unit))

def empty : StringSet := StringMap.empty

def toList (set : StringSet) : List String := StringMap.keys set

def contains (set : StringSet) (member : String) : Bool := StringMap.contains set member
def insert (set : StringSet) (member : String) : StringSet := StringMap.insert set member ()
def size (set : StringSet) : Nat := StringMap.size set

def ofList (members : List String) : StringSet :=
  StringMap.ofList (members.map fun member => (member, ()))

theorem contains_iff_mem_toList {set : StringSet} {member : String} :
    set.contains member = true ↔ member ∈ set.toList :=
  StringMap.contains_iff_mem_keys

theorem pairwise_toList (set : StringSet) : set.toList.Pairwise (· < ·) :=
  StringMap.pairwise_keys set

theorem nodup_toList (set : StringSet) : set.toList.Nodup := by
  apply set.pairwise_toList.imp
  intro left right before equal
  rw [equal] at before
  exact String.lt_irrefl right before

theorem contains_ofList {members : List String} {member : String} :
    (ofList members).contains member = true ↔ member ∈ members :=
  Entries.isSome_lookup_ofList.trans (by simp)

end StringSet

end ChartDialogue
