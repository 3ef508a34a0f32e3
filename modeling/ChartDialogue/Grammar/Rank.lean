import ChartDialogue.Grammar.Site

/-! # Every hop lowers the rank

The rank of a site counts first the references of the document that are not yet on the way, then
the height of the schema. A hop inside the schema lowers the height and cannot free a reference; a
jump to a reference uses one up. So every way through a document is finite.
-/

namespace ChartDialogue

/-! ## The references of a document -/

def statedReference (key : String) : Json → List String
  | .string text => if key = "$ref" then [text] else []
  | _ => []

mutual
def Json.referenceTexts : Json → List String
  | .array elements => referenceTextsOfElements elements
  | .object members => members.referenceTexts
  | _ => []

def referenceTextsOfElements : List Json → List String
  | [] => []
  | value :: rest => value.referenceTexts ++ referenceTextsOfElements rest

def Members.referenceTexts {floor : Option String} : Members floor → List String
  | .nil => []
  | .cons key _ value rest =>
    statedReference key value ++ value.referenceTexts ++ rest.referenceTexts
end

theorem subset_referenceTextsOfElements {value : Json} : {elements : List Json} →
    value ∈ elements → value.referenceTexts ⊆ referenceTextsOfElements elements
  | _ :: _, member, reference, stated => by
    rw [referenceTextsOfElements, List.mem_append]
    rcases List.mem_cons.mp member with equal | member
    · rw [equal] at stated; exact .inl stated
    · exact .inr (subset_referenceTextsOfElements member stated)

theorem Members.subset_referenceTexts {key : String} {value : Json} :
    {floor : Option String} → {members : Members floor} → (key, value) ∈ members.toList →
      statedReference key value ++ value.referenceTexts ⊆ members.referenceTexts
  | _, .cons .., member, reference, stated => by
    rw [Members.referenceTexts, List.mem_append]
    rcases List.mem_cons.mp member with equal | member
    · cases equal; exact .inl stated
    · exact .inr (Members.subset_referenceTexts member stated)

theorem Json.Part.referenceTexts_subset {part whole : Json} (inside : part.Part whole) :
    part.referenceTexts ⊆ whole.referenceTexts := by
  induction inside with
  | self => exact fun _ stated => stated
  | element member _ induction =>
    rw [Json.referenceTexts]
    exact fun _ stated => subset_referenceTextsOfElements member (induction stated)
  | member member _ induction =>
    rw [Json.referenceTexts]
    exact fun _ stated =>
      Members.subset_referenceTexts member (List.mem_append_right _ (induction stated))

theorem mem_referenceTexts_of_reference? {schema : Json} {reference : String}
    (stated : Site.reference? schema = some reference) : reference ∈ schema.referenceTexts := by
  cases schema with
  | object members =>
    simp only [Site.reference?, Json.member?, Json.asObject?, Option.bind_some,
      Option.bind_eq_some_iff] at stated
    obtain ⟨value, found, text⟩ := stated
    cases value with
    | string other =>
      simp only [Json.asString?, Option.some.injEq] at text
      subst text
      exact Members.subset_referenceTexts (Members.mem_toList_of_find? found)
        (by simp [statedReference])
    | _ => simp [Json.asString?] at text
  | _ => simp [Site.reference?, Json.member?, Json.asObject?] at stated

/-! ## Steps -/

def Hop.reference? : Hop → Option String
  | .reference text => some text
  | _ => none

namespace Site

variable {document : Json}

/-- How a child follows from its parent: a hop into the schema, or a jump to a fresh reference. -/
inductive Step (parent child : Site document) : Prop where
  | down (hop : Hop) (way : child.hops = parent.hops ++ [hop]) (inner : hop.reference? = none)
      (lower : child.schema.height < parent.schema.height)
  | jump (reference : String) (way : child.hops = parent.hops ++ [.reference reference])
      (stated : reference? parent.schema = some reference)
      (fresh : reference ∉ parent.fullPath)

theorem height_lt_of_member {schema value : Json} {keyword : String}
    (member : ∃ members, schema = .object members ∧ (keyword, value) ∈ members.toList) :
    value.height < schema.height := by
  obtain ⟨members, rfl, member⟩ := member
  rw [Json.height]
  exact Nat.lt_succ_of_le (Members.height_le_of_mem member)

theorem step_descend {site : Site document} {value schema : Json} {keyword : String} {hop : Hop}
    {pointer : String}
    (member : ∃ members, site.schema = .object members ∧ (keyword, value) ∈ members.toList)
    (inner : hop.reference? = none) (inside : schema.Part value)
    (below : schema.Part site.schema) : site.Step (site.descend schema hop pointer below) :=
  .down hop rfl inner (Nat.lt_of_le_of_lt inside.height_le (height_lt_of_member member))

theorem step_of_mem_alternatives {site child : Site document} {combinator : Combinator}
    (member : child ∈ site.alternatives combinator) : site.Step child := by
  unfold alternatives at member
  split at member
  · cases member
  · rename_i list _
    obtain ⟨index, inRange, equal⟩ := List.mem_mapIdx.mp member
    subst equal
    exact step_descend list.2 rfl (elements list.1)[index].2 _

theorem step_of_mem_target {site child : Site document} {targets : List (Site document)}
    (found : site.target = .ok targets) (member : child ∈ targets) : site.Step child := by
  unfold target at found
  split at found
  · cases found; cases member
  · rename_i reference stated
    split at found
    · cases found; cases member
    · rename_i fresh
      split at found
      · cases found
      · split at found
        · cases found
        · cases found
          rw [List.mem_singleton] at member
          subst member
          exact .jump reference rfl stated fresh

theorem step_of_mem_itemSites {site child : Site document} (member : child ∈ site.itemSites) :
    site.Step child := by
  unfold itemSites at member
  split at member
  · cases member
  · rename_i items _
    split at member
    · obtain ⟨index, inRange, equal⟩ := List.mem_mapIdx.mp member
      subst equal
      exact step_descend items.2 rfl (elements items.1)[index].2 _
    · rw [List.mem_singleton] at member
      subst member
      exact step_descend items.2 rfl .self _

theorem step_of_mem_propertySites {site child : Site document}
    (member : child ∈ site.propertySites) : site.Step child := by
  unfold propertySites at member
  split at member
  · cases member
  · rename_i properties _
    obtain ⟨entry, _, equal⟩ := List.mem_map.mp member
    subst equal
    exact step_descend properties.2 rfl entry.2.2 _

theorem children_eq_ok {site : Site document} {next : List (Site document)}
    (found : site.children = .ok next) : ∃ targets, site.target = .ok targets ∧
      next = Combinator.all.flatMap site.alternatives ++ targets ++ site.itemSites ++
        site.propertySites := by
  unfold children at found
  cases target : site.target with
  | error fault => rw [target] at found; cases found
  | ok targets => rw [target] at found; cases found; exact ⟨targets, rfl, rfl⟩

theorem step_of_mem_children {site child : Site document} {next : List (Site document)}
    (found : site.children = .ok next) (member : child ∈ next) : site.Step child := by
  obtain ⟨targets, target, equal⟩ := children_eq_ok found
  subst equal
  simp only [List.mem_append, List.mem_flatMap] at member
  rcases member with ((⟨combinator, _, member⟩ | member) | member) | member
  · exact step_of_mem_alternatives member
  · exact step_of_mem_target target member
  · exact step_of_mem_itemSites member
  · exact step_of_mem_propertySites member

/-! ## The rank -/

/-- The references of the document that are not on the way. -/
def unusedReferences (site : Site document) : List String :=
  (distinct document.referenceTexts).filter fun reference => reference ∉ site.fullPath

def rank (site : Site document) : Nat :=
  site.unusedReferences.length * (document.height + 1) + site.schema.height

theorem length_filter_le_of_imp {α : Type} {stronger weaker : α → Bool}
    (implies : ∀ value, stronger value = true → weaker value = true) :
    (list : List α) → (list.filter stronger).length ≤ (list.filter weaker).length
  | [] => Nat.le_refl _
  | value :: rest => by
    have induction := length_filter_le_of_imp implies rest
    by_cases strong : stronger value = true
    · simp [strong, implies value strong, induction]
    · by_cases weak : weaker value = true
      · simp [strong, weak]; omega
      · simp [strong, weak, induction]

theorem length_filter_lt_of_imp {α : Type} {stronger weaker : α → Bool} {lost : α}
    (implies : ∀ value, stronger value = true → weaker value = true)
    (weak : weaker lost = true) (notStrong : stronger lost = false) :
    {list : List α} → lost ∈ list →
      (list.filter stronger).length < (list.filter weaker).length
  | value :: rest, member => by
    rcases List.mem_cons.mp member with equal | member
    · subst equal
      have others := length_filter_le_of_imp implies rest
      simp [weak, notStrong]; omega
    · have induction := length_filter_lt_of_imp implies weak notStrong member
      by_cases strong : stronger value = true
      · simp [strong, implies value strong, induction]
      · by_cases keeps : weaker value = true
        · simp [strong, keeps]; omega
        · simp [strong, keeps, induction]

theorem fullPath_of_way {parent child : Site document} {hop : Hop}
    (way : child.hops = parent.hops ++ [hop]) :
    child.fullPath = parent.fullPath ++ [hop.text] := by
  simp [fullPath, way]

theorem rank_lt_of_step {parent child : Site document} (step : parent.Step child) :
    child.rank < parent.rank := by
  cases step with
  | down hop way _ lower =>
    have fewer : child.unusedReferences.length ≤ parent.unusedReferences.length := by
      apply length_filter_le_of_imp
      intro reference unused
      rw [fullPath_of_way way] at unused
      simp only [List.mem_append, decide_eq_true_eq, not_or] at unused ⊢
      exact unused.1
    have scaled := Nat.mul_le_mul_right (document.height + 1) fewer
    unfold rank
    omega
  | jump reference way stated fresh =>
    have listed : reference ∈ distinct document.referenceTexts :=
      mem_distinct.mpr
        (parent.inside.referenceTexts_subset (mem_referenceTexts_of_reference? stated))
    have fewer : child.unusedReferences.length < parent.unusedReferences.length := by
      apply length_filter_lt_of_imp _ _ _ listed
      · intro other unused
        rw [fullPath_of_way way] at unused
        simp only [List.mem_append, decide_eq_true_eq, not_or] at unused ⊢
        exact unused.1
      · simpa using fresh
      · rw [fullPath_of_way way]
        simp [Hop.text]
    have scaled := Nat.mul_le_mul_right (document.height + 1) fewer
    have bounded := child.inside.height_le
    rw [Nat.succ_mul] at scaled
    unfold rank
    omega

theorem rank_lt_of_mem_children {site child : Site document} {next : List (Site document)}
    (found : site.children = .ok next) (member : child ∈ next) : child.rank < site.rank :=
  rank_lt_of_step (step_of_mem_children found member)

end Site

end ChartDialogue
