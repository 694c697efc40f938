import IdResolution.Node.Value

/-!
# Property maps

The properties of a node with their values.  Properties are kept in ascending
order and each occurs once, so that equal maps are equal lists of entries; the
values of a property keep the order in which they were added.
-/

namespace IdResolution

/-- The entries of a map that lie in ascending order of their properties. -/
def Ascending (entries : List (String × List Value)) : Prop :=
  entries.Pairwise fun first second => first.1 < second.1

/-- A map from properties to lists of values. -/
structure PropertyMap where
  entries : List (String × List Value) := []
  ascending : Ascending entries := by exact List.Pairwise.nil
  deriving DecidableEq

namespace PropertyMap

/-- The map without properties. -/
def empty : PropertyMap := {}

/-- The values of a property among entries; none for one that does not occur. -/
def valuesIn (property : String) (entries : List (String × List Value)) : List Value :=
  (entries.lookup property).getD []

/-- Change the values of one property, entering it at its place if it is new. -/
def alterIn (property : String) (change : List Value → List Value) :
    List (String × List Value) → List (String × List Value)
  | [] => [(property, change [])]
  | entry :: rest =>
      if property < entry.1 then (property, change []) :: entry :: rest
      else if property = entry.1 then (property, change entry.2) :: rest
      else entry :: alterIn property change rest

/-- Changing an entry brings in no property but its own. -/
theorem mem_alterIn {property : String} {change : List Value → List Value}
    {entries : List (String × List Value)} {entry : String × List Value}
    (member : entry ∈ alterIn property change entries) :
    entry.1 = property ∨ entry ∈ entries := by
  induction entries with
  | nil => simp_all [alterIn]
  | cons head rest ih =>
      unfold alterIn at member
      split at member
      · simp only [List.mem_cons] at member ⊢
        rcases member with rfl | rfl | inRest
        · exact .inl rfl
        · exact .inr (.inl rfl)
        · exact .inr (.inr inRest)
      · split at member
        · simp only [List.mem_cons] at member ⊢
          rcases member with rfl | inRest
          · exact .inl rfl
          · exact .inr (.inr inRest)
        · simp only [List.mem_cons] at member ⊢
          rcases member with rfl | inRest
          · exact .inr (.inl rfl)
          · exact (ih inRest).imp_right .inr

theorem ascending_alterIn {property : String} {change : List Value → List Value}
    {entries : List (String × List Value)} (ascending : Ascending entries) :
    Ascending (alterIn property change entries) := by
  induction entries with
  | nil => exact .cons (by simp) .nil
  | cons head rest ih =>
      obtain ⟨below, restAscending⟩ := List.pairwise_cons.1 ascending
      unfold alterIn
      split
      · rename_i before
        refine .cons ?_ ascending
        intro entry member
        rcases List.mem_cons.1 member with rfl | inRest
        · exact before
        · exact String.lt_trans before (below entry inRest)
      · split
        · rename_i equal
          refine .cons ?_ restAscending
          intro entry member
          simpa [equal] using below entry member
        · rename_i notBefore notEqual
          have after : head.1 < property := by grind
          refine .cons ?_ (ih restAscending)
          intro entry member
          rcases mem_alterIn member with equal | inRest
          · simpa [equal] using after
          · exact below entry inRest

/-- The values of a property, in the order in which they were added. -/
def values (map : PropertyMap) (property : String) : List Value :=
  valuesIn property map.entries

/-- Add a value after those that the property has. -/
def push (map : PropertyMap) (property : String) (value : Value) : PropertyMap where
  entries := alterIn property (· ++ [value]) map.entries
  ascending := ascending_alterIn map.ascending

/-- Give a property exactly these values. -/
def set (map : PropertyMap) (property : String) (values : List Value) : PropertyMap where
  entries := alterIn property (fun _ => values) map.entries
  ascending := ascending_alterIn map.ascending

end PropertyMap

/-- A property map is an object.  When a key is repeated, its last values count. -/
instance : JsonForm PropertyMap where
  toJson map := .ofMembers (map.entries.map fun entry => (entry.1, JsonForm.toJson entry.2))
  ofJson?
    | .object members =>
        members.foldlM (fun map member =>
          match member.1, JsonForm.ofJson? member.2 with
          | some property, some values => some (map.set property values)
          | _, _ => none) PropertyMap.empty
    | _ => none

end IdResolution
