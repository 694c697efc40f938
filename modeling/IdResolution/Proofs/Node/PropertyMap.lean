import IdResolution.Node.PropertyMap
import IdResolution.Proofs.Json.Form
import Mathlib.Data.List.Sort

/-!
# Lookup in property maps

A property map is determined by what it has for each property.  Setting a property
changes what the map has for this property and for no other, so that of several values
set one after another the last ones count.
-/

namespace IdResolution

namespace PropertyMap

/-- Each property occurs once. -/
theorem count_property_le_one {entries : List (String × List Value)}
    (ascending : Ascending entries) (property : String) :
    (entries.map Prod.fst).count property ≤ 1 := by
  apply List.nodup_iff_count_le_one.mp
  rw [List.Nodup, List.pairwise_map]
  exact ascending.imp fun before => String.ne_of_lt before

/-- Changing an entry is seen at its own property alone. -/
theorem lookup_alterIn {property : String} {change : List Value → List Value}
    {entries : List (String × List Value)} (ascending : Ascending entries) (other : String) :
    (alterIn property change entries).lookup other =
      if other = property then some (change (valuesIn property entries))
      else entries.lookup other := by
  induction entries with
  | nil => rw [alterIn, lookup_cons_eq_ite]; rfl
  | cons entry rest ih =>
      obtain ⟨below, restAscending⟩ := List.pairwise_cons.mp ascending
      unfold alterIn
      by_cases before : property < entry.1
      · have absent : (entry :: rest).lookup property = none := by
          rw [List.lookup_eq_none_iff]
          intro later listed
          rw [bne_iff_ne]
          rcases List.mem_cons.mp listed with rfl | inRest
          · exact String.ne_of_lt before
          · exact String.ne_of_lt (String.lt_trans before (below later inRest))
        rw [if_pos before, lookup_cons_eq_ite, valuesIn, absent]
        rfl
      · rw [if_neg before]
        by_cases equal : property = entry.1
        · subst equal
          simp only [if_pos, valuesIn, lookup_cons_eq_ite, Option.getD_some]
          split_ifs <;> rfl
        · rw [if_neg equal, lookup_cons_eq_ite, ih restAscending, valuesIn, valuesIn,
            lookup_cons_eq_ite property, if_neg equal, lookup_cons_eq_ite other]
          by_cases same : other = property
          · rw [if_pos same, if_neg (same ▸ equal), if_pos same]
          · rw [if_neg same, if_neg same]

/-! ## Maps -/

/-- What a map has for a property, if the property occurs. -/
def values? (map : PropertyMap) (property : String) : Option (List Value) :=
  map.entries.lookup property

@[simp] theorem values?_empty (property : String) : empty.values? property = none := rfl

theorem values?_set (map : PropertyMap) (property : String) (values : List Value)
    (other : String) :
    (map.set property values).values? other =
      if other = property then some values else map.values? other :=
  lookup_alterIn map.ascending other

/-- Maps that have the same for each property are equal. -/
theorem ext_values? {first second : PropertyMap}
    (same : ∀ property, first.values? property = second.values? property) : first = second := by
  obtain ⟨entries, ascending⟩ := first
  obtain ⟨others, othersAscending⟩ := second
  have members (entry : String × List Value) : entry ∈ entries ↔ entry ∈ others := by
    rw [← lookup_eq_some_iff_mem (count_property_le_one ascending _),
      ← lookup_eq_some_iff_mem (count_property_le_one othersAscending _)]
    exact Eq.congr_left (same entry.1)
  have irreflexive : Std.Irrefl fun first second : String × List Value => first.1 < second.1 :=
    ⟨fun _ => String.lt_irrefl _⟩
  have antisymmetric :
      Std.Antisymm fun first second : String × List Value => first.1 < second.1 :=
    ⟨fun _ _ before after => absurd after (String.lt_asymm before)⟩
  obtain rfl := ascending.eq_of_mem_iff othersAscending members
  rfl

/-- The map that results when properties are set one after another. -/
def setAll (map : PropertyMap) (entries : List (String × List Value)) : PropertyMap :=
  entries.foldl (fun map entry => map.set entry.1 entry.2) map

/-- Of several values that are set for a property the last ones count. -/
theorem values?_setAll (map : PropertyMap) (entries : List (String × List Value))
    (property : String) :
    (map.setAll entries).values? property =
      (entries.reverse.lookup property).or (map.values? property) := by
  induction entries generalizing map with
  | nil => rfl
  | cons entry rest ih =>
      have step := ih (map.set entry.1 entry.2)
      rw [values?_set] at step
      rw [setAll, List.foldl_cons, ← setAll, step, List.reverse_cons, List.lookup_append,
        Option.or_assoc, lookup_cons_eq_ite]
      split_ifs <;> rfl

/-- The map of properties that are set has for each of them what was set last. -/
theorem setAll_empty_eq_iff {entries : List (String × List Value)} {map : PropertyMap} :
    empty.setAll entries = map ↔
      ∀ property, map.values? property = entries.reverse.lookup property := by
  have last (property : String) :
      (empty.setAll entries).values? property = entries.reverse.lookup property := by
    rw [values?_setAll, values?_empty, Option.or_none]
  constructor
  · rintro rfl property
    exact last property
  · intro same
    exact ext_values? fun property => (last property).trans (same property).symm

/-- The entries of a map, set one after another, are the map again. -/
theorem setAll_entries (map : PropertyMap) : empty.setAll map.entries = map := by
  rw [setAll_empty_eq_iff]
  intro property
  have once := count_property_le_one map.ascending property
  have onceReversed : (map.entries.reverse.map Prod.fst).count property ≤ 1 := by
    rwa [List.map_reverse, List.count_reverse]
  apply Option.ext
  intro values
  rw [values?, lookup_eq_some_iff_mem onceReversed, lookup_eq_some_iff_mem once, List.mem_reverse]

end PropertyMap

end IdResolution
