import IdResolution.Json.Basic

/-!
# Reading tokens

The tokens of a value are read back wherever a value may stand, and nothing else is read:
a reader knows at every place which tokens have brought it there, and when it is done
they are those of the value that it has found.
-/

namespace IdResolution.Json

/-! ## The tokens of a value -/

section Tokens

variable (items : List Json) (members : List (Option String × Json))

theorem tokens_array :
    (Json.array items).tokens = .openArray :: (itemTokens items ++ [.closeArray]) :=
  rfl

theorem tokens_object :
    (Json.object members).tokens = .openObject :: (memberTokens members ++ [.closeObject]) :=
  rfl

theorem itemTokens_singleton (item : Json) : itemTokens [item] = item.tokens :=
  rfl

theorem itemTokens_cons (item next : Json) :
    itemTokens (item :: next :: items) = item.tokens ++ .comma :: itemTokens (next :: items) :=
  rfl

theorem memberTokens_singleton (member : Option String × Json) :
    memberTokens [member] = .text member.1 :: .colon :: member.2.tokens :=
  rfl

theorem memberTokens_cons (member next : Option String × Json) :
    memberTokens (member :: next :: members) =
      .text member.1 :: .colon :: member.2.tokens ++ .comma :: memberTokens (next :: members) :=
  rfl

end Tokens

/-- Induction over values together with the rows of their items and of their members, in
the way in which their tokens are written. -/
theorem inductionOnRows (ofValue : Json → Prop) (ofItems : List Json → Prop)
    (ofMembers : List (Option String × Json) → Prop) (null : ofValue .null)
    (bool : ∀ flag, ofValue (.bool flag)) (number : ∀ numeral, ofValue (.number numeral))
    (text : ∀ content, ofValue (.text content))
    (array : ∀ items, ofItems items → ofValue (.array items))
    (object : ∀ members, ofMembers members → ofValue (.object members))
    (noItems : ofItems []) (lastItem : ∀ item, ofValue item → ofItems [item])
    (nextItem : ∀ item next rest, ofValue item → ofItems (next :: rest) →
      ofItems (item :: next :: rest))
    (noMembers : ofMembers []) (lastMember : ∀ key value, ofValue value → ofMembers [(key, value)])
    (nextMember : ∀ key value next rest, ofValue value → ofMembers (next :: rest) →
      ofMembers ((key, value) :: next :: rest)) (value : Json) : ofValue value :=
  Json.tokens.induct ofValue ofMembers ofItems null bool number text array object noItems lastItem
    nextItem noMembers lastMember nextMember value

/-! ## Reading the tokens of a value -/

/-- Where a reader stands after some tokens. -/
def follow? (place : Place) (tokens : List Token) : Option Place :=
  tokens.foldlM Place.step? place

section Steps

-- One step each, so that the table of steps stays closed wherever tokens are followed.

variable (outer : List Frame) (rest : List Token) (value : Json)

theorem follow?_openArray :
    follow? (.atValue outer) (.openArray :: rest) = follow? (.arrayStart outer) rest :=
  rfl

theorem follow?_openObject :
    follow? (.atValue outer) (.openObject :: rest) = follow? (.objectStart outer) rest :=
  rfl

theorem follow?_nextItem (before : List Json) :
    follow? (.complete value (.array before :: outer)) (.comma :: rest) =
      follow? (.atValue (.array (value :: before) :: outer)) rest :=
  rfl

theorem follow?_closeArray (before : List Json) :
    follow? (.complete value (.array before :: outer)) (.closeArray :: rest) =
      follow? (.complete (.array (value :: before).reverse) outer) rest :=
  rfl

theorem follow?_key (before : List (Option String × Json)) (key : Option String) :
    follow? (.atKey before outer) (.text key :: .colon :: rest) =
      follow? (.atValue (.member before key :: outer)) rest :=
  rfl

theorem follow?_nextMember (before : List (Option String × Json)) (key : Option String) :
    follow? (.complete value (.member before key :: outer)) (.comma :: rest) =
      follow? (.atKey ((key, value) :: before) outer) rest :=
  rfl

theorem follow?_closeObject (before : List (Option String × Json)) (key : Option String) :
    follow? (.complete value (.member before key :: outer)) (.closeObject :: rest) =
      follow? (.complete (.object ((key, value) :: before).reverse) outer) rest :=
  rfl

end Steps

/-- A value is read wherever a value has to follow. -/
def Read (value : Json) : Prop :=
  ∀ outer rest, follow? (.atValue outer) (value.tokens ++ rest) =
    follow? (.complete value outer) rest

/-- The items of an array are read up to its end. -/
def ItemsRead (items : List Json) : Prop :=
  ∀ before outer rest, items ≠ [] →
    follow? (.atValue (.array before :: outer)) (itemTokens items ++ .closeArray :: rest) =
      follow? (.complete (.array (before.reverse ++ items)) outer) rest

/-- The members of an object are read up to its end. -/
def MembersRead (members : List (Option String × Json)) : Prop :=
  ∀ before outer rest, members ≠ [] →
    follow? (.atKey before outer) (memberTokens members ++ .closeObject :: rest) =
      follow? (.complete (.object (before.reverse ++ members)) outer) rest

/-- A value does not start with the end of an array. -/
theorem tokens_start (value : Json) :
    ∃ first rest, value.tokens = first :: rest ∧ first ≠ .closeArray := by
  cases value with
  | array items => exact ⟨_, _, rfl, by simp⟩
  | object members => exact ⟨_, _, rfl, by simp⟩
  | _ => exact ⟨_, _, rfl, by simp⟩

/-- The first item of an array is read as any other. -/
theorem follow?_arrayStart (value : Json) (outer : List Frame) (rest : List Token) :
    follow? (.arrayStart outer) (value.tokens ++ rest) =
      follow? (.atValue (.array [] :: outer)) (value.tokens ++ rest) := by
  obtain ⟨first, more, starts, other⟩ := value.tokens_start
  rw [starts]
  cases first <;> first | rfl | contradiction

theorem itemsRead_singleton {item : Json} (read : Read item) : ItemsRead [item] := by
  intro before outer rest _
  rw [itemTokens_singleton, read, follow?_closeArray, List.reverse_cons]

theorem itemsRead_cons {item next : Json} {rest : List Json} (read : Read item)
    (others : ItemsRead (next :: rest)) : ItemsRead (item :: next :: rest) := by
  intro before outer after _
  rw [itemTokens_cons, List.append_assoc, read, List.cons_append, follow?_nextItem,
    others _ _ _ (List.cons_ne_nil _ _), List.reverse_cons, List.append_assoc,
    List.singleton_append]

theorem membersRead_singleton (key : Option String) {value : Json} (read : Read value) :
    MembersRead [(key, value)] := by
  intro before outer rest _
  rw [memberTokens_singleton, List.cons_append, List.cons_append, follow?_key, read,
    follow?_closeObject, List.reverse_cons]

theorem membersRead_cons (key : Option String) {value : Json} {next : Option String × Json}
    {rest : List (Option String × Json)} (read : Read value) (others : MembersRead (next :: rest)) :
    MembersRead ((key, value) :: next :: rest) := by
  intro before outer after _
  rw [memberTokens_cons, List.append_assoc, List.cons_append, List.cons_append, follow?_key, read,
    List.cons_append, follow?_nextMember, others _ _ _ (List.cons_ne_nil _ _), List.reverse_cons,
    List.append_assoc, List.singleton_append]

theorem read_array {items : List Json} (within : ItemsRead items) : Read (.array items) := by
  intro outer rest
  rw [tokens_array, List.cons_append, List.append_assoc, List.singleton_append, follow?_openArray]
  cases items with
  | nil => rfl
  | cons item more =>
      have started := within [] outer rest (List.cons_ne_nil _ _)
      rw [List.reverse_nil, List.nil_append] at started
      rw [← started]
      -- Alone or not, the first item comes first, and does not close the array.
      cases more with
      | nil => exact follow?_arrayStart item outer _
      | cons next more =>
          rw [itemTokens_cons, List.append_assoc]
          exact follow?_arrayStart item outer _

theorem read_object {members : List (Option String × Json)} (within : MembersRead members) :
    Read (.object members) := by
  intro outer rest
  rw [tokens_object, List.cons_append, List.append_assoc, List.singleton_append,
    follow?_openObject]
  cases members with
  | nil => rfl
  | cons member more =>
      have started := within [] outer rest (List.cons_ne_nil _ _)
      rw [List.reverse_nil, List.nil_append] at started
      rw [← started]
      cases more <;> rfl

/-- Every value is read from its tokens, wherever it stands. -/
theorem read_tokens (value : Json) : Read value := by
  apply inductionOnRows Read ItemsRead MembersRead
  case null => exact fun _ _ => rfl
  case bool => exact fun _ _ _ => rfl
  case number => exact fun _ _ _ => rfl
  case text => exact fun _ _ _ => rfl
  case array => exact fun _ => read_array
  case object => exact fun _ => read_object
  case noItems => exact fun _ _ _ none => absurd rfl none
  case lastItem => exact fun _ => itemsRead_singleton
  case nextItem => exact fun _ _ _ => itemsRead_cons
  case noMembers => exact fun _ _ _ none => absurd rfl none
  case lastMember => exact fun key _ => membersRead_singleton key
  case nextMember => exact fun key _ _ _ => membersRead_cons key

theorem ofTokens?_tokens (value : Json) : ofTokens? value.tokens = some value := by
  have read := read_tokens value [] []
  rw [List.append_nil] at read
  rw [ofTokens?, ← follow?, read]
  rfl

/-! ## Reading nothing else -/

/-- The tokens of items, each with a comma behind it. -/
def itemsBefore (items : List Json) : List Token :=
  items.flatMap fun item => item.tokens ++ [.comma]

/-- The tokens of members, each with a comma behind it. -/
def membersBefore (members : List (Option String × Json)) : List Token :=
  members.flatMap fun member => .text member.1 :: .colon :: (member.2.tokens ++ [.comma])

theorem itemTokens_append_singleton (before : List Json) (last : Json) :
    itemTokens (before ++ [last]) = itemsBefore before ++ last.tokens := by
  induction before with
  | nil => rfl
  | cons item rest ih =>
      have next : itemTokens (item :: (rest ++ [last])) =
          item.tokens ++ .comma :: itemTokens (rest ++ [last]) := by
        cases rest <;> rfl
      have first : itemsBefore (item :: rest) = item.tokens ++ [.comma] ++ itemsBefore rest := rfl
      rw [List.cons_append, next, ih, first]
      simp

theorem memberTokens_append_singleton (before : List (Option String × Json))
    (last : Option String × Json) :
    memberTokens (before ++ [last]) =
      membersBefore before ++ .text last.1 :: .colon :: last.2.tokens := by
  induction before with
  | nil => rfl
  | cons member rest ih =>
      have next : memberTokens (member :: (rest ++ [last])) =
          .text member.1 :: .colon :: member.2.tokens ++
            .comma :: memberTokens (rest ++ [last]) := by
        cases rest <;> rfl
      have first : membersBefore (member :: rest) =
          .text member.1 :: .colon :: (member.2.tokens ++ [.comma]) ++ membersBefore rest := rfl
      rw [List.cons_append, next, ih, first]
      simp

/-- The tokens before the value that open containers wait for. -/
def opened : List Frame → List Token
  | [] => []
  | .array items :: outer => opened outer ++ .openArray :: itemsBefore items.reverse
  | .member members key :: outer =>
      opened outer ++ .openObject :: (membersBefore members.reverse ++ [.text key, .colon])

/-- The tokens that lead to a place. -/
def Place.tokens : Place → List Token
  | .atValue outer => opened outer
  | .arrayStart outer => opened outer ++ [.openArray]
  | .afterItem items outer => opened outer ++ .openArray :: itemTokens items.reverse
  | .objectStart outer => opened outer ++ [.openObject]
  | .atKey members outer => opened outer ++ .openObject :: membersBefore members.reverse
  | .atColon members key outer =>
      opened outer ++ .openObject :: (membersBefore members.reverse ++ [.text key])
  | .afterMember members outer => opened outer ++ .openObject :: memberTokens members.reverse
  | .done value => value.tokens

/-- Where something has just been read, there is something. -/
def Place.Filled : Place → Prop
  | .afterItem items _ => items ≠ []
  | .afterMember members _ => members ≠ []
  | _ => True

namespace Place

theorem filled_complete (value : Json) (outer : List Frame) : (complete value outer).Filled := by
  cases outer with
  | nil => trivial
  | cons frame outer => cases frame <;> exact List.cons_ne_nil _ _

theorem tokens_complete (value : Json) (outer : List Frame) :
    (complete value outer).tokens = opened outer ++ value.tokens := by
  cases outer with
  | nil => rfl
  | cons frame outer =>
      cases frame with
      | array items =>
          rw [complete, tokens, List.reverse_cons, itemTokens_append_singleton, opened]
          simp
      | member members key =>
          rw [complete, tokens, List.reverse_cons, memberTokens_append_singleton, opened]
          simp

/-- To complete a container takes its closing bracket. -/
theorem tokens_complete_of_append {value : Json} {outer : List Frame} {within : List Token}
    {last : Token} (closed : value.tokens = within ++ [last]) :
    (complete value outer).Filled ∧
      (complete value outer).tokens = opened outer ++ within ++ [last] := by
  refine ⟨filled_complete value outer, ?_⟩
  rw [tokens_complete, closed, List.append_assoc]

theorem begin?_tokens {outer : List Frame} {token : Token} {next : Place}
    (begun : begin? outer token = some next) :
    next.Filled ∧ next.tokens = opened outer ++ [token] := by
  cases token with
  | openArray =>
      obtain rfl := Option.some.inj begun
      exact ⟨trivial, rfl⟩
  | openObject =>
      obtain rfl := Option.some.inj begun
      exact ⟨trivial, rfl⟩
  | null | bool value | number value | text content =>
      obtain rfl := Option.some.inj begun
      exact ⟨filled_complete _ _, tokens_complete _ _⟩
  | closeObject | closeArray | colon | comma => contradiction

theorem eq_append_last {α : Type} {row : List α} (filled : row ≠ []) :
    ∃ last before, row = last :: before ∧ row.reverse = before.reverse ++ [last] := by
  obtain ⟨last, before, rfl⟩ := List.exists_cons_of_ne_nil filled
  exact ⟨last, before, rfl, List.reverse_cons⟩

/-- One step reads one token more. -/
theorem step?_tokens {place next : Place} {token : Token} (filled : place.Filled)
    (stepped : place.step? token = some next) :
    next.Filled ∧ next.tokens = place.tokens ++ [token] := by
  unfold step? at stepped
  split at stepped
  case h_1 outer token => exact begin?_tokens stepped
  case h_2 outer =>
    obtain rfl := Option.some.inj stepped
    exact tokens_complete_of_append rfl
  case h_3 outer token _ => exact begin?_tokens stepped
  case h_4 items outer =>
    obtain rfl := Option.some.inj stepped
    obtain ⟨last, before, rfl, reversed⟩ := eq_append_last filled
    refine ⟨trivial, ?_⟩
    rw [tokens, tokens, opened, reversed, itemTokens_append_singleton]
    simp [itemsBefore]
  case h_5 items outer =>
    obtain rfl := Option.some.inj stepped
    exact tokens_complete_of_append rfl
  case h_6 outer =>
    obtain rfl := Option.some.inj stepped
    exact tokens_complete_of_append rfl
  case h_7 outer key =>
    obtain rfl := Option.some.inj stepped
    exact ⟨trivial, by simp [tokens, membersBefore]⟩
  case h_8 members outer key =>
    obtain rfl := Option.some.inj stepped
    exact ⟨trivial, by simp [tokens]⟩
  case h_9 members key outer =>
    obtain rfl := Option.some.inj stepped
    exact ⟨trivial, by simp [tokens, opened]⟩
  case h_10 members outer =>
    obtain rfl := Option.some.inj stepped
    obtain ⟨last, before, rfl, reversed⟩ := eq_append_last filled
    refine ⟨trivial, ?_⟩
    rw [tokens, tokens, reversed, memberTokens_append_singleton]
    simp [membersBefore]
  case h_11 members outer =>
    obtain rfl := Option.some.inj stepped
    exact tokens_complete_of_append rfl
  case h_12 => contradiction

/-- A place is reached by the tokens that lead to it and by no others. -/
theorem follow?_tokens {place next : Place} {tokens : List Token} (filled : place.Filled)
    (followed : follow? place tokens = some next) :
    next.tokens = place.tokens ++ tokens := by
  induction tokens generalizing place with
  | nil =>
      obtain rfl := Option.some.inj followed
      exact (List.append_nil _).symm
  | cons token rest ih =>
      rw [follow?, List.foldlM_cons, Option.bind_eq_bind, Option.bind_eq_some_iff] at followed
      obtain ⟨between, stepped, others⟩ := followed
      obtain ⟨betweenFilled, read⟩ := step?_tokens filled stepped
      rw [ih betweenFilled others, read, List.append_assoc, List.singleton_append]

end Place

/-- A row of tokens is read as a value exactly if it is the row of its tokens. -/
theorem ofTokens?_eq_some_iff {tokens : List Token} {value : Json} :
    ofTokens? tokens = some value ↔ tokens = value.tokens := by
  constructor
  · intro read
    unfold ofTokens? at read
    split at read
    · rename_i found followed
      obtain rfl := Option.some.inj read
      have started : (Place.atValue []).Filled := trivial
      exact (Place.follow?_tokens started followed).symm
    · contradiction
  · rintro rfl
    exact ofTokens?_tokens value

end IdResolution.Json
