/-!
# Maps that remember the order of first insertion

Yield channels, game snapshots and argument lists all answer look-ups by key and are also listed
back to the reader, so the order in which keys first appeared is part of their value. A map is a
list of pairs; replacing the value of a key leaves the key where it is.

The view of a map is `entries`, and `keys` and `get?` are read off it. The lemmas below say what
`insert` does to both.
-/

namespace PolicyForecast

section Lookup

variable {κ υ : Type} [BEq κ] [LawfulBEq κ] {entries : List (κ × υ)} {k : κ}

/-- A look-up of a key that no entry has finds nothing. -/
theorem lookup_of_not_mem (h : k ∉ entries.map Prod.fst) : entries.lookup k = none := by
  rw [List.lookup_eq_none_iff]
  intro entry hentry
  rw [bne_iff_ne]
  rintro rfl
  exact h (List.mem_map_of_mem hentry)

/-- With distinct keys a look-up finds every entry. -/
theorem lookup_of_mem {v : υ} (hkeys : (entries.map Prod.fst).Nodup) (h : (k, v) ∈ entries) :
    entries.lookup k = some v := by
  induction entries with
  | nil => cases h
  | cons entry rest ih =>
    rw [List.map_cons, List.nodup_cons] at hkeys
    rw [List.lookup_cons]
    -- the entry is the first, or it comes later and the first has another key
    rcases List.mem_cons.1 h with rfl | hrest
    · rw [beq_self_eq_true]
    · have hother : (k == entry.1) = false := by
        rw [beq_eq_false_iff_ne]
        rintro rfl
        exact hkeys.1 (List.mem_map.2 ⟨_, hrest, rfl⟩)
      rw [hother]
      exact ih hkeys.2 hrest

/-- A look-up among entries with changed values. -/
theorem lookup_map_value {ω : Type} (f : κ → υ → ω) (entries : List (κ × υ)) :
    (entries.map fun entry => (entry.1, f entry.1 entry.2)).lookup k
      = (entries.lookup k).map (f k) := by
  induction entries with
  | nil => rfl
  | cons entry rest ih =>
    rw [List.map_cons, List.lookup_cons, List.lookup_cons]
    cases hk : k == entry.1 with
    | true =>
      obtain rfl := eq_of_beq hk
      rfl
    | false => exact ih

end Lookup

/-- A map listed in the order in which its keys were first inserted. -/
structure OrderedMap (κ υ : Type) where
  entries : List (κ × υ) := []

namespace OrderedMap

variable {κ υ : Type}

instance : Inhabited (OrderedMap κ υ) := ⟨⟨[]⟩⟩
instance : EmptyCollection (OrderedMap κ υ) := ⟨⟨[]⟩⟩

/-- The keys, in order of first insertion. -/
def keys (m : OrderedMap κ υ) : List κ :=
  m.entries.map Prod.fst

/-- The values, in the order of their keys. -/
def values (m : OrderedMap κ υ) : List υ :=
  m.entries.map Prod.snd

/-- Whether the map holds nothing. -/
def isEmpty (m : OrderedMap κ υ) : Bool :=
  m.entries.isEmpty

variable [BEq κ]

/-- The value of a key, if it was inserted. -/
def get? (m : OrderedMap κ υ) (k : κ) : Option υ :=
  m.entries.lookup k

/-- The value of a key, or `d` when it was never inserted. -/
def getD (m : OrderedMap κ υ) (k : κ) (d : υ) : υ :=
  (m.get? k).getD d

/-- Puts a pair where its key stands, or at the end when the key is new. -/
def insertEntry (k : κ) (v : υ) : List (κ × υ) → List (κ × υ)
  | [] => [(k, v)]
  | (k', v') :: rest =>
    if k == k' then (k', v) :: rest else (k', v') :: insertEntry k v rest

/-- Gives a key a value: a known key keeps its place, a new one goes to the end. -/
def insert (m : OrderedMap κ υ) (k : κ) (v : υ) : OrderedMap κ υ :=
  ⟨insertEntry k v m.entries⟩

/-- The map after inserting the pairs one after the other, so that a later pair wins. -/
def ofList (pairs : List (κ × υ)) : OrderedMap κ υ :=
  pairs.foldl (fun m p => m.insert p.1 p.2) ∅

/-- Changes the value of one key and leaves every other entry alone. -/
def modify (m : OrderedMap κ υ) (k : κ) (f : υ → υ) : OrderedMap κ υ :=
  ⟨m.entries.map fun p => if p.1 == k then (p.1, f p.2) else p⟩

/-! ## What an insertion does to the view -/

@[simp] theorem get?_empty (k : κ) : (∅ : OrderedMap κ υ).get? k = none := rfl

theorem lookup_insertEntry [LawfulBEq κ] (k k' : κ) (v : υ) (es : List (κ × υ)) :
    (insertEntry k v es).lookup k' = if k' == k then some v else es.lookup k' := by
  induction es with
  | nil => cases h : k' == k <;> simp [insertEntry, List.lookup_cons, h]
  | cons p rest ih =>
    obtain ⟨k₀, v₀⟩ := p
    cases h : k == k₀ with
    | true =>
      obtain rfl := eq_of_beq h
      cases h' : k' == k <;> simp [insertEntry, List.lookup_cons, h']
    | false =>
      cases h' : k' == k₀ with
      | true =>
        obtain rfl := eq_of_beq h'
        have hk : (k' == k) = false := by
          rw [← h]; exact Bool.eq_iff_iff.2 ⟨fun e => by simpa using (eq_of_beq e).symm,
            fun e => by simpa using (eq_of_beq e).symm⟩
        simp [insertEntry, h, hk]
      | false => simp [insertEntry, List.lookup_cons, h, h', ih]

/-- After an insertion the key has the new value and every other key its old one. -/
theorem get?_insert [LawfulBEq κ] (m : OrderedMap κ υ) (k k' : κ) (v : υ) :
    (m.insert k v).get? k' = if k' == k then some v else m.get? k' :=
  lookup_insertEntry k k' v m.entries

theorem keys_insertEntry [LawfulBEq κ] (k : κ) (v : υ) (es : List (κ × υ)) :
    (insertEntry k v es).map Prod.fst
      = if (es.map Prod.fst).contains k then es.map Prod.fst else es.map Prod.fst ++ [k] := by
  induction es with
  | nil => simp [insertEntry]
  | cons p rest ih =>
    obtain ⟨k₀, v₀⟩ := p
    by_cases h : k = k₀
    · subst h; simp [insertEntry]
    · simp only [insertEntry, beq_iff_eq, h, if_false, List.map_cons, ih, List.contains_cons]
      have hk : (k == k₀) = false := by simpa using h
      simp only [hk, Bool.false_or]
      split <;> simp

/-- An insertion adds its key at the end unless the key is already listed. -/
theorem keys_insert [LawfulBEq κ] (m : OrderedMap κ υ) (k : κ) (v : υ) :
    (m.insert k v).keys = if m.keys.contains k then m.keys else m.keys ++ [k] :=
  keys_insertEntry k v m.entries

/-- An insertion keeps the keys distinct. -/
theorem nodup_keys_insert [LawfulBEq κ] {m : OrderedMap κ υ} (h : m.keys.Nodup) (k : κ) (v : υ) :
    (m.insert k v).keys.Nodup := by
  rw [keys_insert]
  split
  next => exact h
  next hnew =>
    rw [List.contains_iff_mem] at hnew
    rw [List.nodup_append]
    refine ⟨h, by simp, fun k' hk' k₀ hk₀ => ?_⟩
    obtain rfl := List.mem_singleton.1 hk₀
    intro heq
    exact hnew (heq ▸ hk')

/-- A map made of pairs lists no key twice. -/
theorem nodup_keys_ofList [LawfulBEq κ] (pairs : List (κ × υ)) : (ofList pairs).keys.Nodup := by
  have hfold : ∀ m : OrderedMap κ υ, m.keys.Nodup →
      (pairs.foldl (fun m p => m.insert p.1 p.2) m).keys.Nodup := by
    induction pairs with
    | nil => exact fun m h => h
    | cons p rest ih => exact fun m h => ih _ (nodup_keys_insert h p.1 p.2)
  exact hfold ∅ List.nodup_nil

theorem get?_foldl_insert [LawfulBEq κ] (m : OrderedMap κ υ) (pairs : List (κ × υ)) (k : κ) :
    (pairs.foldl (fun m p => m.insert p.1 p.2) m).get? k
      = (((pairs.filter fun p => k == p.1).getLast?).map Prod.snd).or (m.get? k) := by
  induction pairs generalizing m with
  | nil => simp
  | cons p rest ih =>
    rw [List.foldl_cons, ih, get?_insert, List.filter_cons]
    split
    · rw [List.getLast?_cons]
      cases (rest.filter fun p => k == p.1).getLast? <;> simp
    · rfl

/-- A map made of pairs has for each key the value of the last pair with that key. -/
theorem get?_ofList [LawfulBEq κ] (pairs : List (κ × υ)) (k : κ) :
    (ofList pairs).get? k = ((pairs.filter fun p => k == p.1).getLast?).map Prod.snd := by
  rw [ofList, get?_foldl_insert, get?_empty, Option.or_none]

end OrderedMap

end PolicyForecast
