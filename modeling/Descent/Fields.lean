/-!
Named fields, kept in ascending order of their names.

A collection of fields is a list of pairs whose names strictly increase, so that two collections
are equal as soon as they hold the same fields. `find?_insert` and `find?_erase` say what a look-up
sees after a change.
-/

namespace Descent

/-- The list in which `name` has the value `value`, put at its place in the order of names. -/
def insertField (name : String) (value : α) : List (String × α) → List (String × α)
  | [] => [(name, value)]
  | (other, old) :: rest =>
    if name < other then (name, value) :: (other, old) :: rest
    else if name = other then (name, value) :: rest
    else (other, old) :: insertField name value rest

/-- The value of the first field called `name`. -/
def findField? (name : String) : List (String × α) → Option α
  | [] => none
  | (other, value) :: rest => if name = other then some value else findField? name rest

/-- A name that stands with one value only has that value. -/
theorem findField?_eq_some {name : String} {value : α} {fields : List (String × α)}
    (there : (name, value) ∈ fields) (only : ∀ v, (name, v) ∈ fields → v = value) :
    findField? name fields = some value := by
  induction fields with
  | nil => cases there
  | cons f rest ih =>
    obtain ⟨other, v⟩ := f
    rw [findField?]
    split
    · rename_i eq
      subst eq
      rw [only v List.mem_cons_self]
    · rename_i ne
      have behind : (name, value) ∈ rest := by simpa [ne] using there
      exact ih behind fun w hw => only w (List.mem_cons_of_mem _ hw)

theorem findField?_eq_none_iff {name : String} {fields : List (String × α)} :
    findField? name fields = none ↔ ∀ f ∈ fields, f.1 ≠ name := by
  induction fields with
  | nil => simp [findField?]
  | cons f rest ih =>
    rw [findField?, List.forall_mem_cons, ← ih]
    by_cases eq : name = f.1
    · simp [eq]
    · simp [eq, Ne.symm eq]

/-- Every field of `insertField name value fields` is the new one or an old one. -/
theorem mem_insertField {name : String} {value : α} {fields : List (String × α)} {f : String × α}
    (h : f ∈ insertField name value fields) : f = (name, value) ∨ f ∈ fields := by
  induction fields with
  | nil => simpa [insertField] using h
  | cons g rest ih => grind [insertField]

/-- Putting a field in keeps the names in strictly ascending order. -/
theorem insertField_ascending {name : String} {value : α} {fields : List (String × α)}
    (h : fields.Pairwise (·.1 < ·.1)) :
    (insertField name value fields).Pairwise (·.1 < ·.1) := by
  induction fields with
  | nil => simp [insertField]
  | cons g rest ih =>
    obtain ⟨other, old⟩ := g
    obtain ⟨below, tail⟩ := List.pairwise_cons.1 h
    rw [insertField]
    split
    · rename_i lt
      refine List.pairwise_cons.2 ⟨fun f hf => ?_, h⟩
      rcases List.mem_cons.1 hf with rfl | hf
      · exact lt
      · exact String.lt_trans lt (below f hf)
    · split
      · rename_i eq
        subst eq
        exact List.pairwise_cons.2 ⟨below, tail⟩
      · rename_i nlt ne
        have gt : other < name :=
          Decidable.byContradiction fun h => ne (Std.Trichotomous.trichotomous _ _ nlt h)
        refine List.pairwise_cons.2 ⟨fun f hf => ?_, ih tail⟩
        rcases mem_insertField hf with rfl | hf
        · exact gt
        · exact below f hf

/-- A field whose name comes after all others is put at the end. -/
theorem insertField_of_above {name : String} {value : α} {fields : List (String × α)}
    (h : ∀ f ∈ fields, f.1 < name) : insertField name value fields = fields ++ [(name, value)] := by
  induction fields with
  | nil => rfl
  | cons f rest ih =>
    have below : f.1 < name := h f (by simp)
    have ne : name ≠ f.1 := fun eq => String.lt_irrefl name (eq ▸ below)
    rw [insertField, if_neg (String.lt_asymm below), if_neg ne, ih fun g hg => h g (by simp [hg])]
    rfl

/-- Named fields in strictly ascending order of their names. -/
@[ext]
structure Fields (α : Type) where
  entries : List (String × α)
  ascending : entries.Pairwise (·.1 < ·.1)

namespace Fields

variable {α : Type}

instance [DecidableEq α] : DecidableEq (Fields α) := fun a b =>
  decidable_of_iff (a.entries = b.entries) Fields.ext_iff.symm

def empty : Fields α := ⟨[], List.Pairwise.nil⟩

instance : Inhabited (Fields α) := ⟨empty⟩

def insert (fields : Fields α) (name : String) (value : α) : Fields α :=
  ⟨insertField name value fields.entries, insertField_ascending fields.ascending⟩

def erase (fields : Fields α) (name : String) : Fields α :=
  ⟨fields.entries.filter (·.1 ≠ name), fields.ascending.filter _⟩

def find? (fields : Fields α) (name : String) : Option α := findField? name fields.entries

/-- The fields of a list of pairs; of two pairs with one name the later counts. -/
def ofList (pairs : List (String × α)) : Fields α :=
  pairs.foldl (fun fields p => fields.insert p.1 p.2) empty

def names (fields : Fields α) : List String := fields.entries.map (·.1)

/-- Fields put in one after the other, in ascending order, stand in that order. -/
theorem entries_foldl_insert (rest : List (String × α)) (fields : Fields α)
    (h : (fields.entries ++ rest).Pairwise (·.1 < ·.1)) :
    (rest.foldl (fun fs p => fs.insert p.1 p.2) fields).entries = fields.entries ++ rest := by
  induction rest generalizing fields with
  | nil => simp
  | cons p rest ih =>
    have above : ∀ f ∈ fields.entries, f.1 < p.1 := fun f hf =>
      (List.pairwise_append.1 h).2.2 f hf p (by simp)
    have put : (fields.insert p.1 p.2).entries = fields.entries ++ [p] :=
      insertField_of_above above
    rw [List.foldl_cons, ih _ (by simpa [put] using h), put]
    simp

/-- A collection of fields is built again from its entries. -/
theorem ofList_entries (fields : Fields α) : ofList fields.entries = fields :=
  Fields.ext (by simpa [ofList, empty] using
    entries_foldl_insert fields.entries empty (by simpa [empty] using fields.ascending))

theorem find?_empty (name : String) : (empty : Fields α).find? name = none := rfl

theorem find?_insert (fields : Fields α) (name other : String) (value : α) :
    (fields.insert name value).find? other =
      if other = name then some value else fields.find? other := by
  obtain ⟨entries, _⟩ := fields
  simp only [find?, insert]
  induction entries with
  | nil => simp [insertField, findField?]
  | cons g rest ih => grind [insertField, findField?]

theorem find?_erase (fields : Fields α) (name other : String) :
    (fields.erase name).find? other = if other = name then none else fields.find? other := by
  obtain ⟨entries, _⟩ := fields
  simp only [find?, erase]
  induction entries with
  | nil => simp [findField?]
  | cons g rest ih => grind [findField?]

end Fields

end Descent
