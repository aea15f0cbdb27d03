/-!
# Dictionaries

Finite maps from names, kept in the order of their names, so that two maps with the same entries
are the same value.

* `Dictionary`, `empty`, `insert`, `find?`, `keys` -- the container;
* `find?_insert` -- an insertion changes one name and no other;
* `insertAll`, `fillFrom` -- laying one dictionary over or under another.
-/

namespace Missive

/-- Entries in strictly increasing order of their names. -/
structure Dictionary (α : Type) where
  entries : List (String × α)
  sorted : entries.Pairwise fun a b => a.1 < b.1

namespace Dictionary

variable {α : Type}

/-- Puts an entry where its name belongs, in place of one that has the same name. -/
def place (name : String) (value : α) : List (String × α) → List (String × α)
  | [] => [(name, value)]
  | entry :: rest =>
    if name < entry.1 then (name, value) :: entry :: rest
    else if name = entry.1 then (name, value) :: rest
    else entry :: place name value rest

theorem mem_place {name : String} {value : α} {entries : List (String × α)} {e : String × α}
    (h : e ∈ place name value entries) : e = (name, value) ∨ e ∈ entries := by
  induction entries with
  | nil => simpa [place] using h
  | cons entry rest ih =>
    simp only [place] at h
    split at h
    · simpa using h
    · split at h
      · rcases List.mem_cons.1 h with h | h
        · exact .inl h
        · exact .inr (List.mem_cons_of_mem _ h)
      · rcases List.mem_cons.1 h with h | h
        · exact .inr (h ▸ List.mem_cons_self)
        · rcases ih h with h | h
          · exact .inl h
          · exact .inr (List.mem_cons_of_mem _ h)

theorem sorted_place (name : String) (value : α) {entries : List (String × α)}
    (h : entries.Pairwise fun a b => a.1 < b.1) :
    (place name value entries).Pairwise fun a b => a.1 < b.1 := by
  induction entries with
  | nil => simp [place]
  | cons entry rest ih =>
    have hc := List.pairwise_cons.1 h
    simp only [place]
    split
    · rename_i hlt
      refine List.pairwise_cons.2 ⟨fun e he => ?_, h⟩
      rcases List.mem_cons.1 he with rfl | he
      · exact hlt
      · exact String.lt_trans hlt (hc.1 e he)
    · rename_i hge
      split
      · rename_i heq
        exact List.pairwise_cons.2 ⟨fun e he => heq ▸ hc.1 e he, hc.2⟩
      · rename_i hne
        refine List.pairwise_cons.2 ⟨fun e he => ?_, ih hc.2⟩
        rcases mem_place he with rfl | he
        · have hle : entry.1 ≤ name := String.not_lt.1 hge
          by_cases hlt : entry.1 < name
          · exact hlt
          · exact absurd (String.le_antisymm (String.not_lt.1 hlt) hle) hne
        · exact hc.1 e he

/-- The dictionary without entries. -/
def empty : Dictionary α := ⟨[], .nil⟩

instance : Inhabited (Dictionary α) := ⟨empty⟩

instance : EmptyCollection (Dictionary α) := ⟨empty⟩

/-- Sets the value of a name. -/
def insert (d : Dictionary α) (name : String) (value : α) : Dictionary α :=
  ⟨place name value d.entries, sorted_place name value d.sorted⟩

/-- The value of a name. -/
def find? (d : Dictionary α) (name : String) : Option α :=
  d.entries.lookup name

/-- Whether a name has a value. -/
def contains (d : Dictionary α) (name : String) : Bool :=
  (d.find? name).isSome

/-- The names, in order. -/
def keys (d : Dictionary α) : List String :=
  d.entries.map (·.1)

/-- The number of entries. -/
def size (d : Dictionary α) : Nat :=
  d.entries.length

/-- Whether there is no entry. -/
def isEmpty (d : Dictionary α) : Bool :=
  d.entries.isEmpty

/-- Sets all these names, one after the other. -/
def insertAll (d : Dictionary α) (entries : List (String × α)) : Dictionary α :=
  entries.foldl (fun d e => d.insert e.1 e.2) d

/-- The dictionary of a list of entries, the last one of a name counting. -/
def ofList (entries : List (String × α)) : Dictionary α :=
  empty.insertAll entries

/-- Adds the entries of another dictionary whose names have no value yet. -/
def fillFrom (d other : Dictionary α) : Dictionary α :=
  other.entries.foldl (fun d e => if d.contains e.1 then d else d.insert e.1 e.2) d

theorem lookup_place (name : String) (value : α) (entries : List (String × α)) (other : String) :
    (place name value entries).lookup other
      = if other = name then some value else entries.lookup other := by
  by_cases h : other = name
  · subst h
    induction entries with
    | nil => simp [place]
    | cons entry rest ih =>
      obtain ⟨key, stored⟩ := entry
      simp only [place]
      split
      · simp
      · split
        · simp
        · rename_i hne
          have hk : (other == key) = false := by simpa using hne
          simpa [List.lookup_cons, hk] using ih
  · have hb : (other == name) = false := by simpa using h
    induction entries with
    | nil => simp [place, List.lookup_cons, hb, h]
    | cons entry rest ih =>
      obtain ⟨key, stored⟩ := entry
      simp only [place]
      split
      · simp [List.lookup_cons, hb]
      · split
        · rename_i heq
          have hk : (other == key) = false := by simpa [← heq] using h
          simp [List.lookup_cons, hb, hk]
        · simp only [h, if_false] at ih
          simp [List.lookup_cons, ih]

theorem find?_insert (d : Dictionary α) (name other : String) (value : α) :
    (d.insert name value).find? other = if other = name then some value else d.find? other :=
  lookup_place name value d.entries other

end Dictionary

end Missive
