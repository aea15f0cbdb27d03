import Missive.Dictionary
/-!
# Dictionaries laid over each other

What a dictionary says is what its names mean: two of them that give every name the same value are
the same.  So laying one over another, and filling one up from another, are settled by saying what
they do to one name.

* `Dictionary.eq_of_find?` -- a dictionary is known by the values of its names;
* `Dictionary.find?_insertAll`, `Dictionary.find?_fillFrom` -- which of two values counts;
* `Dictionary.ofList_append` -- entries behind others lie over them.
-/

namespace Missive

namespace Dictionary

variable {α : Type}

/-! ## Entries and values -/

/-- A name that is not behind the first entry's is in none of the later ones. -/
theorem lookup_rest {name : String} {entry : String × α} {rest : List (String × α)}
    (sorted : (entry :: rest).Pairwise fun a b => a.1 < b.1)
    (h : name = entry.1 ∨ name < entry.1) : rest.lookup name = none := by
  refine List.lookup_eq_none_iff.2 fun e he => ?_
  have hentry : entry.1 < e.1 := List.rel_of_pairwise_cons sorted he
  have hlt : name < e.1 := by
    rcases h with rfl | h
    · exact hentry
    · exact String.lt_trans h hentry
  exact bne_iff_ne.2 (String.ne_of_lt hlt)

theorem lookup_first (entry : String × α) (rest : List (String × α)) :
    (entry :: rest).lookup entry.1 = some entry.2 := by
  rw [List.lookup_cons, beq_self_eq_true]

theorem lookup_later {name : String} {entry : String × α} (h : name ≠ entry.1)
    (rest : List (String × α)) : (entry :: rest).lookup name = rest.lookup name := by
  rw [List.lookup_cons, beq_eq_false_iff_ne.2 h]

/-- The entries of two dictionaries with the same values begin with the same name. -/
theorem not_lt_of_lookup {a b : String × α} {as bs : List (String × α)}
    (hb : (b :: bs).Pairwise fun a b => a.1 < b.1)
    (h : ∀ name, (a :: as).lookup name = (b :: bs).lookup name) : ¬a.1 < b.1 := by
  intro hlt
  have hfirst := h a.1
  rw [lookup_first, lookup_later (String.ne_of_lt hlt), lookup_rest hb (.inr hlt)] at hfirst
  cases hfirst

theorem entries_eq_of_lookup {as bs : List (String × α)}
    (ha : as.Pairwise fun a b => a.1 < b.1) (hb : bs.Pairwise fun a b => a.1 < b.1)
    (h : ∀ name, as.lookup name = bs.lookup name) : as = bs := by
  induction as generalizing bs with
  | nil =>
    cases bs with
    | nil => rfl
    | cons b bs =>
      have hfirst := h b.1
      rw [lookup_first, List.lookup_nil] at hfirst
      cases hfirst
  | cons a as ih =>
    cases bs with
    | nil =>
      have hfirst := h a.1
      rw [lookup_first, List.lookup_nil] at hfirst
      cases hfirst
    | cons b bs =>
      have hle := String.not_lt.1 (not_lt_of_lookup hb h)
      have hge := String.not_lt.1 (not_lt_of_lookup ha fun name => (h name).symm)
      have hname : a.1 = b.1 := String.le_antisymm hge hle
      have hvalue : a.2 = b.2 := by
        have hfirst := h a.1
        rw [lookup_first, hname, lookup_first] at hfirst
        exact Option.some.inj hfirst
      have hrest : as = bs := by
        refine ih (List.Pairwise.of_cons ha) (List.Pairwise.of_cons hb) fun name => ?_
        by_cases hn : name = a.1
        · rw [lookup_rest ha (.inl hn), lookup_rest hb (.inl (hn.trans hname))]
        · rw [← lookup_later hn as, h name, lookup_later (hname ▸ hn)]
      rw [Prod.ext hname hvalue, hrest]

/-- A dictionary is known by the values of its names. -/
theorem eq_of_find? {d e : Dictionary α} (h : ∀ name, d.find? name = e.find? name) : d = e := by
  obtain ⟨as, ha⟩ := d
  obtain ⟨bs, hb⟩ := e
  obtain rfl : as = bs := entries_eq_of_lookup ha hb h
  rfl

/-! ## One over the other -/

theorem insertAll_cons (d : Dictionary α) (entry : String × α) (rest : List (String × α)) :
    d.insertAll (entry :: rest) = (d.insert entry.1 entry.2).insertAll rest := rfl

theorem insertAll_append (d : Dictionary α) (as bs : List (String × α)) :
    d.insertAll (as ++ bs) = (d.insertAll as).insertAll bs :=
  List.foldl_append

/-- Entries that are put into a dictionary count before those that are there already. -/
theorem find?_insertAll_list (d : Dictionary α) (entries : List (String × α)) (name : String) :
    (d.insertAll entries).find? name = ((ofList entries).find? name).or (d.find? name) := by
  induction entries generalizing d with
  | nil => rfl
  | cons entry rest ih =>
    rw [ofList, insertAll_cons, insertAll_cons, ih, ih (empty.insert entry.1 entry.2), find?_insert,
      find?_insert, Option.or_assoc]
    by_cases h : name = entry.1
    · rw [if_pos h, if_pos h]
      rfl
    · rw [if_neg h, if_neg h]
      rfl

/-- A dictionary laid over another one: its values count first. -/
theorem find?_insertAll (d e : Dictionary α) (name : String) :
    (d.insertAll e.entries).find? name = (e.find? name).or (d.find? name) := by
  obtain ⟨entries, sorted⟩ := e
  show (d.insertAll entries).find? name = (entries.lookup name).or (d.find? name)
  induction entries generalizing d with
  | nil => rfl
  | cons entry rest ih =>
    rw [insertAll_cons, ih _ (List.Pairwise.of_cons sorted), find?_insert]
    by_cases h : name = entry.1
    · rw [if_pos h, h, lookup_rest sorted (.inl rfl), lookup_first]
      rfl
    · rw [if_neg h, lookup_later h]

/-- Entries behind others lie over them. -/
theorem ofList_append (as bs : List (String × α)) :
    ofList (as ++ bs) = (ofList as).insertAll (ofList bs).entries := by
  refine eq_of_find? fun name => ?_
  rw [ofList, insertAll_append, find?_insertAll_list, find?_insertAll]
  rfl

/-- A dictionary filled up from another one: its own values count first. -/
theorem find?_fillFrom (d e : Dictionary α) (name : String) :
    (d.fillFrom e).find? name = (d.find? name).or (e.find? name) := by
  obtain ⟨entries, sorted⟩ := e
  show (entries.foldl (fun d e => if d.contains e.1 then d else d.insert e.1 e.2) d).find? name
    = (d.find? name).or (entries.lookup name)
  clear sorted
  induction entries generalizing d with
  | nil =>
    rw [List.lookup_nil, Option.or_none]
    rfl
  | cons entry rest ih =>
    rw [List.foldl_cons, ih]
    by_cases hknown : d.contains entry.1 = true
    · rw [if_pos hknown]
      by_cases h : name = entry.1
      · obtain ⟨v, hv⟩ := Option.isSome_iff_exists.1 hknown
        rw [h, hv]
        rfl
      · rw [lookup_later h]
    · rw [if_neg hknown, find?_insert]
      by_cases h : name = entry.1
      · have hnone : d.find? entry.1 = none := Option.not_isSome_iff_eq_none.1 hknown
        rw [if_pos h, h, hnone, lookup_first]
        rfl
      · rw [if_neg h, lookup_later h]

end Dictionary

end Missive
