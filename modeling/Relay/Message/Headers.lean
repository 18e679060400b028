/-!
# Headers

A finite map from names to values. It is kept as its entries in ascending order of names, so two
maps are equal exactly when they have the same entries, in whatever order these were put in.
-/

namespace Relay

/-- Application headers: each name has one value. -/
structure Headers where
  entries : List (String × String)
  ascending : entries.Pairwise fun a b => a.1 < b.1
  deriving DecidableEq

namespace Headers

/-- No headers. -/
def empty : Headers := ⟨[], .nil⟩

instance : Inhabited Headers := ⟨empty⟩

/-- Entries with a name set to a value. -/
def put (name value : String) : List (String × String) → List (String × String)
  | [] => [(name, value)]
  | e :: es =>
    if name < e.1 then (name, value) :: e :: es
    else if name = e.1 then (name, value) :: es
    else e :: put name value es

/-- Putting a name in brings in no other name. -/
theorem mem_put {name value : String} {es : List (String × String)} {e : String × String}
    (h : e ∈ put name value es) : e = (name, value) ∨ e ∈ es := by
  fun_induction put name value es <;> simp_all <;> grind

/-- Entries stay in ascending order. -/
theorem pairwise_put {name value : String} {es : List (String × String)}
    (h : es.Pairwise fun a b => a.1 < b.1) : (put name value es).Pairwise fun a b => a.1 < b.1 := by
  fun_induction put name value es with
  | case1 => simp
  | case2 e es below =>
    refine .cons (fun x member => ?_) h
    rcases List.mem_cons.1 member with rfl | member
    · exact below
    · exact String.lt_trans below (List.rel_of_pairwise_cons h member)
  | case3 e es _ same =>
    exact .cons (fun x member => same ▸ List.rel_of_pairwise_cons h member) h.of_cons
  | case4 e es notBelow differs ih =>
    refine .cons (fun x member => ?_) (ih h.of_cons)
    rcases mem_put member with rfl | member
    · exact Std.lt_of_le_of_ne (String.not_lt.1 notBelow) (Ne.symm differs)
    · exact List.rel_of_pairwise_cons h member

/-- The headers with a name set to a value, which replaces an earlier one. -/
def insert (h : Headers) (name value : String) : Headers :=
  ⟨put name value h.entries, pairwise_put h.ascending⟩

/-- The value of a name. -/
def get? (h : Headers) (name : String) : Option String := h.entries.lookup name

/-- The headers that a list of entries gives; of entries with one name the last counts. -/
def ofList (entries : List (String × String)) : Headers :=
  entries.foldl (fun h e => h.insert e.1 e.2) empty

/-- The number of headers. -/
def size (h : Headers) : Nat := h.entries.length

theorem lookup_put_self (name value : String) (es : List (String × String)) :
    (put name value es).lookup name = some value := by
  induction es with
  | nil => simp [put]
  | cons e es ih =>
    obtain ⟨key, found⟩ := e
    unfold put
    split
    · simp
    · split
      · simp
      · rename_i differs
        rw [List.lookup_cons, beq_false_of_ne differs]
        exact ih

theorem lookup_put_of_ne {name other : String} (value : String) (es : List (String × String))
    (h : other ≠ name) : (put name value es).lookup other = es.lookup other := by
  have apart : (other == name) = false := beq_false_of_ne h
  induction es with
  | nil => simp [put, List.lookup_cons, apart]
  | cons e es ih =>
    obtain ⟨key, found⟩ := e
    unfold put
    split
    · simp [List.lookup_cons, apart]
    · split
      · rename_i same
        subst same
        simp [List.lookup_cons, apart]
      · simp only [List.lookup_cons, ih]

/-- A name that was set has the value it was set to. -/
theorem get?_insert_self (h : Headers) (name value : String) :
    (h.insert name value).get? name = some value :=
  lookup_put_self name value h.entries

/-- Setting a name leaves the other names as they are. -/
theorem get?_insert_of_ne (h : Headers) {name other : String} (value : String)
    (differs : other ≠ name) : (h.insert name value).get? other = h.get? other :=
  lookup_put_of_ne value h.entries differs

end Headers

end Relay
