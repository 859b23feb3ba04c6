/-!
# Tables

A finite map that remembers the order in which its keys were first written.
Writing to a key that is there keeps its place; a key that is erased and
written again goes to the end.
-/

namespace ReserveAccounting

/-- Keys with their values, each key once, oldest first. -/
structure Table (α β : Type) where
  entries : List (α × β)
  nodup : (entries.map Prod.fst).Nodup

namespace Table

variable {α β : Type}

def empty : Table α β := ⟨[], List.nodup_nil⟩

instance : EmptyCollection (Table α β) := ⟨empty⟩
instance : Inhabited (Table α β) := ⟨empty⟩

def keys (t : Table α β) : List α := t.entries.map Prod.fst
def values (t : Table α β) : List β := t.entries.map Prod.snd
def toList (t : Table α β) : List (α × β) := t.entries

variable [DecidableEq α]

def find? (k : α) : List (α × β) → Option β
  | [] => none
  | (k', v) :: rest => if k' = k then some v else find? k rest

/-- Replaces the value at a key, or adds the key at the end. -/
def write (k : α) (v : β) : List (α × β) → List (α × β)
  | [] => [(k, v)]
  | (k', v') :: rest => if k' = k then (k, v) :: rest else (k', v') :: write k v rest

def remove (k : α) (es : List (α × β)) : List (α × β) := es.filter fun e => e.1 ≠ k

theorem mem_keys_write {k : α} {v : β} {es : List (α × β)} {x : α} :
    x ∈ (write k v es).map Prod.fst ↔ x = k ∨ x ∈ es.map Prod.fst := by
  induction es with
  | nil => simp [write]
  | cons e rest ih =>
      obtain ⟨k', v'⟩ := e
      by_cases h : k' = k
      · subst h; simp [write]
      · simp only [write, if_neg h, List.map_cons, List.mem_cons, ih]
        constructor
        · rintro (h | h | h) <;> simp [h]
        · rintro (h | h | h) <;> simp [h]

theorem nodup_write (k : α) (v : β) {es : List (α × β)} (h : (es.map Prod.fst).Nodup) :
    ((write k v es).map Prod.fst).Nodup := by
  induction es with
  | nil => simp [write]
  | cons e rest ih =>
      obtain ⟨k', v'⟩ := e
      rw [List.map_cons, List.nodup_cons] at h
      by_cases hk : k' = k
      · subst hk
        simpa [write, List.nodup_cons] using h
      · simp only [write, if_neg hk, List.map_cons, List.nodup_cons]
        exact ⟨fun hm => (mem_keys_write.1 hm).elim hk h.1, ih h.2⟩

theorem nodup_remove (k : α) {es : List (α × β)} (h : (es.map Prod.fst).Nodup) :
    ((remove k es).map Prod.fst).Nodup :=
  h.sublist (List.Sublist.map _ List.filter_sublist)

def get? (t : Table α β) (k : α) : Option β := find? k t.entries

def getD (t : Table α β) (k : α) (fallback : β) : β := (t.get? k).getD fallback

def contains (t : Table α β) (k : α) : Bool := (t.get? k).isSome

def put (t : Table α β) (k : α) (v : β) : Table α β := ⟨write k v t.entries, nodup_write k v t.nodup⟩

def erase (t : Table α β) (k : α) : Table α β := ⟨remove k t.entries, nodup_remove k t.nodup⟩

def ofList (es : List (α × β)) : Table α β := es.foldl (fun t e => t.put e.1 e.2) ∅

def ensure (t : Table α β) (k : α) (fallback : β) : Table α β :=
  match t.get? k with
  | some _ => t
  | none => t.put k fallback

theorem find?_write_self (k : α) (v : β) (es : List (α × β)) : find? k (write k v es) = some v := by
  induction es with
  | nil => simp [write, find?]
  | cons e rest ih =>
      obtain ⟨k', v'⟩ := e
      by_cases h : k' = k
      · simp [write, h, find?]
      · simp [write, h, find?, ih]

theorem find?_write_of_ne {k k' : α} (h : k' ≠ k) (v : β) (es : List (α × β)) :
    find? k' (write k v es) = find? k' es := by
  induction es with
  | nil => simp [write, find?, h.symm]
  | cons e rest ih =>
      obtain ⟨k'', v''⟩ := e
      by_cases hk : k'' = k
      · subst hk
        simp [write, find?, h.symm]
      · by_cases hk' : k'' = k'
        · subst hk'
          simp [write, h, find?]
        · simp [write, hk, find?, hk', ih]

@[simp] theorem get?_put_self (t : Table α β) (k : α) (v : β) : (t.put k v).get? k = some v :=
  find?_write_self k v t.entries

theorem get?_put_of_ne (t : Table α β) {k k' : α} (h : k' ≠ k) (v : β) :
    (t.put k v).get? k' = t.get? k' :=
  find?_write_of_ne h v t.entries

theorem get?_put (t : Table α β) (k k' : α) (v : β) :
    (t.put k v).get? k' = if k' = k then some v else t.get? k' := by
  split
  · next h => subst h; exact get?_put_self t k' v
  · next h => exact get?_put_of_ne t h v

@[simp] theorem get?_empty (k : α) : (∅ : Table α β).get? k = none := rfl

theorem mem_keys_put {t : Table α β} {k x : α} {v : β} :
    x ∈ (t.put k v).keys ↔ x = k ∨ x ∈ t.keys :=
  mem_keys_write

end Table
end ReserveAccounting
