/-
  Fanout.Assoc
  ────────────
  **Lists of keys with values, one value for each key.**

  `put` replaces the value of a key where it stands and adds a new key at
  the end.  Seen through `get?` it changes one key and no other
  (`get?_put`); the keys keep the order in which they first came
  (`keys_put`).  Where no key comes twice, `get?` finds what is there
  (`get?_of_mem`), in whatever order it is there (`get?_of_perm`).  Entries
  can be left out as long as they are not asked for (`get?_filter`,
  `filter_put`).
-/

namespace Fanout.Assoc

variable {α β : Type} [DecidableEq α]

/-- The value of a key. -/
def get? (key : α) : List (α × β) → Option β
  | [] => none
  | e :: es => if e.1 = key then some e.2 else get? key es

/-- The list with a value put at a key: in place if the key is there, else at the end. -/
def put (key : α) (value : β) : List (α × β) → List (α × β)
  | [] => [(key, value)]
  | e :: es => if e.1 = key then (key, value) :: es else e :: put key value es

/-- The list without the entries of a key. -/
def erase (key : α) (es : List (α × β)) : List (α × β) := es.filter fun e => e.1 ≠ key

/-- The keys, in order. -/
def keys (es : List (α × β)) : List α := es.map (·.1)

/-- A key has the value put last, and no other key changes. -/
theorem get?_put (key other : α) (value : β) (es : List (α × β)) :
    get? other (put key value es) = if key = other then some value else get? other es := by
  induction es with
  | nil => simp [put, get?]
  | cons e es ih =>
    by_cases he : e.1 = key
    · by_cases h : key = other
      · simp [put, get?, he, h]
      · simp [put, get?, he, h]
    · by_cases h : e.1 = other
      · have hne : ¬ key = other := fun o => he (h.trans o.symm)
        rw [put, if_neg he, get?, if_pos h, if_neg hne, get?, if_pos h]
      · simp [put, get?, he, h, ih]

/-- A new key goes to the end, a known one stays where it is. -/
theorem keys_put (key : α) (value : β) :
    ∀ es : List (α × β),
      keys (put key value es) = if key ∈ keys es then keys es else keys es ++ [key]
  | [] => by simp [put, keys]
  | (k, v) :: es => by
      by_cases hk : k = key
      · simp [put, keys, hk]
      · have hne : ¬ key = k := fun e => hk e.symm
        have ih := keys_put key value es
        unfold keys at ih ⊢
        by_cases hm : key ∈ es.map (·.1)
        · rw [if_pos hm] at ih
          simp only [put, if_neg hk, List.map_cons, ih]
          rw [if_pos (List.mem_cons_of_mem _ hm)]
        · rw [if_neg hm] at ih
          simp only [put, if_neg hk, List.map_cons, ih]
          rw [if_neg (by simpa [hne] using hm)]
          rfl

section Entries

variable {key : α} {es : List (α × β)} {p : α × β → Bool}

/-- What is found is in the list. -/
theorem mem_of_get? {value : β} (h : get? key es = some value) : (key, value) ∈ es := by
  induction es with
  | nil => cases h
  | cons e es ih =>
      rw [get?] at h
      by_cases he : e.1 = key
      · rw [if_pos he] at h
        obtain rfl := Option.some.inj h
        rw [← he]
        exact List.mem_cons_self
      · rw [if_neg he] at h
        exact List.mem_cons_of_mem e (ih h)

/-- Where no key comes twice, what is in the list is found. -/
theorem get?_of_mem {value : β} (hkeys : (keys es).Nodup) (h : (key, value) ∈ es) :
    get? key es = some value := by
  induction es with
  | nil => cases h
  | cons e es ih =>
      obtain ⟨hfresh, hmore⟩ := List.nodup_cons.mp hkeys
      rw [get?]
      rcases List.mem_cons.mp h with rfl | hmem
      · rw [if_pos rfl]
      · have hother : ¬ e.1 = key := by
          rintro rfl
          exact hfresh (List.mem_map_of_mem (f := (·.1)) hmem)
        rw [if_neg hother]
        exact ih hmore hmem

/-- Where no key comes twice, the order makes no difference. -/
theorem get?_of_perm {fs : List (α × β)} (hkeys : (keys es).Nodup) (h : es.Perm fs) :
    get? key es = get? key fs := by
  have hkeys' : (keys fs).Nodup := (h.map Prod.fst).nodup hkeys
  apply Option.ext
  intro value
  constructor
  · exact fun hv => get?_of_mem hkeys' (h.mem_iff.mp (mem_of_get? hv))
  · exact fun hv => get?_of_mem hkeys (h.mem_iff.mpr (mem_of_get? hv))

/-- Leaving out entries of other keys changes nothing for a key. -/
theorem get?_filter (h : ∀ value, p (key, value) = true) :
    get? key (es.filter p) = get? key es := by
  induction es with
  | nil => rfl
  | cons e es ih =>
      by_cases he : e.1 = key
      · have hp : p e = true := by
          have hvalue := h e.2
          rw [← he] at hvalue
          exact hvalue
        rw [List.filter_cons_of_pos hp, get?, get?, if_pos he, if_pos he]
      · rw [get?, if_neg he]
        by_cases hp : p e = true
        · rw [List.filter_cons_of_pos hp, get?, if_neg he, ih]
        · rw [List.filter_cons_of_neg hp, ih]

/-- A value that is left out, put in the place of one that is left out, makes no difference. -/
theorem filter_put {value : β} (hnew : p (key, value) = false)
    (hold : ∀ v, get? key es = some v → p (key, v) = false) :
    (put key value es).filter p = es.filter p := by
  induction es with
  | nil => exact List.filter_cons_of_neg (by rw [hnew]; exact Bool.false_ne_true)
  | cons e es ih =>
      rw [put]
      by_cases he : e.1 = key
      · have hold : p e = false := by
          have hvalue := hold e.2 (by rw [get?, if_pos he])
          rw [← he] at hvalue
          exact hvalue
        rw [if_pos he, List.filter_cons_of_neg (by rw [hnew]; exact Bool.false_ne_true),
          List.filter_cons_of_neg (by rw [hold]; exact Bool.false_ne_true)]
      · have hmore := ih fun v hv => hold v (by rw [get?, if_neg he, hv])
        rw [if_neg he, List.filter_cons, List.filter_cons, hmore]

end Entries

end Fanout.Assoc
