/-! Tables from strings to values, as lists of pairs in ascending order of the keys. The order of the
keys is that of their code points, which is also that of their UTF-8 bytes. -/
namespace ProxyWatch

abbrev Dictionary (α : Type u) := List (String × α)

namespace Dictionary
variable {α : Type u} {β : Type v}

def get? : Dictionary α → String → Option α
  | [], _ => none
  | (key, value) :: rest, wanted => if key = wanted then some value else get? rest wanted

def contains (table : Dictionary α) (key : String) : Bool := (table.get? key).isSome

/-- Replaces the value of a present key and puts a new key in its place in the order. -/
def insert : Dictionary α → String → α → Dictionary α
  | [], key, value => [(key, value)]
  | (head, old) :: rest, key, value =>
    if head = key then (key, value) :: rest
    else if key < head then (key, value) :: (head, old) :: rest
    else (head, old) :: insert rest key value

def erase (table : Dictionary α) (key : String) : Dictionary α := table.filter (·.1 != key)

/-- The last of several pairs with one key wins. -/
def ofList (pairs : List (String × α)) : Dictionary α :=
  pairs.foldl (fun table pair => insert table pair.1 pair.2) []

def keys (table : Dictionary α) : List String := table.map (·.1)

def mapValues (f : α → β) (table : Dictionary α) : Dictionary β :=
  table.map fun pair => (pair.1, f pair.2)

theorem get?_insert (table : Dictionary α) (key other : String) (value : α) :
    (table.insert key value).get? other = if key = other then some value else table.get? other := by
  induction table with
  | nil => simp [insert, get?]
  | cons pair rest ih =>
    obtain ⟨head, old⟩ := pair
    by_cases same : head = key
    · subst same
      simp only [insert, if_true, get?]
      split <;> rfl
    · by_cases before : key < head
      · simp [insert, same, before, get?]
      · simp only [insert, same, before, if_false, get?, ih]
        by_cases hit : head = other
        · subst hit; simp [Ne.symm same]
        · simp [hit]

theorem get?_erase (table : Dictionary α) (key other : String) :
    (table.erase key).get? other = if key = other then none else table.get? other := by
  induction table with
  | nil => simp [erase, get?]
  | cons pair rest ih =>
    obtain ⟨head, old⟩ := pair
    simp only [erase, List.filter_cons] at ih ⊢
    by_cases same : head = key
    · subst same
      simp only [bne_self_eq_false, Bool.false_eq_true, if_false, ih, get?]
      split <;> rfl
    · have kept : (head != key) = true := by simp [same]
      simp only [kept, if_true, get?, ih]
      by_cases hit : head = other
      · subst hit; simp [Ne.symm same]
      · simp [hit]

end Dictionary
end ProxyWatch
