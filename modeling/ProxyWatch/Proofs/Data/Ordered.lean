import ProxyWatch.Data.Dictionary

/-! Tables whose keys ascend: every key is in them once, and a filter hides or shows no other entry. -/
namespace ProxyWatch.Dictionary
variable {α : Type u} {table : Dictionary α} {key : String} {value : α}

def IsOrdered (table : Dictionary α) : Prop := table.Pairwise (·.1 < ·.1)

def IsDistinct (table : Dictionary α) : Prop := table.Pairwise (·.1 ≠ ·.1)

theorem IsOrdered.isDistinct (ordered : table.IsOrdered) : table.IsDistinct := by
  refine ordered.imp ?_
  intro first second before same
  exact String.lt_irrefl second.1 (same ▸ before)

theorem isOrdered_nil : IsOrdered ([] : Dictionary α) := List.Pairwise.nil

theorem mem_insert (member : pair ∈ table.insert key value) : pair = (key, value) ∨ pair ∈ table := by
  induction table with
  | nil => exact .inl (List.mem_singleton.mp member)
  | cons head rest ih =>
    obtain ⟨name, old⟩ := head
    simp only [insert] at member
    split at member
    · rcases List.mem_cons.mp member with new | kept
      · exact .inl new
      · exact .inr (List.mem_cons_of_mem _ kept)
    split at member
    · exact List.mem_cons.mp member
    · rcases List.mem_cons.mp member with first | later
      · exact .inr (first ▸ List.mem_cons_self)
      · rcases ih later with new | kept
        · exact .inl new
        · exact .inr (List.mem_cons_of_mem _ kept)

theorem insert_perm (new : table.get? key = none) (value : α) :
    (table.insert key value).Perm ((key, value) :: table) := by
  induction table with
  | nil => exact .refl _
  | cons head rest ih =>
    obtain ⟨name, old⟩ := head
    simp only [get?] at new
    split at new
    · cases new
    · rename_i other
      simp only [insert, if_neg other]
      split
      · exact .refl _
      · exact ((ih new).cons (name, old)).trans (.swap (key, value) (name, old) rest)

theorem isOrdered_insert (ordered : table.IsOrdered) (key : String) (value : α) :
    (table.insert key value).IsOrdered := by
  induction table with
  | nil => exact List.pairwise_singleton _ _
  | cons head rest ih =>
    obtain ⟨name, old⟩ := head
    obtain ⟨least, rest_ordered⟩ := List.pairwise_cons.mp ordered
    simp only [insert]
    split
    · rename_i same
      subst same
      exact List.pairwise_cons.mpr ⟨least, rest_ordered⟩
    split
    · rename_i before
      refine List.pairwise_cons.mpr ⟨?_, ordered⟩
      intro pair member
      rcases List.mem_cons.mp member with first | later
      · exact first ▸ before
      · exact String.lt_trans before (least pair later)
    · rename_i other notBefore
      have after : name < key := by
        refine Classical.byContradiction fun notAfter => other ?_
        exact String.le_antisymm (String.not_lt.mp notBefore) (String.not_lt.mp notAfter)
      refine List.pairwise_cons.mpr ⟨?_, ih rest_ordered⟩
      intro pair member
      rcases mem_insert member with new | kept
      · exact new ▸ after
      · exact least pair kept

theorem isOrdered_ofList (pairs : List (String × α)) : (ofList pairs).IsOrdered := by
  suffices ∀ table : Dictionary α, table.IsOrdered →
      (pairs.foldl (fun table pair => insert table pair.1 pair.2) table).IsOrdered from
    this [] isOrdered_nil
  induction pairs with
  | nil => exact fun _ ordered => ordered
  | cons pair rest ih => exact fun _ ordered => ih _ (isOrdered_insert ordered _ _)

theorem mem_ofList {pairs : List (String × α)} (member : pair ∈ ofList pairs) : pair ∈ pairs := by
  suffices ∀ table : Dictionary α,
      pair ∈ pairs.foldl (fun table pair => insert table pair.1 pair.2) table →
        pair ∈ table ∨ pair ∈ pairs by
    rcases this [] member with none | listed
    · cases none
    · exact listed
  clear member
  induction pairs with
  | nil => exact fun _ member => .inl member
  | cons head rest ih =>
    intro table member
    rcases ih _ member with inserted | later
    · rcases mem_insert inserted with rfl | old
      · exact .inr List.mem_cons_self
      · exact .inl old
    · exact .inr (List.mem_cons_of_mem _ later)

private theorem insert_of_greatest (greatest : ∀ pair ∈ table, pair.1 < key) (value : α) :
    table.insert key value = table ++ [(key, value)] := by
  induction table with
  | nil => rfl
  | cons head rest ih =>
    obtain ⟨name, old⟩ := head
    have before : name < key := greatest _ List.mem_cons_self
    have other : name ≠ key := fun same => String.lt_irrefl key (same ▸ before)
    have notAfter : ¬ key < name := String.lt_asymm before
    have rest_greatest := ih fun pair member => greatest pair (List.mem_cons_of_mem _ member)
    simp only [insert, if_neg other, if_neg notAfter, rest_greatest, List.cons_append]

theorem ofList_of_isOrdered (ordered : table.IsOrdered) : ofList table = table := by
  suffices ∀ done : Dictionary α, IsOrdered (done ++ table) →
      table.foldl (fun table pair => insert table pair.1 pair.2) done = done ++ table from
    this [] ordered
  clear ordered
  induction table with
  | nil => intro done _; simp
  | cons head rest ih =>
    intro done ordered
    have greatest : ∀ pair ∈ done, pair.1 < head.1 := fun pair member =>
      (List.pairwise_append.mp ordered).2.2 pair member head List.mem_cons_self
    rw [List.foldl_cons, insert_of_greatest greatest, ih, List.append_assoc]
    · rfl
    · rwa [List.append_assoc]

theorem isOrdered_filter (ordered : table.IsOrdered) (keep : String × α → Bool) :
    IsOrdered (table.filter keep) :=
  List.Pairwise.filter keep ordered

theorem mem_of_get? (found : table.get? key = some value) : (key, value) ∈ table := by
  induction table with
  | nil => simp [get?] at found
  | cons head rest ih =>
    obtain ⟨name, old⟩ := head
    simp only [get?] at found
    split at found
    · rename_i same
      cases found
      exact same ▸ List.mem_cons_self
    · exact List.mem_cons_of_mem _ (ih found)

theorem get?_of_mem (distinct : table.IsDistinct) (member : (key, value) ∈ table) :
    table.get? key = some value := by
  induction table with
  | nil => cases member
  | cons head rest ih =>
    obtain ⟨name, old⟩ := head
    obtain ⟨unique, rest_distinct⟩ := List.pairwise_cons.mp distinct
    rcases List.mem_cons.mp member with first | later
    · cases first
      simp [get?]
    · simp only [get?, if_neg (unique _ later), ih rest_distinct later]

theorem mem_iff_get? (distinct : table.IsDistinct) :
    (key, value) ∈ table ↔ table.get? key = some value :=
  ⟨get?_of_mem distinct, mem_of_get?⟩

theorem get?_filter_iff (distinct : table.IsDistinct) (keep : String × α → Bool) :
    Dictionary.get? (table.filter keep) key = some value ↔
      table.get? key = some value ∧ keep (key, value) = true := by
  rw [← mem_iff_get? distinct, ← mem_iff_get? (List.Pairwise.filter keep distinct), List.mem_filter]

variable {β : Type v}

theorem isOrdered_map (ordered : table.IsOrdered) (f : String → α → β) :
    IsOrdered (table.map fun (key, value) => (key, f key value)) :=
  List.pairwise_map.mpr ordered

theorem foldl_insert_of_isOrdered (ordered : table.IsOrdered) (f : String → α → β) :
    table.foldl (fun built (key, value) => Dictionary.insert built key (f key value)) [] =
      table.map fun (key, value) => (key, f key value) := by
  rw [← ofList_of_isOrdered (isOrdered_map ordered f), ofList, List.foldl_map]

theorem get?_map (table : Dictionary α) (f : String → α → β) (key : String) :
    Dictionary.get? (table.map fun (key, value) => (key, f key value)) key =
      (table.get? key).map (f key) := by
  induction table with
  | nil => rfl
  | cons head rest ih =>
    obtain ⟨name, value⟩ := head
    by_cases same : name = key
    · subst same
      simp [get?]
    · simpa [get?, same] using ih

end ProxyWatch.Dictionary
