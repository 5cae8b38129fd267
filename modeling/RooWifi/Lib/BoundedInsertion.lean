import Mathlib.Data.List.Induction
import Mathlib.Data.List.Sort

/-! # Keeping the best `n` in an array of `n`

Entries arrive one at a time and are inserted by shifting in a fixed array,
whose last entry falls out when it is full. For any order of precedence this is
insertion into a list cut to `n`; what the order ranks below `n` others stays. -/
namespace BoundedInsertion

variable {α : Type} {n : Nat}

/-- A fixed array of `n` whose first `retained` slots are in use. -/
structure Slots (α : Type) (n : Nat) where
  slots : Vector α n
  retained : Nat
  le : retained ≤ n

namespace Slots

/-- The entries in use. -/
def items (s : Slots α n) : List α := s.slots.toList.take s.retained

/-- No entry in use. -/
def cleared (s : Slots α n) : Slots α n := { s with retained := 0, le := Nat.zero_le n }

/-- An array of default entries. -/
def fresh (n : Nat) (a : α) : Slots α n := ⟨.replicate n a, 0, Nat.zero_le n⟩

/-- Changes the first entry in use that satisfies `p`. -/
def modifyFirst (p : α → Bool) (f : α → α) (s : Slots α n) : Slots α n :=
  match s.items.findIdx? p with
  | none => s
  | some i => { s with slots := .ofFn fun j => if j.val = i then f s.slots[j] else s.slots[j] }

/-- Changes every entry in use. -/
def mapItems (f : α → α) (s : Slots α n) : Slots α n :=
  { s with slots := .ofFn fun j => if j.val < s.retained then f s.slots[j] else s.slots[j] }

/-- The loop `for (; j > at; --j) next[j] = next[j - 1]`. -/
def shift (v : Vector α n) (at_ : Nat) : (j : Nat) → j < n → Vector α n
  | 0, _ => v
  | j + 1, h =>
    if at_ < j + 1 then shift (v.set (j + 1) v[j]) at_ j (Nat.lt_of_succ_lt h) else v

/-! ## As lists -/

@[simp] theorem length_items (s : Slots α n) : s.items.length = s.retained := by
  rw [items, List.length_take, Vector.length_toList, Nat.min_eq_left s.le]

theorem length_items_le (s : Slots α n) : s.items.length ≤ n := by
  rw [length_items]
  exact s.le

theorem getElem?_items (s : Slots α n) (i : Nat) :
    s.items[i]? = if i < s.retained then s.slots[i]? else none := by
  simp only [items, List.getElem?_take, Vector.getElem?_toList]

@[simp] theorem items_cleared (s : Slots α n) : s.cleared.items = [] := List.take_zero

@[simp] theorem items_fresh (a : α) : (fresh n a).items = [] := List.take_zero

/-- Changes the first entry of a list that satisfies `p`. -/
def updateFirst (p : α → Bool) (f : α → α) : List α → List α
  | [] => []
  | a :: l => if p a then f a :: l else a :: updateFirst p f l

theorem getElem?_updateFirst (p : α → Bool) (f : α → α) (l : List α) (i : Nat) :
    (updateFirst p f l)[i]? = if l.findIdx? p = some i then l[i]?.map f else l[i]? := by
  induction l generalizing i with
  | nil => simp [updateFirst]
  | cons a l ih =>
    by_cases h : p a = true
    · cases i <;> simp [updateFirst, h, List.findIdx?_cons]
    · cases i with
      | zero => simp [updateFirst, h, List.findIdx?_cons]
      | succ i => simp [updateFirst, h, List.findIdx?_cons, ih]

theorem mem_updateFirst {p : α → Bool} {f : α → α} {l : List α} {x : α}
    (h : x ∈ updateFirst p f l) : x ∈ l ∨ ∃ y ∈ l, p y = true ∧ x = f y := by
  induction l with
  | nil => cases h
  | cons a l ih =>
    rw [updateFirst] at h
    split at h
    · rename_i hp
      rcases List.mem_cons.mp h with rfl | h
      · exact .inr ⟨a, List.mem_cons_self, hp, rfl⟩
      · exact .inl (List.mem_cons_of_mem a h)
    · rcases List.mem_cons.mp h with rfl | h
      · exact .inl List.mem_cons_self
      · rcases ih h with h | ⟨y, old, rest⟩
        · exact .inl (List.mem_cons_of_mem a h)
        · exact .inr ⟨y, List.mem_cons_of_mem a old, rest⟩

/-- The change in place of the entry that is found. -/
theorem updateFirst_of_find {p : α → Bool} {l : List α} {c : α} (h : l.find? p = some c)
    (f : α → α) : ∃ a b, l = a ++ c :: b ∧ updateFirst p f l = a ++ f c :: b := by
  induction l with
  | nil => cases h
  | cons x l ih =>
    rw [List.find?_cons] at h
    rw [updateFirst]
    split at h
    · rename_i hit
      cases h
      rw [if_pos hit]
      exact ⟨[], l, rfl, rfl⟩
    · rename_i miss
      rw [if_neg (by simp [miss])]
      obtain ⟨a, b, same, changed⟩ := ih h
      exact ⟨x :: a, b, congrArg (x :: ·) same, congrArg (x :: ·) changed⟩

theorem mem_updateFirst_of_find {p : α → Bool} {f : α → α} {l : List α} {c : α}
    (h : l.find? p = some c) : f c ∈ updateFirst p f l := by
  obtain ⟨a, b, -, changed⟩ := updateFirst_of_find h f
  rw [changed]
  exact List.mem_append_right a List.mem_cons_self

/-- An entry is changed or stays. -/
theorem mem_updateFirst_of_mem {p : α → Bool} {f : α → α} {l : List α} {x : α} (h : x ∈ l) :
    x ∈ updateFirst p f l ∨ f x ∈ updateFirst p f l := by
  induction l with
  | nil => cases h
  | cons a l ih =>
    rw [updateFirst]
    rcases List.mem_cons.mp h with rfl | h
    · split
      · exact .inr List.mem_cons_self
      · exact .inl List.mem_cons_self
    · split
      · exact .inl (List.mem_cons_of_mem _ h)
      · exact (ih h).imp (List.mem_cons_of_mem a) (List.mem_cons_of_mem a)

/-- What the change does not touch stays. -/
theorem map_updateFirst {β : Type} (p : α → Bool) {f : α → α} {g : α → β}
    (same : ∀ a, g (f a) = g a) (l : List α) : (updateFirst p f l).map g = l.map g := by
  induction l with
  | nil => rfl
  | cons a l ih =>
    rw [updateFirst]
    split
    · rw [List.map_cons, List.map_cons, same]
    · rw [List.map_cons, List.map_cons, ih]

@[simp] theorem items_modifyFirst (p : α → Bool) (f : α → α) (s : Slots α n) :
    (s.modifyFirst p f).items = updateFirst p f s.items := by
  refine List.ext_getElem? fun i => ?_
  rw [getElem?_updateFirst]
  unfold modifyFirst
  split
  · rename_i absent
    simp [absent]
  · rename_i k found
    simp only [getElem?_items, found, Option.some.injEq]
    have := s.le
    by_cases hi : i < s.retained <;> by_cases hk : k = i <;> grind

@[simp] theorem items_mapItems (f : α → α) (s : Slots α n) :
    (s.mapItems f).items = s.items.map f := by
  refine List.ext_getElem? fun i => ?_
  simp only [mapItems, getElem?_items, List.getElem?_map]
  by_cases hi : i < s.retained <;> grind

/-! ## Insertion -/

/-- Inserts `x` before the first entry in use it goes `before`, or after the
last; an array without a slot for it stays as it is. -/
def insert (before : α → α → Bool) (x : α) (s : Slots α n) : Slots α n :=
  let at_ := s.items.findIdx (before x)
  if full : at_ = n then s
  else
    have room : at_ < n :=
      lt_of_le_of_ne (List.findIdx_le_length.trans s.length_items_le) full
    let retained := if s.retained < n then s.retained + 1 else s.retained
    have le : retained ≤ n := by
      have := s.le
      dsimp only [retained]
      split <;> omega
    { slots := (shift s.slots at_ (retained - 1) (by omega)).set at_ x room, retained, le }

theorem getElem_shift (v : Vector α n) (at_ j : Nat) (h : j < n) (i : Nat) (hi : i < n) :
    (shift v at_ j h)[i] = if at_ < i ∧ i ≤ j then v[i - 1] else v[i] := by
  induction j generalizing v with
  | zero =>
    rw [if_neg (by omega)]
    rfl
  | succ j ih =>
    by_cases more : at_ < j + 1
    · simp only [shift, more, if_true, ih]
      grind
    · simp only [shift, more, if_false]
      exact (if_neg (by omega)).symm

theorem getElem?_orderedInsert (before : α → α → Bool) (x : α) (l : List α) (i : Nat) :
    (l.orderedInsert (fun a b => before a b = true) x)[i]? =
      if i < l.findIdx (before x) then l[i]?
      else if i = l.findIdx (before x) then some x else l[i - 1]? := by
  induction l generalizing i with
  | nil => cases i <;> simp
  | cons a l ih =>
    by_cases h : before x a = true
    · cases i <;> simp [List.findIdx_cons, h]
    · cases i with
      | zero => simp [List.findIdx_cons, h]
      | succ i =>
        simp only [List.orderedInsert_cons, h, Bool.false_eq_true, if_false,
          List.getElem?_cons_succ, ih, List.findIdx_cons, cond_false, Nat.add_lt_add_iff_right,
          Nat.add_right_cancel_iff, Nat.add_sub_cancel]
        grind

/-- **Insertion with shifting is ordered insertion,** cut to the array. -/
theorem items_insert (before : α → α → Bool) (x : α) (s : Slots α n) :
    (s.insert before x).items =
      (s.items.orderedInsert (fun a b => before a b = true) x).take n := by
  refine List.ext_getElem? fun i => ?_
  rw [List.getElem?_take, getElem?_orderedInsert]
  have le := s.le
  have bound : s.items.findIdx (before x) ≤ s.retained :=
    s.length_items ▸ List.findIdx_le_length
  unfold insert
  dsimp only
  split
  · rename_i full
    -- every slot is in use and `x` goes after all of them
    by_cases hi : i < n
    · rw [if_pos hi, if_pos (by omega)]
    · rw [if_neg hi, getElem?_items, if_neg (by omega)]
  · rename_i room
    simp only [getElem?_items]
    grind [getElem_shift]

theorem insert_subset (before : α → α → Bool) (x : α) (s : Slots α n) {a : α}
    (h : a ∈ (s.insert before x).items) : a = x ∨ a ∈ s.items := by
  rw [items_insert] at h
  exact (List.mem_orderedInsert _).mp (List.mem_of_mem_take h)

end Slots

/-! ## Many arrivals -/

/-- The entries of `xs` inserted in the order of their arrival. -/
def insertAll (before : α → α → Bool) (xs : List α) (s : Slots α n) : Slots α n :=
  xs.foldl (fun s x => s.insert before x) s

section InsertAll

variable {before : α → α → Bool}

@[simp] theorem insertAll_nil (s : Slots α n) : insertAll before [] s = s := rfl

@[simp] theorem insertAll_cons (x : α) (xs : List α) (s : Slots α n) :
    insertAll before (x :: xs) s = insertAll before xs (s.insert before x) := rfl

theorem insertAll_append (xs ys : List α) (s : Slots α n) :
    insertAll before (xs ++ ys) s = insertAll before ys (insertAll before xs s) :=
  List.foldl_append

/-- Nothing else gets in. -/
theorem insertAll_subset {xs : List α} {s : Slots α n} {a : α}
    (h : a ∈ (insertAll before xs s).items) : a ∈ xs ∨ a ∈ s.items := by
  induction xs generalizing s with
  | nil => exact .inr h
  | cons x xs ih =>
    rcases ih h with h | h
    · exact .inl (List.mem_cons_of_mem x h)
    · rcases Slots.insert_subset before x s h with rfl | h
      · exact .inl List.mem_cons_self
      · exact .inr h

variable (before) in
theorem countP_insertAll (p : α → Bool) (xs : List α) (s : Slots α n) :
    (insertAll before xs s).items.countP p ≤ s.items.countP p + xs.countP p := by
  induction xs generalizing s with
  | nil => exact Nat.le_refl _
  | cons x xs ih =>
    refine (ih (s.insert before x)).trans ?_
    have one : (s.insert before x).items.countP p ≤ (x :: s.items).countP p := by
      rw [Slots.items_insert]
      refine (List.take_sublist n _).countP_le.trans ?_
      rw [(List.perm_orderedInsert _ x s.items).countP_eq]
    rw [List.countP_cons] at one ⊢
    omega

/-- A strict order in which being ahead of an entry is being ahead of, or
behind, any other one. -/
structure Ranking (before : α → α → Bool) : Prop where
  asymm : ∀ a b, before a b = true → before b a = false
  split : ∀ a b c, before a b = true → before a c = true ∨ before c b = true

/-- Every entry is ranked no lower than those after it. -/
def Ranked (before : α → α → Bool) (l : List α) : Prop :=
  l.Pairwise fun a b => before b a = false

theorem Ranking.orderedInsert (h : Ranking before) {l : List α} (ranked : Ranked before l) (x : α) :
    Ranked before (l.orderedInsert (fun a b => before a b = true) x) := by
  induction l with
  | nil => exact List.pairwise_singleton _ x
  | cons a l ih =>
    obtain ⟨head, tail⟩ := List.pairwise_cons.mp ranked
    rw [List.orderedInsert_cons]
    split
    · rename_i ahead
      refine List.pairwise_cons.mpr ⟨?_, ranked⟩
      intro b mem
      rcases List.mem_cons.mp mem with rfl | mem
      · exact h.asymm x b ahead
      · -- a later entry ahead of `x` would be ahead of `a`
        by_contra late
        rcases h.split b x a (by simpa using late) with early | behind
        · exact absurd early (by simp [head b mem])
        · exact absurd (h.asymm x a ahead) (by simp [behind])
    · rename_i behind
      refine List.pairwise_cons.mpr ⟨?_, ih tail⟩
      intro b mem
      rcases (List.mem_orderedInsert _).mp mem with rfl | mem
      · simpa using behind
      · exact head b mem

theorem Ranking.insertAll (h : Ranking before) {xs : List α} {s : Slots α n}
    (ranked : Ranked before s.items) : Ranked before (insertAll before xs s).items := by
  induction xs generalizing s with
  | nil => exact ranked
  | cons x xs ih =>
    refine ih (s := s.insert before x) ?_
    rw [Slots.items_insert]
    exact (h.orderedInsert ranked x).sublist (List.take_sublist n _)

/-- `c` is kept with nothing ahead of it but `front`. -/
def KeptAfter (before : α → α → Bool) (c : α) (k : Nat) (l : List α) : Prop :=
  ∃ front back, l = front ++ c :: back ∧ (∀ y ∈ front, before c y = false) ∧ front.length ≤ k

theorem KeptAfter.mem {c : α} {k : Nat} {l : List α} (h : KeptAfter before c k l) : c ∈ l := by
  obtain ⟨front, back, rfl, -⟩ := h
  simp

theorem KeptAfter.take {c : α} {k : Nat} {l : List α} (h : KeptAfter before c k l) (room : k < n) :
    KeptAfter before c k (l.take n) := by
  obtain ⟨front, back, rfl, level, le⟩ := h
  refine ⟨front, back.take (n - front.length - 1), ?_, level, le⟩
  obtain ⟨m, hm⟩ : ∃ m, n - front.length = m + 1 := ⟨n - front.length - 1, by omega⟩
  rw [List.take_append, hm, List.take_succ_cons, Nat.add_sub_cancel,
    List.take_of_length_le (by omega)]

/-- An arrival ahead of `c` goes somewhere before it. -/
theorem Ranking.insert_ahead (h : Ranking before) {c x : α} (ahead : before x c = true)
    {front : List α} (back : List α) (level : ∀ y ∈ front, before c y = false) :
    KeptAfter before c (front.length + 1)
      ((front ++ c :: back).orderedInsert (fun a b => before a b = true) x) := by
  have own : before c x = false := h.asymm x c ahead
  induction front with
  | nil =>
    refine ⟨[x], back, ?_, ?_, Nat.le_refl _⟩
    · rw [List.nil_append, List.orderedInsert_cons, if_pos ahead]
      rfl
    · intro y mem
      rwa [List.mem_singleton.mp mem]
  | cons y front ih =>
    have level' : ∀ z ∈ front, before c z = false :=
      fun z mem => level z (List.mem_cons_of_mem y mem)
    rw [List.cons_append, List.orderedInsert_cons]
    split
    · refine ⟨x :: y :: front, back, rfl, ?_, Nat.le_refl _⟩
      intro z mem
      rcases List.mem_cons.mp mem with rfl | mem
      · exact own
      · exact level z mem
    · obtain ⟨front', back', same, level', le⟩ := ih level'
      refine ⟨y :: front', back', by rw [same]; rfl, ?_, Nat.succ_le_succ le⟩
      intro z mem
      rcases List.mem_cons.mp mem with rfl | mem
      · exact level z List.mem_cons_self
      · exact level' z mem

/-- Any other arrival goes somewhere after it. -/
theorem Ranking.insert_behind (h : Ranking before) {c x : α} (behind : before x c = false)
    {front : List α} (back : List α) (level : ∀ y ∈ front, before c y = false) :
    KeptAfter before c front.length
      ((front ++ c :: back).orderedInsert (fun a b => before a b = true) x) := by
  refine ⟨front, back.orderedInsert (fun a b => before a b = true) x, ?_, level, Nat.le_refl _⟩
  induction front with
  | nil => rw [List.nil_append, List.orderedInsert_cons, behind, if_neg Bool.false_ne_true]; rfl
  | cons y front ih =>
    have late : before x y = false := by
      by_contra early
      rcases h.split x y c (by simpa using early) with ahead | other
      · exact absurd ahead (by simp [behind])
      · exact absurd other (by simp [level y List.mem_cons_self])
    rw [List.cons_append, List.orderedInsert_cons, late, if_neg Bool.false_ne_true,
      ih fun z mem => level z (List.mem_cons_of_mem y mem)]
    rfl

/-- An arrival pushes `c` back by one place at most, and only from ahead of it. -/
theorem Ranking.keptAfter_insert (h : Ranking before) {c x : α} {k : Nat} {s : Slots α n}
    (kept : KeptAfter before c k s.items) (room : k + (if before x c then 1 else 0) < n) :
    KeptAfter before c (k + if before x c then 1 else 0) (s.insert before x).items := by
  obtain ⟨front, back, same, level, le⟩ := kept
  rw [Slots.items_insert, same]
  refine KeptAfter.take ?_ room
  by_cases ahead : before x c = true
  · obtain ⟨front', back', same', level', le'⟩ := h.insert_ahead ahead back level
    rw [if_pos ahead]
    exact ⟨front', back', same', level', le'.trans (by omega)⟩
  · obtain ⟨front', back', same', level', le'⟩ :=
      h.insert_behind (by simpa using ahead) back level
    rw [if_neg ahead]
    exact ⟨front', back', same', level', le'.trans le⟩

theorem Ranking.keptAfter_insertAll (h : Ranking before) {c : α} {xs : List α} {k : Nat}
    {s : Slots α n} (kept : KeptAfter before c k s.items)
    (room : k + xs.countP (fun x => before x c) < n) :
    KeptAfter before c (k + xs.countP fun x => before x c)
      (BoundedInsertion.insertAll before xs s).items := by
  induction xs generalizing k s with
  | nil => simpa using kept
  | cons x xs ih =>
    rw [List.countP_cons] at room ⊢
    have first := h.keptAfter_insert (x := x) kept (by omega)
    have rest := ih first (by omega)
    rw [Nat.add_assoc, Nat.add_comm (if before x c then 1 else 0)] at rest
    exact rest

variable (before) in
/-- An arrival is kept where few enough entries are not behind it. -/
theorem keptAfter_self (c : α) (s : Slots α n)
    (room : s.items.countP (fun y => !before c y) < n) :
    KeptAfter before c (s.items.countP fun y => !before c y) (s.insert before c).items := by
  rw [Slots.items_insert]
  refine KeptAfter.take ?_ room
  rw [List.orderedInsert_eq_take_drop]
  have level : ∀ y ∈ s.items.takeWhile fun b => decide ¬before c b = true, before c y = false := by
    intro y mem
    have := List.all_eq_true.mp List.all_takeWhile y mem
    simpa using this
  refine ⟨_, _, rfl, level, ?_⟩
  have all := List.countP_eq_length.mpr fun y mem =>
    show (fun y => !before c y) y = true by simpa using level y mem
  rw [← all]
  exact (List.takeWhile_sublist _).countP_le

/-- **What is ranked below fewer than `n` arrivals stays.** -/
theorem Ranking.insertAll_keeps (h : Ranking before) {ys zs : List α} {c : α} {s : Slots α n}
    (few : s.items.countP (fun y => !before c y) + ys.countP (fun y => !before c y) +
      zs.countP (fun z => before z c) < n) :
    c ∈ (BoundedInsertion.insertAll before (ys ++ c :: zs) s).items := by
  rw [insertAll_append, insertAll_cons]
  have ahead := countP_insertAll before (fun y => !before c y) ys s
  have here := keptAfter_self before c (BoundedInsertion.insertAll before ys s)
    (by omega)
  have kept : KeptAfter before c _ (BoundedInsertion.insertAll before zs _).items :=
    h.keptAfter_insertAll here (by omega)
  exact kept.mem

theorem Ranking.insertAll_fresh_keeps (h : Ranking before) {ys zs : List α} {c : α} (a : α)
    (few : ys.countP (fun y => !before c y) + zs.countP (fun z => before z c) < n) :
    c ∈ (BoundedInsertion.insertAll before (ys ++ c :: zs) (Slots.fresh n a)).items := by
  refine h.insertAll_keeps ?_
  rwa [Slots.items_fresh, List.countP_nil, Nat.zero_add]

end InsertAll

/-! ## Sorting

An entry goes after those it is level with, so what arrived first stays first:
the array holds the head of the stable sort of all arrivals. -/

section Sorting

variable {before le : α → α → Bool}

/-- The order in which an array is kept: what is not behind may stand first. -/
def level (before : α → α → Bool) (a b : α) : Bool := !before b a

theorem Ranking.level_trans (h : Ranking before) (a b c : α) (hab : level before a b = true)
    (hbc : level before b c = true) : level before a c = true := by
  simp only [level, Bool.not_eq_true'] at hab hbc ⊢
  by_contra ahead
  rcases h.split c a b (by simpa using ahead) with first | second
  · exact absurd first (by simp [hbc])
  · exact absurd second (by simp [hab])

theorem Ranking.level_total (h : Ranking before) (a b : α) :
    (level before a b || level before b a) = true := by
  cases ahead : before b a with
  | false => simp [level, ahead]
  | true => simp [level, h.asymm b a ahead]

theorem orderedInsert_append {a : α} {l₁ l₂ : List α} (behind : ∀ b ∈ l₁, le a b = false)
    (level : ∀ b ∈ l₂, le a b = true) :
    (l₁ ++ l₂).orderedInsert (fun a b => le a b = true) a = l₁ ++ a :: l₂ := by
  induction l₁ with
  | nil =>
    cases l₂ with
    | nil => rfl
    | cons b l₂ =>
      rw [List.nil_append, List.orderedInsert_cons, if_pos (level b List.mem_cons_self)]
      rfl
  | cons b l₁ ih =>
    have rest := ih fun c mem => behind c (List.mem_cons_of_mem b mem)
    rw [List.cons_append, List.orderedInsert_cons,
      if_neg (by simp [behind b List.mem_cons_self]), rest]
    rfl

/-- Merge sort inserts the head into the sorted tail. -/
theorem mergeSort_cons_eq (trans : ∀ a b c, le a b = true → le b c = true → le a c = true)
    (total : ∀ a b, (le a b || le b a) = true) (a : α) (l : List α) :
    (a :: l).mergeSort le = (l.mergeSort le).orderedInsert (fun a b => le a b = true) a := by
  obtain ⟨l₁, l₂, whole, tail, behind⟩ := List.mergeSort_cons trans total a l
  have sorted := List.pairwise_mergeSort trans total (a :: l)
  rw [whole] at sorted
  have after := (List.pairwise_append.mp sorted).2.1
  rw [whole, tail]
  refine (orderedInsert_append ?_ ?_).symm
  · intro b mem
    simpa using behind b mem
  · exact (List.pairwise_cons.mp after).1

/-- A first arrival may be inserted after a last one: they do not see each other. -/
theorem Ranking.orderedInsert_comm (h : Ranking before) (a x : α) (l : List α) :
    (l.orderedInsert (fun a b => before a b = true) x).orderedInsert
        (fun a b => level before a b = true) a =
      (l.orderedInsert (fun a b => level before a b = true) a).orderedInsert
        (fun a b => before a b = true) x := by
  have opposite (b c : α) : level before b c = true ↔ before c b = false := by simp [level]
  induction l with
  | nil =>
    cases ahead : before x a <;> simp [level, ahead]
  | cons b l ih =>
    cases hx : before x b with
    | true =>
      cases ha : level before a b with
      | true => cases ahead : before x a <;> simp [level, hx, ahead] at ha ⊢ <;> simp [ha, hx, ahead]
      | false =>
        -- `x` is ahead of `b`, and `b` of `a`
        have behind : before b a = true := by simpa [level] using ha
        have ahead : before x a = true := by
          rcases h.split x b a hx with first | second
          · exact first
          · exact absurd second (by simp [h.asymm b a behind])
        simp [level, hx, behind, ahead]
    | false =>
      cases ha : level before a b with
      | true =>
        have level' := h.level_trans a b x ha ((opposite b x).mpr hx)
        have ahead : before x a = false := (opposite a x).mp level'
        have free : before b a = false := (opposite a b).mp ha
        simp [level, hx, free, ahead]
      | false =>
        have behind : before b a = true := by simpa [level] using ha
        simp only [List.orderedInsert_cons, hx, ha, Bool.false_eq_true, if_false]
        rw [ih]

/-- Merge sort inserts the last arrival after all it is level with. -/
theorem Ranking.mergeSort_concat (h : Ranking before) (l : List α) (x : α) :
    (l ++ [x]).mergeSort (level before) =
      (l.mergeSort (level before)).orderedInsert (fun a b => before a b = true) x := by
  induction l with
  | nil => simp
  | cons a l ih =>
    rw [List.cons_append, mergeSort_cons_eq h.level_trans h.level_total, ih,
      mergeSort_cons_eq h.level_trans h.level_total, h.orderedInsert_comm]

/-- Insertion in the order of arrival is a stable sort. -/
theorem Ranking.foldl_orderedInsert (h : Ranking before) (xs : List α) :
    xs.foldl (fun l x => l.orderedInsert (fun a b => before a b = true) x) [] =
      xs.mergeSort (level before) := by
  induction xs using List.reverseRecOn with
  | nil => simp
  | append_singleton xs x ih =>
    rw [List.foldl_append, List.foldl_cons, List.foldl_nil, ih, h.mergeSort_concat]

/-- What has fallen out does not come back. -/
theorem take_orderedInsert (before : α → α → Bool) (n : Nat) (x : α) (l : List α) :
    ((l.take n).orderedInsert (fun a b => before a b = true) x).take n =
      (l.orderedInsert (fun a b => before a b = true) x).take n := by
  induction l generalizing n with
  | nil => rw [List.take_nil]
  | cons b l ih =>
    cases n with
    | zero => rfl
    | succ n =>
      rw [List.take_succ_cons, List.orderedInsert_cons, List.orderedInsert_cons]
      split
      · rw [List.take_succ_cons, List.take_succ_cons]
        congr 1
        cases n with
        | zero => rfl
        | succ n => rw [List.take_succ_cons, List.take_succ_cons, List.take_take,
            Nat.min_eq_left (Nat.le_succ n)]
      · rw [List.take_succ_cons, List.take_succ_cons, ih]

theorem take_foldl_orderedInsert (before : α → α → Bool) (n : Nat) (xs l : List α) :
    (xs.foldl (fun l x => l.orderedInsert (fun a b => before a b = true) x) (l.take n)).take n =
      (xs.foldl (fun l x => l.orderedInsert (fun a b => before a b = true) x) l).take n := by
  induction xs generalizing l with
  | nil => rw [List.foldl_nil, List.foldl_nil, List.take_take, Nat.min_self]
  | cons x xs ih =>
    rw [List.foldl_cons, List.foldl_cons, ← ih, take_orderedInsert, ih]

theorem items_insertAll (before : α → α → Bool) (xs : List α) (s : Slots α n) :
    (insertAll before xs s).items =
      (xs.foldl (fun l x => l.orderedInsert (fun a b => before a b = true) x) s.items).take n := by
  induction xs generalizing s with
  | nil => exact (List.take_of_length_le s.length_items_le).symm
  | cons x xs ih =>
    rw [insertAll_cons, ih, Slots.items_insert, take_foldl_orderedInsert, List.foldl_cons]

/-- **Bounded insertion is sorting and cutting.** -/
theorem Ranking.items_insertAll (h : Ranking before) (xs : List α) {s : Slots α n}
    (empty : s.items = []) :
    (BoundedInsertion.insertAll before xs s).items = (xs.mergeSort (level before)).take n := by
  rw [BoundedInsertion.items_insertAll, empty, h.foldl_orderedInsert]

end Sorting

/-! ## Arrays that nothing bounds

The same loops over cells without bounds: every write they make is visible,
also one outside the array. -/

/-- Cells in memory, from the first one of an array on, of which `retained` are in use. -/
structure Cells (α : Type) where
  cell : Nat → α
  retained : Nat

namespace Cells

/-- The entries in use. -/
def items (c : Cells α) : List α := (List.range c.retained).map c.cell

/-- The loop `for (; j > at; --j) next[j] = next[j - 1]`. -/
def shift (cell : Nat → α) (at_ : Nat) : Nat → Nat → α
  | 0 => cell
  | j + 1 => if at_ < j + 1 then shift (Function.update cell (j + 1) (cell j)) at_ j else cell

/-- Insertion into an array of `n`, where that many entries are in use already. -/
def insert (n : Nat) (before : α → α → Bool) (x : α) (c : Cells α) : Cells α :=
  let at_ := c.items.findIdx (before x)
  if at_ = n then c
  else
    let retained := if c.retained < n then c.retained + 1 else c.retained
    { cell := Function.update (shift c.cell at_ (retained - 1)) at_ x, retained }

/-- The cells hold the array. -/
structure Holds (c : Cells α) (s : Slots α n) : Prop where
  retained : c.retained = s.retained
  cell : ∀ (i : Nat) (h : i < n), c.cell i = s.slots[i]

theorem Holds.items {c : Cells α} {s : Slots α n} (h : c.Holds s) : c.items = s.items := by
  refine List.ext_getElem? fun i => ?_
  rw [Slots.getElem?_items, Cells.items, h.retained]
  have := s.le
  by_cases hi : i < s.retained
  · have inside : i < n := by omega
    simp [hi, h.cell i inside]
  · simp [hi]

theorem shift_eq {cell : Nat → α} {v : Vector α n} (same : ∀ (i : Nat) (h : i < n), cell i = v[i])
    (at_ j : Nat) (h : j < n) :
    (∀ (i : Nat) (hi : i < n), shift cell at_ j i = (Slots.shift v at_ j h)[i]) ∧
      ∀ i, n ≤ i → shift cell at_ j i = cell i := by
  induction j generalizing cell v with
  | zero => exact ⟨same, fun _ _ => rfl⟩
  | succ j ih =>
    simp only [shift, Slots.shift]
    split
    · have next (i : Nat) (hi : i < n) : Function.update cell (j + 1) (cell j) i =
          (v.set (j + 1) v[j])[i] := by
        rw [Function.update_apply, Vector.getElem_set, same j (by omega), same i hi]
        grind
      obtain ⟨inside, outside⟩ := @ih _ (v.set (j + 1) v[j]) next (Nat.lt_of_succ_lt h)
      refine ⟨inside, ?_⟩
      intro i hi
      rw [outside i hi, Function.update_of_ne (by omega)]
    · exact ⟨same, fun _ _ => rfl⟩

/-- **An insertion writes to the array only,** and what it writes is the array's. -/
theorem Holds.insert {c : Cells α} {s : Slots α n} (h : c.Holds s) (before : α → α → Bool)
    (x : α) : (c.insert n before x).Holds (s.insert before x) ∧
      ∀ i, n ≤ i → (c.insert n before x).cell i = c.cell i := by
  unfold Cells.insert Slots.insert
  rw [h.items, h.retained]
  dsimp only
  split
  · exact ⟨h, fun _ _ => rfl⟩
  rename_i full
  have room : s.items.findIdx (before x) < n :=
    lt_of_le_of_ne (List.findIdx_le_length.trans s.length_items_le) full
  have le := s.le
  have last : (if s.retained < n then s.retained + 1 else s.retained) - 1 < n := by
    split <;> omega
  obtain ⟨inside, outside⟩ := shift_eq h.cell (s.items.findIdx (before x)) _ last
  refine ⟨⟨rfl, ?_⟩, ?_⟩
  · intro i hi
    dsimp only
    rw [Function.update_apply, Vector.getElem_set, inside i hi]
    grind
  · intro i hi
    dsimp only
    rw [Function.update_of_ne (by omega), outside i hi]

/-- The entries of `xs` inserted in the order of their arrival. -/
def insertAll (n : Nat) (before : α → α → Bool) (xs : List α) (c : Cells α) : Cells α :=
  xs.foldl (fun c x => c.insert n before x) c

theorem Holds.insertAll {c : Cells α} {s : Slots α n} (h : c.Holds s) (before : α → α → Bool)
    (xs : List α) : (c.insertAll n before xs).Holds (BoundedInsertion.insertAll before xs s) ∧
      ∀ i, n ≤ i → (c.insertAll n before xs).cell i = c.cell i := by
  induction xs generalizing c s with
  | nil => exact ⟨h, fun _ _ => rfl⟩
  | cons x xs ih =>
    obtain ⟨next, kept⟩ := h.insert before x
    obtain ⟨holds, outside⟩ := ih next
    exact ⟨holds, fun i hi => (outside i hi).trans (kept i hi)⟩

end Cells

end BoundedInsertion
