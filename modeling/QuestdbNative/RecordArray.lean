import QuestdbNative.ByteOrder

/-! # Arrays of native records

The caller allocates arrays of native records contiguously and addresses a field of record
`i` as `i * sizeof` plus the field's offset; the C side indexes the same memory as an
array of structs. A field of record `i` is the field shifted by `i` strides, so reading it
reads the field in the `i`-th window of the array; writing a record replaces its window and
no other, since the windows of different records share no byte.
-/

namespace QuestdbNative

/-- Field `f` of the `i`-th record of an array whose records lie `stride` bytes apart. -/
def Field.nth (f : Field) (stride i : Nat) : Field := ⟨i * stride + f.offset, f.width⟩

theorem getElem?_splice {α : Type} (l u : List α) {k : Nat} (hk : k + u.length ≤ l.length)
    (m : Nat) :
    (l.take k ++ u ++ l.drop (k + u.length))[m]? =
      if k ≤ m ∧ m < k + u.length then u[m - k]? else l[m]? := by
  have ht : (l.take k).length = k := by simp only [List.length_take]; omega
  split_ifs with h
  · rw [List.getElem?_append_left (by simp only [List.length_append]; omega),
      List.getElem?_append_right (by omega), ht]
  · by_cases lt : m < k
    · rw [List.getElem?_append_left (by simp only [List.length_append]; omega),
        List.getElem?_append_left (by omega), List.getElem?_take_of_lt lt]
    · rw [List.getElem?_append_right (by simp only [List.length_append]; omega),
        List.length_append, ht, List.getElem?_drop]
      congr 1
      omega

namespace Record

variable {n size : Nat}

theorem bytes_inj {r s : Record size} (h : r.bytes = s.bytes) : r = s := by
  cases r; cases s; cases h; rfl

theorem mul_add_le_of_lt {a b : Nat} (size : Nat) (h : a < b) : a * size + size ≤ b * size := by
  have := Nat.mul_le_mul_right size (Nat.succ_le_of_lt h)
  rwa [Nat.succ_mul] at this

theorem slot_bound (size : Nat) (i : Fin n) : i * size + size ≤ n * size :=
  mul_add_le_of_lt size i.isLt

/-- The `i`-th record of an array of `n` records of `size` bytes. -/
def slot (r : Record (n * size)) (i : Fin n) : Record size :=
  ⟨(r.bytes.drop (i * size)).take size, by
    have := slot_bound size i
    simp only [List.length_take, List.length_drop, r.length_eq]
    omega⟩

/-- The array with its `i`-th record replaced by `s`. -/
def setSlot (r : Record (n * size)) (i : Fin n) (s : Record size) : Record (n * size) :=
  ⟨r.bytes.take (i * size) ++ s.bytes ++ r.bytes.drop (i * size + size), by
    have := slot_bound size i
    simp only [List.length_append, List.length_take, List.length_drop, r.length_eq, s.length_eq]
    omega⟩

theorem getElem?_slot (r : Record (n * size)) (i : Fin n) (m : Nat) :
    (r.slot i).bytes[m]? = if m < size then r.bytes[i * size + m]? else none := by
  simp only [slot, List.getElem?_take, List.getElem?_drop]

theorem mem_slot {r : Record (n * size)} {i : Fin n} {b : Nat} (h : b ∈ (r.slot i).bytes) :
    b ∈ r.bytes :=
  List.mem_of_mem_drop (List.mem_of_mem_take h)

theorem getElem?_setSlot (r : Record (n * size)) (i : Fin n) (s : Record size) (m : Nat) :
    (r.setSlot i s).bytes[m]? =
      if i * size ≤ m ∧ m < i * size + size then s.bytes[m - i * size]? else r.bytes[m]? := by
  have := slot_bound size i
  have h := getElem?_splice r.bytes s.bytes (k := i * size)
    (by rw [r.length_eq, s.length_eq]; omega) m
  rwa [s.length_eq] at h

theorem window_apart {i j : Fin n} (hij : j ≠ i) {m : Nat} (hm : m < size) :
    ¬ (i * size ≤ j * size + m ∧ j * size + m < i * size + size) := by
  rintro ⟨lo, hi⟩
  rcases Nat.lt_or_gt_of_ne (Fin.val_ne_of_ne hij) with lt | gt
  · have := mul_add_le_of_lt size lt
    omega
  · have := mul_add_le_of_lt size gt
    omega

@[simp] theorem slot_setSlot (r : Record (n * size)) (i : Fin n) (s : Record size) :
    (r.setSlot i s).slot i = s := by
  refine bytes_inj (List.ext_getElem? fun m => ?_)
  rw [getElem?_slot, getElem?_setSlot]
  split_ifs with hm h
  · rw [Nat.add_sub_cancel_left]
  · omega
  · rw [List.getElem?_eq_none (by rw [s.length_eq]; omega)]

theorem slot_setSlot_ne (r : Record (n * size)) {i j : Fin n} (hij : j ≠ i) (s : Record size) :
    (r.setSlot i s).slot j = r.slot j := by
  refine bytes_inj (List.ext_getElem? fun m => ?_)
  rw [getElem?_slot, getElem?_slot, getElem?_setSlot]
  split_ifs with hm h
  · exact absurd h (window_apart hij hm)
  · rfl
  · rfl

/-- Each of `xs` written by `put` over the records of an array, from record `i` on, as far
    as the array reaches. -/
def fill {α : Type} (put : α → Record size → Record size) :
    Record (n * size) → Nat → List α → Record (n * size)
  | r, _, [] => r
  | r, i, x :: xs =>
    if h : i < n then fill put (r.setSlot ⟨i, h⟩ (put x (r.slot ⟨i, h⟩))) (i + 1) xs else r

/-- After a fill from record `i` on, the records it reached hold what `put` made of them,
    and every other record is as it was. -/
theorem slot_fill {α : Type} (put : α → Record size → Record size) (xs : List α)
    (r : Record (n * size)) (i : Nat) (j : Fin n) :
    (fill put r i xs).slot j =
      if h : i ≤ j ∧ j < i + xs.length then put (xs.get ⟨j - i, by omega⟩) (r.slot j)
      else r.slot j := by
  induction xs generalizing r i with
  | nil => simp only [fill, List.length_nil, Nat.add_zero]; rw [dif_neg (by omega)]
  | cons x xs ih =>
      simp only [fill]
      split
      · next hi =>
          rw [ih]
          by_cases hji : (j : Nat) = i
          · have hj : j = ⟨i, hi⟩ := Fin.ext hji
            subst hj
            simp only [slot_setSlot, List.length_cons]
            rw [dif_neg (by omega), dif_pos (by omega)]
            simp
          · have hne : j ≠ ⟨i, hi⟩ := fun h => hji (congrArg Fin.val h)
            simp only [slot_setSlot_ne r hne, List.length_cons]
            by_cases hin : i + 1 ≤ j ∧ j < i + 1 + xs.length
            · rw [dif_pos hin, dif_pos (by omega)]
              have hk : (j : Nat) - i = (j - (i + 1)) + 1 := by omega
              simp only [hk, List.get_eq_getElem, List.getElem_cons_succ]
            · rw [dif_neg hin, dif_neg (by omega)]
      · next hi => rw [dif_neg (by omega)]

end Record

namespace Field

variable {n size : Nat} {f : Field}

theorem read_lt {size : Nat} (hf : f.Fits size) (r : Record size) (bytes : ∀ b ∈ r.bytes, b < 256) :
    f.read r.bytes < 256 ^ f.width := by
  have hl : ((r.bytes.drop f.offset).take f.width).length = f.width := by
    unfold Fits at hf
    simp only [List.length_take, List.length_drop, r.length_eq]
    omega
  have : loadLE ((r.bytes.drop f.offset).take f.width) <
      256 ^ ((r.bytes.drop f.offset).take f.width).length :=
    loadLE_lt fun b hb => bytes b (List.mem_of_mem_drop (List.mem_of_mem_take hb))
  rwa [hl] at this

theorem read_eq_slot (r : Record (n * size)) (i : Fin n) {g : Field} (hg : g = f.nth size i)
    (hf : f.Fits size) : g.read r.bytes = f.read (r.slot i).bytes := by
  subst hg
  have hw : min f.width (size - f.offset) = f.width := by unfold Fits at hf; omega
  simp only [read, nth, Record.slot, List.drop_take, List.drop_drop, List.take_take, hw]

end Field

end QuestdbNative
