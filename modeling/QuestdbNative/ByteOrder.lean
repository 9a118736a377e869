import QuestdbNative.CTypes

/-! # Byte order of native records

Both targets are little-endian. `storeLE` and `loadLE` are the bytes a value occupies in
memory and the value a run of bytes holds; records such as `struct kevent`, `in_addr` and
`sockaddr_in` are read and written through them. On Windows `u_long` and `u_short` are 32
and 16 bits wide, and the driver converts `jint`s to them with C casts and to network order
with `htonl`/`htons`.
-/

namespace QuestdbNative

/-- The `w`-bit pattern of `x`: the value modulo `2 ^ w`. -/
def unsigned (w : Nat) (x : Int) : Nat := (x % 2 ^ w).toNat

/-- The value a `w`-bit pattern holds in two's complement. -/
def signed (w : Nat) (n : Nat) : Int := if n < 2 ^ (w - 1) then n else n - 2 ^ w

/-- `(u_long) x`. -/
def toULong (x : Int) : Nat := unsigned 32 x

/-- `(u_short) x`. -/
def toUShort (x : Int) : Nat := unsigned 16 x

/-- The `w` bytes of `x` in memory, least significant first; higher bits are dropped. -/
def storeLE : Nat → Nat → List Nat
  | 0, _ => []
  | w + 1, x => x % 256 :: storeLE w (x / 256)

/-- The value of a run of bytes read least significant first. -/
def loadLE : List Nat → Nat
  | [] => 0
  | b :: bs => b + 256 * loadLE bs

/-- `htonl` on a little-endian host: the four bytes of `x` in the other order. -/
def htonl (x : Nat) : Nat := loadLE (storeLE 4 x).reverse

/-- `htons` on a little-endian host: the two bytes of `x` in the other order. -/
def htons (x : Nat) : Nat := loadLE (storeLE 2 x).reverse

@[simp] theorem length_storeLE (w x : Nat) : (storeLE w x).length = w := by
  induction w generalizing x with
  | zero => rfl
  | succ w ih => simp [storeLE, ih]

theorem loadLE_storeLE (w x : Nat) : loadLE (storeLE w x) = x % 256 ^ w := by
  induction w generalizing x with
  | zero => simp [storeLE, loadLE, Nat.mod_one]
  | succ w ih => rw [storeLE, loadLE, ih, Nat.pow_succ', Nat.mod_mul]

theorem loadLE_lt {bytes : List Nat} (h : ∀ b ∈ bytes, b < 256) :
    loadLE bytes < 256 ^ bytes.length := by
  induction bytes with
  | nil => simp [loadLE]
  | cons b bs ih =>
      have hb := h b (List.mem_cons_self b bs)
      have hs := ih fun c hc => h c (List.mem_cons_of_mem b hc)
      rw [loadLE, List.length_cons, Nat.pow_succ]
      omega

theorem storeLE_bytes {w x b : Nat} (h : b ∈ storeLE w x) : b < 256 := by
  induction w generalizing x with
  | zero => simp [storeLE] at h
  | succ w ih =>
      rcases List.mem_cons.mp h with rfl | h
      exacts [Nat.mod_lt _ (by decide), ih h]

theorem htonl_lt (x : Nat) : htonl x < 256 ^ 4 := by
  have h : loadLE (storeLE 4 x).reverse < 256 ^ (storeLE 4 x).reverse.length :=
    loadLE_lt fun b hb => storeLE_bytes (List.mem_reverse.mp hb)
  rwa [List.length_reverse, length_storeLE] at h

theorem unsigned_lt (w : Nat) (x : Int) : unsigned w x < 2 ^ w := by
  have hp : (0 : Int) < 2 ^ w := by exact_mod_cast Nat.two_pow_pos w
  have := Int.emod_lt_of_pos x hp
  have := Int.emod_nonneg x (Int.ne_of_gt hp)
  have hc : ((2 ^ w : Nat) : Int) = 2 ^ w := by push_cast; rfl
  unfold unsigned
  omega

theorem signed_unsigned {w : Nat} (hw : 0 < w) {x : Int} (lower : -2 ^ (w - 1) ≤ x)
    (upper : x < 2 ^ (w - 1)) : signed w (unsigned w x) = x := by
  obtain ⟨k, rfl⟩ : ∃ k, w = k + 1 := ⟨w - 1, by omega⟩
  rw [Nat.add_sub_cancel] at lower upper
  have hp : (2 : Int) ^ (k + 1) = 2 * 2 ^ k := by rw [Int.pow_succ, Int.mul_comm]
  have hc : ((2 ^ k : Nat) : Int) = 2 ^ k := by push_cast; rfl
  have hm : x % 2 ^ (k + 1) = if 0 ≤ x then x else x + 2 ^ (k + 1) := by
    split
    · exact Int.emod_eq_of_lt ‹_› (by omega)
    · rw [← Int.add_emod_self, Int.emod_eq_of_lt (by omega) (by omega)]
  unfold signed unsigned
  rw [hm, Nat.add_sub_cancel]
  split_ifs <;> omega

theorem signed_bounds {w n : Nat} (hw : 0 < w) (h : n < 2 ^ w) :
    -2 ^ (w - 1) ≤ signed w n ∧ signed w n < 2 ^ (w - 1) := by
  obtain ⟨k, rfl⟩ : ∃ k, w = k + 1 := ⟨w - 1, by omega⟩
  have hp : (2 : Int) ^ (k + 1) = 2 * 2 ^ k := by rw [Int.pow_succ, Int.mul_comm]
  have hk : ((2 ^ k : Nat) : Int) = 2 ^ k := by push_cast; rfl
  have hc : (n : Int) < 2 ^ (k + 1) := by exact_mod_cast h
  unfold signed
  rw [Nat.add_sub_cancel]
  split <;> omega

/-- A field of a native record: its byte offset and its width in bytes. -/
structure Field where
  offset : Nat
  width : Nat
  deriving DecidableEq, Repr

/-- The value field `f` holds in the bytes of a record, least significant byte first. -/
def Field.read (f : Field) (bytes : List Nat) : Nat :=
  loadLE ((bytes.drop f.offset).take f.width)

/-- Field `f` lies within a record of `size` bytes. -/
def Field.Fits (f : Field) (size : Nat) : Prop := f.offset + f.width ≤ size

instance (f : Field) (size : Nat) : Decidable (f.Fits size) :=
  inferInstanceAs (Decidable (_ ≤ _))

/-- Fields `f` and `g` share no byte. -/
def Field.Apart (f g : Field) : Prop :=
  f.offset + f.width ≤ g.offset ∨ g.offset + g.width ≤ f.offset

instance (f g : Field) : Decidable (f.Apart g) := inferInstanceAs (Decidable (_ ∨ _))

/-- A native record of `size` bytes. -/
structure Record (size : Nat) where
  bytes : List Nat
  length_eq : bytes.length = size

/-- The record with the `f.width` low bytes of `x` written over field `f`. -/
def Field.write {size : Nat} (f : Field) (h : f.Fits size) (r : Record size) (x : Nat) :
    Record size :=
  ⟨r.bytes.take f.offset ++ storeLE f.width x ++ r.bytes.drop (f.offset + f.width), by
    unfold Field.Fits at h
    simp only [List.length_append, List.length_take, length_storeLE, List.length_drop,
      r.length_eq]
    omega⟩

namespace Field

variable {size : Nat} {f g : Field}

theorem read_write (h : f.Fits size) (r : Record size) (x : Nat) :
    f.read (f.write h r x).bytes = x % 256 ^ f.width := by
  have hl : (r.bytes.take f.offset).length = f.offset := by
    unfold Fits at h; simp only [List.length_take, r.length_eq]; omega
  dsimp only [read, write]
  rw [List.append_assoc, List.drop_left' hl, List.take_left' (length_storeLE _ _),
    loadLE_storeLE]

theorem getElem?_write (h : f.Fits size) (r : Record size) (x : Nat) {i : Nat}
    (outside : i < f.offset ∨ f.offset + f.width ≤ i) :
    (f.write h r x).bytes[i]? = r.bytes[i]? := by
  have hl : (r.bytes.take f.offset).length = f.offset := by
    unfold Fits at h; simp only [List.length_take, r.length_eq]; omega
  have hs : (r.bytes.take f.offset ++ storeLE f.width x).length = f.offset + f.width := by
    rw [List.length_append, hl, length_storeLE]
  dsimp only [write]
  rcases outside with lt | ge
  · rw [List.getElem?_append_left (by omega), List.getElem?_append_left (by omega),
      List.getElem?_take_of_lt lt]
  · rw [List.getElem?_append_right (by omega), hs, List.getElem?_drop,
      Nat.add_sub_cancel' ge]

theorem read_write_apart (hf : f.Fits size) (r : Record size) (x : Nat) (d : f.Apart g) :
    g.read (f.write hf r x).bytes = g.read r.bytes := by
  unfold read
  congr 1
  refine List.ext_getElem? fun n => ?_
  rw [List.getElem?_take, List.getElem?_take, List.getElem?_drop, List.getElem?_drop]
  split
  · unfold Apart at d
    rw [getElem?_write hf r x (by omega)]
  · rfl

end Field

end QuestdbNative
