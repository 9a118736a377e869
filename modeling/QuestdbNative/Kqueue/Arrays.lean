import Mathlib.Data.List.FinRange
import QuestdbNative.RecordArray
import QuestdbNative.Kqueue.Layout

/-! # The caller's arrays of struct kevent

The caller allocates the change list and the event list as arrays whose records lie
`getSizeofKevent` bytes apart, and addresses field `f` of record `i` at
`i * getSizeofKevent` plus the offset its getter reports; the kernel indexes the same memory
as arrays of `struct kevent`. The stride the getter reports is the size of the struct, so
the caller's record `i` is the kernel's: the kernel reads the change array as the list of its
records, and the caller reads the records the kernel wrote over the event array as they were
written, the records past them being left as they were.
-/

namespace QuestdbNative.Kqueue

theorem getSizeofKevent_toNat : getSizeofKevent.toNat = sizeofKevent := rfl

/-- The field at the offset a getter reports in record `i` of an array, as the caller
    addresses it: `i * getSizeofKevent` bytes on. -/
def reportedAt (offset : Int) (width i : Nat) : Field :=
  (reported offset width).nth getSizeofKevent.toNat i

theorem reportedAt_eq (offset : Int) (width i : Nat) :
    reportedAt offset width i = (reported offset width).nth sizeofKevent i := by
  rw [reportedAt, getSizeofKevent_toNat]

/-- The records of the change array, as the kernel reads them. -/
def readChanges {n : Nat} (r : Record (n * sizeofKevent)) : List Kevent :=
  (List.finRange n).map fun i => Kevent.ofRecord (r.slot i)

theorem Kevent.ofRecord_fits (r : Record sizeofKevent) (bytes : ∀ b ∈ r.bytes, b < 256) :
    (Kevent.ofRecord r).Fits := by
  have hid : identField.read r.bytes < 256 ^ 8 := Field.read_lt (by decide) r bytes
  have hfi : filterField.read r.bytes < 256 ^ 2 := Field.read_lt (by decide) r bytes
  have hfl : flagsField.read r.bytes < 256 ^ 2 := Field.read_lt (by decide) r bytes
  have hda : dataField.read r.bytes < 256 ^ 8 := Field.read_lt (by decide) r bytes
  have hud : udataField.read r.bytes < 256 ^ 8 := Field.read_lt (by decide) r bytes
  have ⟨fl, fu⟩ := signed_bounds (by decide : 0 < 16) hfi
  have ⟨dl, du⟩ := signed_bounds (by decide : 0 < 64) hda
  have ⟨ul, uu⟩ := signed_bounds (by decide : 0 < 64) hud
  exact ⟨hid, fl, fu, hfl, dl, du, ul, uu⟩

theorem readChanges_fits {n : Nat} (r : Record (n * sizeofKevent))
    (bytes : ∀ b ∈ r.bytes, b < 256) : ∀ c ∈ readChanges r, c.Fits := by
  intro c hc
  obtain ⟨i, -, rfl⟩ := List.mem_map.mp hc
  exact Kevent.ofRecord_fits _ fun b hb => bytes b (Record.mem_slot hb)

/-- The kernel's records written over the event array from its first record on. -/
def writeEvents {m : Nat} (r : Record (m * sizeofKevent)) (recs : List Kevent) :
    Record (m * sizeofKevent) :=
  Record.fill Kevent.writeTo r 0 recs

/-- Record `i` of the event array as the caller reads it: descriptor, filter, flags and
    user data at their addresses. -/
def readEventAt (bytes : List Nat) (i : Nat) : Nat × Int × Nat × Int :=
  ((reportedAt getFdOffset 8 i).read bytes, signed 16 ((reportedAt getFilterOffset 2 i).read bytes),
    (reportedAt getFlagsOffset 2 i).read bytes, signed 64 ((reportedAt getDataOffset 8 i).read bytes))

/-- The first `count` records of the event array, as the caller reads them. -/
def readEvents {m : Nat} (r : Record (m * sizeofKevent)) (count : Nat) :
    List (Nat × Int × Nat × Int) :=
  (List.range count).map (readEventAt r.bytes)

theorem readEventAt_eq {m : Nat} (r : Record (m * sizeofKevent)) (i : Fin m) :
    readEventAt r.bytes i = readEvent (r.slot i) := by
  unfold readEventAt readEvent
  rw [Field.read_eq_slot r i (reportedAt_eq getFdOffset 8 i) (by decide),
    Field.read_eq_slot r i (reportedAt_eq getFilterOffset 2 i) (by decide),
    Field.read_eq_slot r i (reportedAt_eq getFlagsOffset 2 i) (by decide),
    Field.read_eq_slot r i (reportedAt_eq getDataOffset 8 i) (by decide)]

theorem writeEvents_spec {m : Nat} (r : Record (m * sizeofKevent)) (recs : List Kevent)
    (room : recs.length ≤ m) (fits : ∀ k ∈ recs, k.Fits) :
    readEvents (writeEvents r recs) recs.length =
        recs.map (fun k => (k.ident, k.filter, k.flags, k.udata)) ∧
      ∀ j : Fin m, recs.length ≤ j → (writeEvents r recs).slot j = r.slot j := by
  refine ⟨List.ext_getElem (by simp [readEvents]) fun j h₁ h₂ => ?_, fun j hj => ?_⟩
  · simp only [readEvents, List.length_map, List.length_range] at h₁
    simp only [readEvents, List.getElem_map, List.getElem_range]
    rw [readEventAt_eq _ ⟨j, by omega⟩, writeEvents, Record.slot_fill,
      dif_pos ⟨Nat.zero_le _, by simpa using h₁⟩]
    simp only [Nat.sub_zero, List.get_eq_getElem]
    exact Kevent.readEvent_writeTo _ _ (fits _ (List.getElem_mem _))
  · rw [writeEvents, Record.slot_fill, dif_neg (by omega)]

end QuestdbNative.Kqueue
