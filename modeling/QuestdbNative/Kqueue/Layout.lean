import QuestdbNative.ByteOrder
import QuestdbNative.Kqueue.Kernel

/-! # The layout of struct kevent

The Java side builds change records and reads fired events in raw memory, at the offsets
the `KqueueAccessor` getters report. On the 64-bit macOS ABI a `struct kevent` is
`{ uintptr_t ident; int16_t filter; uint16_t flags; uint32_t fflags; intptr_t data;
void *udata; }`: 32 bytes, with the fields at 0, 8, 10, 12, 16 and 24. The getters report
the size and the offsets of `ident`, `filter`, `flags` and, as the "data" offset, `udata`.
The kernel reads a change record field by field and writes a fired event over a record of
the event list; the fields lie within the record and apart.
-/

namespace QuestdbNative.Kqueue

/-- `EVFILT_WRITE` of `<sys/event.h>`. -/
def EVFILT_WRITE : Int := -2

/-- `sizeof(struct kevent)`. -/
def sizeofKevent : Nat := 32

/-- `uintptr_t ident`. -/
def identField : Field := ⟨0, 8⟩

/-- `int16_t filter`. -/
def filterField : Field := ⟨8, 2⟩

/-- `uint16_t flags`. -/
def flagsField : Field := ⟨10, 2⟩

/-- `uint32_t fflags`. -/
def fflagsField : Field := ⟨12, 4⟩

/-- `intptr_t data`. -/
def dataField : Field := ⟨16, 8⟩

/-- `void *udata`. -/
def udataField : Field := ⟨24, 8⟩

/-- `Java_io_questdb_client_KqueueAccessor_getEvfiltRead`. -/
def getEvfiltRead : Int := asShort EVFILT_READ

/-- `Java_io_questdb_client_KqueueAccessor_getEvfiltWrite`. -/
def getEvfiltWrite : Int := asShort EVFILT_WRITE

/-- `Java_io_questdb_client_KqueueAccessor_getSizeofKevent`. -/
def getSizeofKevent : Int := asShort sizeofKevent

/-- `Java_io_questdb_client_KqueueAccessor_getFdOffset`: `offsetof(struct kevent, ident)`. -/
def getFdOffset : Int := asShort identField.offset

/-- `Java_io_questdb_client_KqueueAccessor_getFilterOffset`. -/
def getFilterOffset : Int := asShort filterField.offset

/-- `Java_io_questdb_client_KqueueAccessor_getDataOffset`: `offsetof(struct kevent, udata)`. -/
def getDataOffset : Int := asShort udataField.offset

/-- `Java_io_questdb_client_KqueueAccessor_getFlagsOffset`. -/
def getFlagsOffset : Int := asShort flagsField.offset

/-- `Java_io_questdb_client_KqueueAccessor_getEvAdd`. -/
def getEvAdd : Int := asShort EV_ADD

/-- `Java_io_questdb_client_KqueueAccessor_getEvOneshot`. -/
def getEvOneshot : Int := asShort EV_ONESHOT

namespace Kevent

/-- Field values that fit their C types. -/
structure Fits (k : Kevent) : Prop where
  ident : k.ident < 2 ^ 64
  filter_lower : -2 ^ 15 ≤ k.filter
  filter_upper : k.filter < 2 ^ 15
  flags : k.flags < 2 ^ 16
  data_lower : -2 ^ 63 ≤ k.data
  data_upper : k.data < 2 ^ 63
  udata_lower : -2 ^ 63 ≤ k.udata
  udata_upper : k.udata < 2 ^ 63

instance (k : Kevent) : Decidable k.Fits :=
  decidable_of_iff (k.ident < 2 ^ 64 ∧ -2 ^ 15 ≤ k.filter ∧ k.filter < 2 ^ 15 ∧ k.flags < 2 ^ 16 ∧
      -2 ^ 63 ≤ k.data ∧ k.data < 2 ^ 63 ∧ -2 ^ 63 ≤ k.udata ∧ k.udata < 2 ^ 63)
    ⟨fun ⟨a, b, c, d, e, f, g, h⟩ => ⟨a, b, c, d, e, f, g, h⟩,
      fun ⟨a, b, c, d, e, f, g, h⟩ => ⟨a, b, c, d, e, f, g, h⟩⟩

/-- The `struct kevent` a record holds, as the kernel reads it (`fflags` is not kept). -/
def ofRecord (r : Record sizeofKevent) : Kevent :=
  ⟨identField.read r.bytes, signed 16 (filterField.read r.bytes), flagsField.read r.bytes,
    signed 64 (dataField.read r.bytes), signed 64 (udataField.read r.bytes)⟩

/-- `k` written by the kernel over a record of the event list, with `fflags` zero. -/
def writeTo (k : Kevent) (r : Record sizeofKevent) : Record sizeofKevent :=
  udataField.write (by decide)
    (dataField.write (by decide)
      (fflagsField.write (by decide)
        (flagsField.write (by decide)
          (filterField.write (by decide) (identField.write (by decide) r k.ident)
            (unsigned 16 k.filter))
          k.flags)
        0)
      (unsigned 64 k.data))
    (unsigned 64 k.udata)

end Kevent

/-- The field at the offset a getter reports, in the width of its C type. -/
def reported (offset : Int) (width : Nat) : Field := ⟨offset.toNat, width⟩

/-- A fired event as the caller reads it at the reported offsets: descriptor, filter,
    flags and user data. -/
def readEvent (r : Record sizeofKevent) : Nat × Int × Nat × Int :=
  ((reported getFdOffset 8).read r.bytes, signed 16 ((reported getFilterOffset 2).read r.bytes),
    (reported getFlagsOffset 2).read r.bytes, signed 64 ((reported getDataOffset 8).read r.bytes))

theorem reported_getters :
    reported getFdOffset 8 = identField ∧ reported getFilterOffset 2 = filterField ∧
      reported getFlagsOffset 2 = flagsField ∧ reported getDataOffset 8 = udataField :=
  ⟨rfl, rfl, rfl, rfl⟩

theorem Kevent.Fits.stored {k : Kevent} (fits : k.Fits) :
    k.ident % 256 ^ identField.width = k.ident ∧
      unsigned 16 k.filter % 256 ^ filterField.width = unsigned 16 k.filter ∧
      k.flags % 256 ^ flagsField.width = k.flags ∧
      unsigned 64 k.udata % 256 ^ udataField.width = unsigned 64 k.udata ∧
      signed 16 (unsigned 16 k.filter) = k.filter ∧ signed 64 (unsigned 64 k.udata) = k.udata :=
  ⟨Nat.mod_eq_of_lt fits.ident, Nat.mod_eq_of_lt (unsigned_lt 16 k.filter),
    Nat.mod_eq_of_lt fits.flags, Nat.mod_eq_of_lt (unsigned_lt 64 k.udata),
    signed_unsigned (by decide) fits.filter_lower fits.filter_upper,
    signed_unsigned (by decide) fits.udata_lower fits.udata_upper⟩

theorem Kevent.readEvent_writeTo (r : Record sizeofKevent) (k : Kevent) (fits : k.Fits) :
    readEvent (k.writeTo r) = (k.ident, k.filter, k.flags, k.udata) := by
  obtain ⟨hid, hfi, hfl, hud, hs16, hs64⟩ := fits.stored
  obtain ⟨fd, filter, flags, data⟩ := reported_getters
  simp (disch := decide) only [readEvent, Kevent.writeTo, fd, filter, flags, data,
    Field.read_write, Field.read_write_apart, hid, hfi, hfl, hud, hs16, hs64]

end QuestdbNative.Kqueue
