import QuestdbNative.CTypes

/-! # The Windows file layer

`Files_close0` closes the handle behind a descriptor with `CloseHandle`, whose `BOOL` result
is zero on failure. On failure `SaveLastError()` copies `GetLastError()` into the slot the
Java side reads back, and the entry point returns `-1`; on success it returns `0` and leaves
the slot alone. The handle a descriptor maps to (`FD_TO_HANDLE`, a macro of a header that is
not part of the sources) is the environment's, so `CloseHandle` is given the descriptor.
-/

namespace QuestdbNative.Files

/-- `Java_io_questdb_client_std_Files_close0`: `CloseHandle(FD_TO_HANDLE(fd))` answers its
    `BOOL` and `GetLastError()` after it. Gives the result and the saved error. -/
def close0 (fd : JInt) (closeHandle : JInt → Int × Nat) (saved : Nat) : Int × Nat :=
  let (r, lastError) := closeHandle fd
  if r = 0 then (-1, lastError) else (0, saved)

end QuestdbNative.Files
