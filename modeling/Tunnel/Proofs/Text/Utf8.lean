import Tunnel.Text.Utf8

/-!
# Text in UTF-8

## Main statements

* `decode?_toUTF8` — a text is read back from its bytes.
-/

namespace Tunnel.Utf8

theorem decode?_toUTF8 (text : String) : decode? text.toUTF8.data.toList = some text := by
  rw [decode?, Array.toArray_toList, String.toUTF8_eq_toByteArray, String.fromUTF8?,
    dif_pos text.isValidUTF8]
  rfl

end Tunnel.Utf8
