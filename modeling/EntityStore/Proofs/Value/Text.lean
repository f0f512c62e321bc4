import EntityStore.Sql.Datum

/-! # Texts and their bytes

A text that the engine is given is read from it again.
-/

namespace EntityStore.Sql

theorem fromUTF8?_toByteArray (s : String) : String.fromUTF8? s.toByteArray = some s := by
  rw [String.fromUTF8?, dif_pos s.isValidUTF8]
  rfl

namespace Datum

@[simp] theorem readText_toByteArray (s : String) : readText s.toByteArray = s := by
  rw [readText, fromUTF8?_toByteArray]

@[simp] theorem textBytes_ofString (s : String) : (ofString s).textBytes = s.toByteArray := rfl

/-- Texts in rows of their own, read from them again. -/
theorem readText_rows {α : Type} (f : String → α) (names : List String) :
    ((names.map fun s => [ofString s]).flatten.map fun d => f (readText d.textBytes)) =
      names.map f := by
  induction names with
  | nil => rfl
  | cons name rest ih =>
    rw [List.map_cons, List.flatten_cons, List.map_append, ih, List.map_singleton,
      textBytes_ofString, readText_toByteArray]
    rfl

end Datum

end EntityStore.Sql
