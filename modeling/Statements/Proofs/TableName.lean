import Statements.TableName

/-!
# Which texts name a table

A table is its name and nothing else, and every text but the empty one is a name.
-/

namespace Statements.TableName

theorem text_injective : Function.Injective text := by
  rintro ⟨text, nonempty⟩ ⟨other, _⟩ same
  obtain rfl : text = other := same
  rfl

theorem ofText_text (table : TableName) : ofText table.text = .ok table := dif_pos table.nonempty

theorem text_of_ofText {text : String} {table : TableName} (named : ofText text = .ok table) :
    table.text = text := by
  unfold ofText at named
  split at named
  · rw [← Except.ok.inj named]
  · cases named

end Statements.TableName
