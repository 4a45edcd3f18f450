import Statements.Outcome.Records
import Statements.Proofs.Row.Readings

/-!
# Rows read as rows

An outcome hands its rows out as values of any type by way of their JSON values, and a row may be
asked for as a row again. That never fails, but it is not the identity: the JSON value has each
column once, and it does not show all of a scalar. What comes back is the row collapsed, with every
scalar in its normal form (`Row.decode_members`), and that comes back as it is.

So the two conventions of looking up a column meet. Of the scalars given to a column, the row
answers the first; what comes back answers the normal form of the last.
-/

namespace Statements

namespace Row

/-- Every column once, at its first position, with its last scalar in normal form. -/
def canonical (row : Row) : Row := row.collapsed.normal

/-- The scalars given to the column, in order. -/
def given (row : Row) (column : String) : List Scalar := row.entries.given column

theorem normal_collapsed (row : Row) : row.collapsed.normal = row.normal.collapsed := by
  rw [normal, collapsed, Entries.mapValues_collapse]
  rfl

theorem collapsed_collapsed (row : Row) : row.collapsed.collapsed = row.collapsed := by
  rw [collapsed, collapsed, Entries.collapse_collapse]

theorem canonical_canonical (row : Row) : row.canonical.canonical = row.canonical := by
  calc row.collapsed.normal.collapsed.normal
      = row.collapsed.collapsed.normal.normal := by rw [normal_collapsed row.collapsed]
    _ = row.collapsed.normal := by rw [collapsed_collapsed, normal_normal]

/-- The row answers the first scalar given to the column. -/
theorem get?_eq_head? (row : Row) (column : String) :
    row.get? column = (row.given column).head? :=
  Entries.first?_eq_head?_given row.entries column

/-- What comes back answers the normal form of the last scalar given to the column. -/
theorem get?_canonical (row : Row) (column : String) :
    row.canonical.get? column = (row.given column).getLast?.map Scalar.normal := by
  calc row.canonical.get? column
      = (row.entries.mapValues Scalar.normal).last? column := by
        rw [canonical, normal_collapsed, get?_collapsed]
        rfl
    _ = (row.entries.last? column).map Scalar.normal := Entries.last?_mapValues _ _ _
    _ = (row.given column).getLast?.map Scalar.normal := by
        rw [Entries.last?_eq_getLast?_given, given]

/-- **A row comes back from its JSON members** collapsed and in normal form. -/
theorem decode_members (row : Row) : decode (.object row.members) = .ok row.canonical := by
  have decoded : Decoded (row.entries.mapValues Scalar.toJson)
      (row.entries.mapValues Scalar.normal) := by
    refine Entries.related_mapValues ?_ _
    exact Scalar.decode_toJson
  rw [canonical, normal_collapsed]
  exact decode_eq_ok.mpr ⟨row.members, rfl, decoded.collapse⟩

end Row

namespace Outcome

theorem decode_rows_eq (list : List Row) :
    (Outcome.rows list).decode Row = .ok (list.map Row.canonical) := by
  refine bind_eq_ok.mpr ⟨list, rfl, mapM_eq_ok.mpr ?_⟩
  rw [List.forall₂_map_right_iff, List.forall₂_same]
  intro row _
  have read : OfRow.ofMembers row.members = .ok row.canonical := row.decode_members
  rw [read]

/-- **Rows can always be read as rows**, as many as there are, and each comes back collapsed and in
normal form; a second time nothing changes. A row answers the first scalar given to a column, and
what comes back answers the normal form of the last. So the column answers what it did, in normal
form, exactly if the first and the last scalar given to it have the same one. -/
theorem decode_rows (list : List Row) :
    (Outcome.rows list).decode Row = .ok (list.map Row.canonical) ∧
      (list.map Row.canonical).length = list.length ∧
      (Outcome.rows (list.map Row.canonical)).decode Row = .ok (list.map Row.canonical) ∧
      ∀ row : Row,
        row.canonical.columns = row.columns.eraseDups ∧
        ∀ column,
          row.get? column = (row.given column).head? ∧
          row.canonical.get? column = (row.given column).getLast?.map Scalar.normal ∧
          (row.canonical.get? column = (row.get? column).map Scalar.normal ↔
            (row.given column).head?.map Scalar.normal =
              (row.given column).getLast?.map Scalar.normal) := by
  refine ⟨decode_rows_eq list, List.length_map _, ?_, fun row => ⟨?_, fun column => ?_⟩⟩
  · rw [decode_rows_eq, List.map_map]
    exact congrArg Except.ok (List.map_congr_left fun row _ => row.canonical_canonical)
  · rw [Row.canonical, Row.columns_normal, Row.columns_collapsed]
  · have first := row.get?_eq_head? column
    have last := row.get?_canonical column
    refine ⟨first, last, ?_⟩
    rw [first, last]
    exact eq_comm

end Outcome

end Statements
