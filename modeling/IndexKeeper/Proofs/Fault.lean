import IndexKeeper.Fault

/-!
# Every fault has a wording

A status records a fault by its message, and an empty text means that there was none: so no message
may be empty, whatever the texts in it are.
-/

namespace IndexKeeper

theorem append_ne_empty_left {s : String} (h : s ≠ "") (t : String) : s ++ t ≠ "" := by
  intro heq
  have hlist : s.toList ++ t.toList = [] := by rw [← String.toList_append, heq, String.toList_empty]
  exact h (String.toList_inj.mp (List.append_eq_nil_iff.mp hlist).1)

theorem append_ne_empty_right (s : String) {t : String} (h : t ≠ "") : s ++ t ≠ "" := by
  intro heq
  have hlist : s.toList ++ t.toList = [] := by rw [← String.toList_append, heq, String.toList_empty]
  exact h (String.toList_inj.mp (List.append_eq_nil_iff.mp hlist).2)

theorem Malformed.report_ne_empty (m : Malformed) : m.report ≠ "" :=
  append_ne_empty_left (by decide) m.message

theorem RemoteError.message_ne_empty (e : RemoteError) : e.message ≠ "" := by
  cases e with
  | notFound => decide
  | transport cause => exact append_ne_empty_left (by decide) _
  | status code body =>
    exact append_ne_empty_left (append_ne_empty_left (append_ne_empty_left (by decide) _) _) _
  | notAcknowledged operation => exact append_ne_empty_right _ (by decide)
  | decode cause => exact append_ne_empty_left (by decide) _

theorem Fault.message_ne_empty (f : Fault) : f.message ≠ "" := by
  cases f with
  | remote cause => exact cause.message_ne_empty
  | malformed cause => exact cause.report_ne_empty
  | immutableSetting path observed desired => exact append_ne_empty_right _ (by decide)
  | notOwned name => exact append_ne_empty_right _ (by decide)
  | _ => exact append_ne_empty_left (by decide) _

end IndexKeeper
